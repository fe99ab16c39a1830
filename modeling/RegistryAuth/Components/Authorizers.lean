import RegistryAuth.Authorization
import RegistryAuth.Registry

/-! # Configured authorisers

Two kinds of authoriser can be configured: `static` with a list of rules, and
`allow_all`, which grants every request and warns when it is built. A rule is
valid if it names patterns, actions and a resource type, and if it does not ask
of the anonymous subject what that subject cannot have.
-/

namespace RegistryAuth

namespace Attributes

def reader : JsonReader Attributes :=
  fun json => (JsonReader.dictionary JsonReader.text json).map ofList

end Attributes

namespace Rule

def reader : JsonReader Rule :=
  RecordReader.toReader "Rule" <|
    Rule.mk
      <$> RecordReader.defaulted "anonymous" JsonReader.bool false
      <*> RecordReader.defaulted "subjects" (JsonReader.list JsonReader.text) []
      <*> RecordReader.defaulted "attributes" Attributes.reader []
      <*> RecordReader.defaulted "resource_type" JsonReader.text "repository"
      <*> RecordReader.required "names" (JsonReader.list JsonReader.text)
      <*> RecordReader.required "actions" (JsonReader.list JsonReader.text)

inductive Fault where
  | noNames
  | emptyName
  | noActions
  | emptyResourceType
  | anonymousWithSubjects
deriving DecidableEq, Repr

def Fault.message : Fault → String
  | noNames => "at least one name pattern is required"
  | emptyName => "name patterns must not be empty"
  | noActions => "at least one action is required"
  | emptyResourceType => "resource type must not be empty"
  | anonymousWithSubjects => "anonymous rules cannot also match subjects or attributes"

def fault? (rule : Rule) : Option Fault :=
  if rule.names.isEmpty then some .noNames
  else if rule.names.any String.isEmpty then some .emptyName
  else if rule.actions.isEmpty then some .noActions
  else if rule.resourceType.isEmpty then some .emptyResourceType
  else if rule.anonymous && (!rule.subjects.isEmpty || !rule.attributes.isEmpty) then
    some .anonymousWithSubjects
  else none

end Rule

namespace RuleSet

def reader : JsonReader RuleSet :=
  RecordReader.toReader "StaticAuthorizerConfig" <|
    RuleSet.mk <$> RecordReader.defaulted "rules" (JsonReader.list Rule.reader) []

def validate (ruleSet : RuleSet) : Except ConfigError Unit :=
  match ruleSet.rules.zipIdx.findSome? fun (rule, i) => rule.fault?.map fun fault => (i, fault) with
  | some (i, fault) =>
    .error (.invalidComponent "static authorizer" s!"rules[{i}]: {fault.message}")
  | none => .ok ()

def recipe (ruleSet : RuleSet) : Recipe Authorizer :=
  ⟨ruleSet.validate, .ok ⟨ruleSet.authorizer, []⟩⟩

end RuleSet

namespace Authorizer

def allowAllReader : JsonReader Unit :=
  RecordReader.toReader "AllowAllAuthorizerConfig" (RecordReader.pure ())

def allowAllWarning : LogEvent :=
  ⟨.warn, "allow_all authorizer grants every requested scope", []⟩

def allowAllRecipe : Recipe Authorizer :=
  ⟨.ok (), .ok ⟨allowAll, [allowAllWarning]⟩⟩

/-- The authorisers that a configuration can name. -/
def registry : Registry Authorizer :=
  ⟨"authorizer",
    [("allow_all", Decoder.ofReader allowAllReader fun _ => allowAllRecipe),
      ("static", Decoder.ofReader RuleSet.reader RuleSet.recipe)]⟩

end Authorizer

end RegistryAuth
