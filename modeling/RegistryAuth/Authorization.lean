import RegistryAuth.Glob
import RegistryAuth.Stage

/-! # Authorisation

An authoriser narrows requested scopes to what a subject may do. A rule names
subjects, resources and actions; the static authoriser grants, of each requested
scope, the actions that some matching rule allows, and drops a scope of which
nothing is left.
-/

namespace RegistryAuth

structure Authorizer where
  authorize : Subject → List Scope → Reply (List Scope)

namespace Authorizer

def allowAll : Authorizer :=
  ⟨fun _ requested => Reply.value requested⟩

end Authorizer

/-- A rule without subjects applies to every authenticated subject. An anonymous rule applies to
the anonymous subject and to no other. -/
structure Rule where
  anonymous : Bool
  subjects : List String
  attributes : Attributes
  resourceType : String
  names : List String
  actions : List String
deriving DecidableEq, Repr

namespace Rule

def matchesSubject (rule : Rule) (subject : Subject) : Bool :=
  if rule.anonymous then subject.isAnonymous
  else
    !subject.isAnonymous &&
      (rule.subjects.isEmpty || rule.subjects.contains subject.id) &&
      rule.attributes.all fun (name, value) => subject.attribute? name == some value

/-- A name pattern for one subject: the placeholder gives way to the subject's id. -/
def expandPattern (pattern : String) (subject : Subject) : String :=
  String.ofList (Text.replace "\x7bsubject\x7d".toList subject.id.toList pattern.toList)

def matchesResource (rule : Rule) (subject : Subject) (scope : Scope) : Bool :=
  scope.resourceType == rule.resourceType &&
    rule.names.any fun pattern =>
      Glob.matchesName (expandPattern pattern subject) scope.resourceName

def allows (rule : Rule) (action : String) : Bool :=
  rule.actions.any fun allowed => allowed == "*" || allowed == action

end Rule

/-- A list of rules as an authoriser. -/
structure RuleSet where
  rules : List Rule
deriving DecidableEq, Repr

namespace RuleSet

def authorizeScope? (ruleSet : RuleSet) (subject : Subject) (scope : Scope) : Option Scope :=
  let matching := ruleSet.rules.filter fun rule =>
    rule.matchesSubject subject && rule.matchesResource subject scope
  scope.narrow? fun action => matching.any fun rule => rule.allows action

def grant (ruleSet : RuleSet) (subject : Subject) (requested : List Scope) : List Scope :=
  requested.filterMap (ruleSet.authorizeScope? subject)

def authorizer (ruleSet : RuleSet) : Authorizer :=
  ⟨fun subject requested => Reply.value (ruleSet.grant subject requested)⟩

end RuleSet

end RegistryAuth
