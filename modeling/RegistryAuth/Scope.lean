import RegistryAuth.Error
import RegistryAuth.Text.Split

/-! # Scopes

A scope names actions on one resource and is written `type:name:action,action`.
The type ends at the first colon and the actions begin after the last one, so
that a name may hold colons. Reading a list of scopes merges those that name the
same resource, and one list is within another if each of its scopes is covered.
-/

namespace RegistryAuth

structure Scope where
  resourceType : String
  resourceName : String
  actions : List String
deriving DecidableEq, Repr

namespace Scope

/-- A list of actions with more actions at its end, without the empty ones and without those it
already holds. -/
def mergeActions (held : List String) (more : List String) : List String :=
  more.foldl (fun held action =>
    if action.isEmpty || held.contains action then held else held ++ [action]) held

def ofActions (resourceType resourceName : String) (actions : List String) : Scope :=
  ⟨resourceType, resourceName, mergeActions [] actions⟩

def hasAction (scope : Scope) (action : String) : Bool :=
  scope.actions.contains action

def sameResource (a b : Scope) : Bool :=
  a.resourceType == b.resourceType && a.resourceName == b.resourceName

/-- Whether `a` names every action that `b` names on its resource. -/
def covers (a b : Scope) : Bool :=
  a.sameResource b && b.actions.all a.hasAction

/-- The scope with only the allowed actions, unless none is left. -/
def narrow? (scope : Scope) (allowed : String → Bool) : Option Scope :=
  match scope.actions.filter allowed with
  | [] => none
  | actions => some { scope with actions }

def toText (scope : Scope) : List Char :=
  scope.resourceType.toList ++ ':' :: scope.resourceName.toList ++
    ':' :: [','].intercalate (scope.actions.map String.toList)

def render (scope : Scope) : String :=
  String.ofList scope.toText

def ofText? (text : List Char) : Option Scope := do
  let (resourceType, rest) ← Text.splitFirst? ':' text
  let (resourceName, actions) ← Text.splitLast? ':' rest
  if resourceType.isEmpty || resourceName.isEmpty then
    none
  else
    some (ofActions (String.ofList resourceType) (String.ofList resourceName)
      ((Text.splitOn ',' actions).map fun action => String.ofList (Text.trim action)))

def parse (text : String) : Except AuthError Scope :=
  match ofText? text.toList with
  | some scope => .ok scope
  | none => .error (.malformedScope text)

/-- Adds a scope to a list of scopes of different resources: its actions join those already
requested on its resource, else it comes last. -/
def insertMerged (scopes : List Scope) (scope : Scope) : List Scope :=
  match scopes with
  | [] => [scope]
  | held :: others =>
    if held.sameResource scope then
      { held with actions := mergeActions held.actions scope.actions } :: others
    else held :: insertMerged others scope

def parseWords (scopes : List Scope) : List String → Except AuthError (List Scope)
  | [] => .ok scopes
  | word :: rest =>
    match parse word with
    | .ok scope => parseWords (insertMerged scopes scope) rest
    | .error e => .error e

/-- Reads the scopes written in several values, each a list of words. -/
def parseAll (values : List String) : Except AuthError (List Scope) :=
  parseWords [] (values.flatMap fun value => (Text.words value.toList).map String.ofList)

def renderAll (scopes : List Scope) : String :=
  " ".intercalate (scopes.map render)

/-- Whether each granted scope is covered by a requested one. -/
def isSubset (granted requested : List Scope) : Bool :=
  granted.all fun g => requested.any fun r => r.covers g

end Scope

/-- An authoriser must not grant more than was requested. -/
def AuthError.widened (granted requested : List Scope) : AuthError :=
  .internal ("authorizer granted " ++ Text.quoted (Scope.renderAll granted) ++
    " beyond the requested " ++ Text.quoted (Scope.renderAll requested))

end RegistryAuth
