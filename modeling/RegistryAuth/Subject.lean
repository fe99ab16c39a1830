/-! # Subjects

The identity that a request acts for: an id, whether the account is enabled, and
attributes. The anonymous subject is the one with the empty id. Attributes are
kept in the order of their names, each name once.
-/

namespace RegistryAuth

/-- Texts filed under names, in ascending order of the names. -/
abbrev Attributes := List (String × String)

namespace Attributes

def insert (attributes : Attributes) (name value : String) : Attributes :=
  match attributes with
  | [] => [(name, value)]
  | (n, v) :: rest =>
    if name < n then (name, value) :: (n, v) :: rest
    else if name == n then (name, value) :: rest
    else (n, v) :: insert rest name value

/-- Files a list of pairs; of two with one name the later counts. -/
def ofList (pairs : List (String × String)) : Attributes :=
  pairs.foldl (fun attributes (name, value) => attributes.insert name value) []

def get? (attributes : Attributes) (name : String) : Option String :=
  attributes.lookup name

end Attributes

structure Subject where
  id : String
  enabled : Bool
  attributes : Attributes
deriving DecidableEq, Repr

namespace Subject

/-- An enabled subject without attributes. -/
def ofId (id : String) : Subject :=
  ⟨id, true, []⟩

def anonymous : Subject :=
  ofId ""

def isAnonymous (subject : Subject) : Bool :=
  subject.id.isEmpty

def withEnabled (subject : Subject) (enabled : Bool) : Subject :=
  { subject with enabled }

def withAttribute (subject : Subject) (name value : String) : Subject :=
  { subject with attributes := subject.attributes.insert name value }

def withAttributes (subject : Subject) (attributes : Attributes) : Subject :=
  { subject with attributes }

def attribute? (subject : Subject) (name : String) : Option String :=
  subject.attributes.get? name

end Subject

end RegistryAuth
