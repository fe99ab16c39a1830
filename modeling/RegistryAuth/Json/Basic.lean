import RegistryAuth.Number.Binary64

/-! # JSON values

The values of JSON texts and of component configuration. A number is an integer
or a double precision number, and an object lists its members in the order of
their writing. The sorted form of a value has the members of each object in
ascending order of their names, each name once.
-/

namespace RegistryAuth

inductive Json where
  | null
  | bool (value : Bool)
  | int (value : Int)
  | real (value : Binary64)
  | string (value : String)
  | array (items : List Json)
  | object (members : List (String × Json))
deriving Repr, Inhabited

namespace Json

/-- Puts a member into a list sorted by name, in place of one of the same name. -/
def insertMember (members : List (String × Json)) (name : String) (value : Json) :
    List (String × Json) :=
  match members with
  | [] => [(name, value)]
  | (n, v) :: rest =>
    if name < n then (name, value) :: (n, v) :: rest
    else if name == n then (name, value) :: rest
    else (n, v) :: insertMember rest name value

mutual

def sorted : Json → Json
  | array items => array (sortedItems items)
  | object members => object (sortedMembers members [])
  | value => value

def sortedItems : List Json → List Json
  | [] => []
  | item :: rest => sorted item :: sortedItems rest

/-- Of two members of one name the later counts. -/
def sortedMembers : List (String × Json) → List (String × Json) → List (String × Json)
  | [], done => done
  | (name, value) :: rest, done => sortedMembers rest (insertMember done name (sorted value))

end

/-- The value of the last member of a name. -/
def member? (json : Json) (name : String) : Option Json :=
  match json with
  | object members => members.reverse.lookup name
  | _ => none

def ofStrings (texts : List String) : Json :=
  array (texts.map string)

/-- A value that may be absent, written as `null` then. -/
def ofOption (value : Option Json) : Json :=
  value.getD null

end Json

end RegistryAuth
