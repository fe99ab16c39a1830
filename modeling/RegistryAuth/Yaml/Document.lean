import RegistryAuth.Json.Basic
import RegistryAuth.Yaml.Node.Reader

/-! # YAML documents

A text that holds one document stands for a value. The keys of a mapping are
strings or scalars taken by their text, no two of them are equal, and a key that
cannot be read is passed over. A text without a document is an empty mapping. A
null character ends the text.
-/

namespace RegistryAuth.Yaml

/-- A key of a mapping. Keys of different types differ even if their texts agree. -/
inductive Key where
  | string (text : String)
  | int (value : Int)
  | bool (value : Bool)
  | real (text : String)
deriving DecidableEq, Repr

namespace Key

def text : Key → String
  | string text => text
  | int value => toString value
  | bool value => toString value
  | real text => text

def ofNode? : Node → Option Key
  | .string text => some (string text)
  | .int value => some (int value)
  | .bool value => some (bool value)
  | .real text => some (real text)
  | _ => none

end Key

namespace Node

mutual

/-- The value of a node. A number that is not written with digits has none. -/
def toJson? : Node → Option Json
  | null => some .null
  | bool value => some (.bool value)
  | int value => some (.int value)
  | real text => (Decimal.number? text.toList).map .real
  | string text => some (.string text)
  | unreadable => some .null
  | sequence items => (itemsToJson? items).map .array
  | mapping nodes => (membersToJson? [] none nodes).map .object

def itemsToJson? : List Node → Option (List Json)
  | [] => some []
  | item :: rest => do return (← toJson? item) :: (← itemsToJson? rest)

/-- The members that keys and values in turn make up, after the keys `known`. `key` is a key whose
value comes next. -/
def membersToJson? (known : List Key) (key : Option Key) :
    List Node → Option (List (String × Json))
  | [] => some []
  | node :: rest =>
    match key with
    | some key => do
      let member := (key.text, ← toJson? node)
      return member :: (← membersToJson? (key :: known) none rest)
    | none =>
      match node with
      | .unreadable => membersToJson? known none rest
      | node =>
        match Key.ofNode? node with
        | none => none
        | some key => if known.contains key then none else membersToJson? known (some key) rest

end

end Node

/-- The value that a text stands for, if it is well formed and holds at most one document. -/
def parse? (text : String) : Option Json := do
  match ← Node.ofText? (text.toList.takeWhile (· != '\x00')) with
  | some root => root.toJson?
  | none => return .object []

end RegistryAuth.Yaml
