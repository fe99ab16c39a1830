import RegistryAuth.Json.Printer

/-! # Reading records from JSON

A record is read from an object by the names of its fields or from an array by
their positions. A faulty member is reported before a missing one: the faults
have places, members by their position in the object and missing fields after
them by their position in the record, and the fault of least place is the one
reported. Members that name no field are passed over.
-/

namespace RegistryAuth

inductive DecodeError where
  | wrongType (found expected : String)
  | wrongValue (found expected : String)
  | wrongLength (length : Nat) (expected : String)
  | missingField (name : String)
  | duplicateField (name : String)
deriving DecidableEq, Repr

def DecodeError.message : DecodeError → String
  | wrongType found expected => s!"invalid type: {found}, expected {expected}"
  | wrongValue found expected => s!"invalid value: {found}, expected {expected}"
  | wrongLength length expected => s!"invalid length {length}, expected {expected}"
  | missingField name => "missing field \x60" ++ name ++ "\x60"
  | duplicateField name => "duplicate field \x60" ++ name ++ "\x60"

namespace Json

/-- A value as messages about a wrong type name it. -/
def describe : Json → String
  | null => "null"
  | bool value => "boolean \x60" ++ toString value ++ "\x60"
  | int value => "integer \x60" ++ toString value ++ "\x60"
  | real value => "floating point \x60" ++ String.ofList (realText value) ++ "\x60"
  | string value => "string " ++ Text.quoted value
  | array _ => "sequence"
  | object _ => "map"

end Json

/-- A way to read a value of type `α` from JSON. -/
abbrev JsonReader (α : Type) := Json → Except DecodeError α

namespace JsonReader

def mismatch {α : Type} (json : Json) (expected : String) : Except DecodeError α :=
  .error (.wrongType json.describe expected)

def text : JsonReader String
  | .string value => .ok value
  | json => mismatch json "a string"

def path : JsonReader String
  | .string value => .ok value
  | json => mismatch json "path string"

def bool : JsonReader Bool
  | .bool value => .ok value
  | json => mismatch json "a boolean"

/-- An integer from `0` to `limit`. -/
def natural (limit : Nat) (expected : String) : JsonReader Nat
  | .int value =>
    if 0 ≤ value && value ≤ limit then .ok value.toNat
    else .error (.wrongValue (Json.int value).describe expected)
  | json => mismatch json expected

def nat64 : JsonReader Nat := natural (UInt64.size - 1) "u64"

def int64 : JsonReader Int
  | .int value =>
    if -0x8000000000000000 ≤ value && value < 0x8000000000000000 then .ok value
    else .error (.wrongValue (Json.int value).describe "i64")
  | json => mismatch json "i64"

/-- A value of any kind but `null`, which stands for no value. -/
def optional {α : Type} (reader : JsonReader α) : JsonReader (Option α)
  | .null => .ok none
  | json => (reader json).map some

def list {α : Type} (reader : JsonReader α) : JsonReader (List α)
  | .array items => items.mapM reader
  | json => mismatch json "a sequence"

def dictionary {α : Type} (reader : JsonReader α) : JsonReader (List (String × α))
  | .object members => members.mapM fun (name, value) => (reader value).map fun a => (name, a)
  | json => mismatch json "a map"

end JsonReader

/-- What the fields of a record are read from. -/
inductive RecordSource where
  | members (members : List (String × Json))
  | items (items : List Json) (expected : String)

/-- A way to read some fields of a record, `width` many. Reading is told how many fields stand
before them, and gives with an error its place. -/
structure RecordReader (α : Type) where
  width : Nat
  read : RecordSource → Nat → Except (Nat × DecodeError) α

namespace RecordReader

variable {α β : Type}

def pure (value : α) : RecordReader α :=
  ⟨0, fun _ _ => .ok value⟩

def map (f : α → β) (reader : RecordReader α) : RecordReader β :=
  ⟨reader.width, fun source start => (reader.read source start).map f⟩

/-- Reads two groups of fields one after the other; of two errors the one with the least place
counts. -/
def seq (f : RecordReader (α → β)) (x : Unit → RecordReader α) : RecordReader β :=
  ⟨f.width + (x ()).width, fun source start =>
    match f.read source start, (x ()).read source (start + f.width) with
    | .ok f, .ok x => .ok (f x)
    | .error e, .ok _ => .error e
    | .ok _, .error e => .error e
    | .error e, .error e' => .error (if e'.1 < e.1 then e' else e)⟩

instance : Applicative RecordReader where
  pure := pure
  map := map
  seq := seq

/-- The members called by one of the names, with their places. -/
def occurrences (names : List String) (members : List (String × Json)) : List (Json × Nat) :=
  (members.zipIdx.filter fun ((name, _), _) => names.contains name).map fun ((_, value), place) =>
    (value, place)

/-- A field called by `name` or one of `aliases`. `absentMember` stands in for it when an object
lacks it and `absentItem` when an array is too short. -/
def fieldWith (name : String) (aliases : List String) (reader : JsonReader α)
    (absentMember absentItem : Option α) : RecordReader α :=
  ⟨1, fun source index =>
    match source with
    | .members members =>
      match occurrences (name :: aliases) members with
      | [] =>
        match absentMember with
        | some value => .ok value
        | none => .error (members.length + index, .missingField name)
      | (value, place) :: others =>
        match reader value, others with
        | .error e, _ => .error (place, e)
        | .ok value, [] => .ok value
        | .ok _, (_, second) :: _ => .error (second, .duplicateField name)
    | .items items expected =>
      match items[index]? with
      | some value => (reader value).mapError fun e => (index, e)
      | none =>
        match absentItem with
        | some value => .ok value
        | none => .error (index, .wrongLength index expected)⟩

def required (name : String) (reader : JsonReader α) (aliases : List String := []) :
    RecordReader α :=
  fieldWith name aliases reader none none

def defaulted (name : String) (reader : JsonReader α) (value : α) (aliases : List String := []) :
    RecordReader α :=
  fieldWith name aliases reader (some value) (some value)

/-- A field that an object may lack; an array must have an item for it. -/
def optional (name : String) (reader : JsonReader α) : RecordReader (Option α) :=
  fieldWith name [] (JsonReader.optional reader) (some none) none

def expectedRecord (name : String) (width : Nat) : String :=
  s!"struct {name} with {width} " ++ if width = 1 then "element" else "elements"

/-- Reads the record called `name` in messages. -/
def toReader (name : String) (reader : RecordReader α) : JsonReader α
  | .object members => (reader.read (.members members) 0).mapError (·.2)
  | .array items =>
    match reader.read (.items items (expectedRecord name reader.width)) 0 with
    | .error e => .error e.2
    | .ok value =>
      if items.length > reader.width then
        .error (.wrongLength items.length "fewer elements in array")
      else .ok value
  | json => JsonReader.mismatch json s!"struct {name}"

end RecordReader

end RegistryAuth
