import RegistryAuth.ConfigError
import RegistryAuth.Configuration.Setting
import RegistryAuth.Number.Decimal
import RegistryAuth.Number.Shortest
import RegistryAuth.Text.Lowercase

/-! # Reading settings

Scalars are converted to the type that a field asks for: words and numbers stand
for truth values, truth values and texts for integers, and each scalar but the
missing one for its text. The fields of a record stand in a table under their
names or in a list by their places.
-/

namespace RegistryAuth

/-- A way to read a value of type `α` from a setting. -/
abbrev SettingReader (α : Type) := Setting → Except BuildError α

namespace Setting

def origin : Setting → Origin
  | scalar _ origin => origin
  | list _ origin => origin
  | table _ origin => origin

def described (kind text : String) : String := kind ++ " \x60" ++ text ++ "\x60"

/-- A setting as messages about a conversion name it. -/
def describe : Setting → String
  | scalar .unit _ => "unit value"
  | scalar (.bool value) _ => described "boolean" (toString value)
  | scalar (.int value) _ => described "64-bit integer" (toString value)
  | scalar (.real value) _ => described "floating point" value.toPositional
  | scalar (.text value) _ => "string " ++ Text.quoted value
  | list _ _ => "sequence"
  | table _ _ => "map"

/-- A setting as messages about a record name it. -/
def describeShape : Setting → String
  | scalar (.int value) _ => described "integer" (toString value)
  | scalar (.real value) _ => described "floating point" value.toPointed
  | setting => setting.describe

def mismatch {α : Type} (setting : Setting) (found expected : String) : Except BuildError α :=
  .error (.wrongType found expected none setting.origin)

def lowercaseWord (text : String) : String := String.ofList (Text.lowercase text.toList)

def yesWords : List String := ["true", "on", "yes"]

def noWords : List String := ["false", "off", "no"]

def toBool (setting : Setting) : Except BuildError Bool :=
  match setting with
  | scalar (.bool value) _ => .ok value
  | scalar (.int value) _ => .ok (value != 0)
  | scalar (.real value) _ => .ok !value.isZero
  | scalar (.text value) _ =>
    let word := lowercaseWord value
    if word == "1" || yesWords.contains word then .ok true
    else if word == "0" || noWords.contains word then .ok false
    else setting.mismatch (describe (scalar (.text word) none)) "a boolean"
  | _ => setting.mismatch setting.describe "a boolean"

/-- The greatest integer of a field. -/
def naturalLimit : Nat := UInt64.size - 1

/-- The nearest integer within the limits, a half going up. What is no number counts as zero. -/
def roundedNatural (value : Binary64) : Nat :=
  if value.isNaN || value.isNegative then 0
  else if value.isInfinite then naturalLimit
  else min value.roundAway.toNat naturalLimit

def unsigned? : List Char → Option Nat
  | '+' :: rest => Decimal.natural? rest
  | text => Decimal.natural? text

def toNatural (setting : Setting) : Except BuildError Nat :=
  match setting with
  | scalar (.bool value) _ => .ok value.toNat
  | scalar (.int value) _ =>
    if 0 ≤ value then .ok value.toNat
    else setting.mismatch setting.describe "an unsigned 64 bit or less integer"
  | scalar (.real value) _ => .ok (roundedNatural value)
  | scalar (.text value) _ =>
    let word := lowercaseWord value
    if yesWords.contains word then .ok 1
    else if noWords.contains word then .ok 0
    else match (unsigned? value.toList).filter (· ≤ naturalLimit) with
      | some n => .ok n
      | none => setting.mismatch setting.describe "an integer"
  | _ => setting.mismatch setting.describe "an integer"

def toText (setting : Setting) : Except BuildError String :=
  match setting with
  | scalar (.bool value) _ => .ok (toString value)
  | scalar (.int value) _ => .ok (toString value)
  | scalar (.real value) _ => .ok value.toPositional
  | scalar (.text value) _ => .ok value
  | _ => setting.mismatch setting.describe "a string"

end Setting

/-- The fields of a record. -/
inductive Fields where
  | entries (entries : List (String × Setting))
  | items (items : List Setting)

namespace Fields

/-- The fields of the record called `record` in messages. -/
def ofSetting (record : String) : SettingReader Fields
  | .table settings _ => .ok (entries settings)
  | .list settings _ => .ok (items settings)
  | setting => .error (.wrongType setting.describeShape ("struct " ++ record) none none)

/-- Reads the field of a name and a place if it is there. -/
def read? {α : Type} (fields : Fields) (name : String) (place : Nat) (reader : SettingReader α) :
    Except BuildError (Option α) :=
  let found :=
    match fields with
    | entries settings => (settings.lookup name).map fun setting => (name, setting)
    | items settings => settings[place]?.map fun setting => (s!"[{place}]", setting)
  match found with
  | none => .ok none
  | some (step, setting) => ((reader setting).map some).mapError (·.within step)

/-- The value of a field that must be there, in a record of `width` fields. -/
def require {α : Type} (fields : Fields) (record : String) (width : Nat) (name : String)
    (place : Nat) (value : Option α) : Except BuildError α :=
  match value, fields with
  | some value, _ => .ok value
  | none, entries _ => .error (.missingField name)
  | none, items _ =>
    let expected := s!"struct {record} with {width} elements"
    .error (.wrongShape s!"invalid length {place}, expected {expected}" none)

end Fields

end RegistryAuth
