import RegistryAuth.Codec.Base64
import RegistryAuth.Number.Decimal
import RegistryAuth.Text.Split

/-! # Password hash strings

The text form of a password hash in the PHC format: fields between dollar signs
for the algorithm, its version, its parameters, the salt and the hash. All but
the first may be absent. Names, values and salts are bounded in length and in
the characters they may hold; the hash is written in base64 without padding.
-/

namespace RegistryAuth

structure Phc where
  algorithm : String
  version : Option Nat
  parameters : List (String × String)
  salt : Option String
  hash : Option Bytes
deriving DecidableEq, Repr

namespace Phc

def isNameChar (c : Char) : Bool :=
  ('a' ≤ c && c ≤ 'z') || ('0' ≤ c && c ≤ '9') || c == '-'

def isValueChar (c : Char) : Bool :=
  ('a' ≤ c && c ≤ 'z') || ('A' ≤ c && c ≤ 'Z') || ('0' ≤ c && c ≤ '9') ||
    c == '/' || c == '+' || c == '.' || c == '-'

def isName (text : List Char) : Bool :=
  !text.isEmpty && text.length ≤ 32 && text.all isNameChar

def isValue (text : List Char) : Bool :=
  text.length ≤ 64 && text.all isValueChar

def isSalt (text : List Char) : Bool :=
  4 ≤ text.length && isValue text

/-- A number of at most 32 bits without leading zeros. -/
def decimal? (text : List Char) : Option Nat :=
  if text.length > 1 && text.head? = some '0' then none
  else (Decimal.natural? text).filter (· < UInt32.size)

def parameter? (text : List Char) : Option (String × String) :=
  match Text.splitOn '=' text with
  | [name, value] =>
    if isName name && isValue value then some (String.ofList name, String.ofList value) else none
  | _ => none

def parameters? (text : List Char) : Option (List (String × String)) :=
  if text.length > 127 then none else (Text.splitOn ',' text).mapM parameter?

def hash? (text : List Char) : Option Bytes := do
  let bytes ← Base64.decode? Base64.standard false text
  if 10 ≤ bytes.length && bytes.length ≤ 64 then some bytes else none

/-- Takes the version off the front of the fields, if it is there. -/
def takeVersion (fields : List (List Char)) : Option (Option Nat × List (List Char)) :=
  match fields with
  | ('v' :: '=' :: text) :: rest =>
    if text.contains ',' then some (none, fields)
    else (decimal? text).map fun version => (some version, rest)
  | _ => some (none, fields)

def takeParameters (fields : List (List Char)) :
    Option (List (String × String) × List (List Char)) :=
  match fields with
  | field :: rest =>
    if field.contains '=' then (parameters? field).map fun ps => (ps, rest)
    else some ([], fields)
  | [] => some ([], [])

def takeSalt (fields : List (List Char)) : Option (Option String × List (List Char)) :=
  match fields with
  | field :: rest => if isSalt field then some (some (String.ofList field), rest) else none
  | [] => some (none, [])

def takeHash (fields : List (List Char)) : Option (Option Bytes) :=
  match fields with
  | [] => some none
  | [field] => (hash? field).map some
  | _ => none

def ofText? (text : List Char) : Option Phc :=
  match Text.splitOn '$' text with
  | [] :: algorithm :: fields => do
    if !isName algorithm then none
    else
      let (version, fields) ← takeVersion fields
      let (parameters, fields) ← takeParameters fields
      let (salt, fields) ← takeSalt fields
      let hash ← takeHash fields
      some ⟨String.ofList algorithm, version, parameters, salt, hash⟩
  | _ => none

def parse? (text : String) : Option Phc := ofText? text.toList

def parameterText : String × String → List Char
  | (name, value) => name.toList ++ '=' :: value.toList

/-- The fields that are present, each behind a dollar sign. -/
def toText (phc : Phc) : List Char :=
  let version := match phc.version with
    | some v => [['v', '='] ++ (toString v).toList]
    | none => []
  let parameters :=
    if phc.parameters.isEmpty then []
    else [[','].intercalate (phc.parameters.map parameterText)]
  let salt := match phc.salt with
    | some s => [s.toList]
    | none => []
  let hash := match phc.hash with
    | some h => [Base64.encode Base64.standard false h]
    | none => []
  (phc.algorithm.toList :: (version ++ parameters ++ salt ++ hash)).flatMap ('$' :: ·)

def render (phc : Phc) : String := String.ofList phc.toText

end Phc

end RegistryAuth
