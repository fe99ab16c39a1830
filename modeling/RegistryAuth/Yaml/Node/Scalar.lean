import RegistryAuth.Number.Decimal
import RegistryAuth.Yaml.Token.Quoted

/-! # Nodes and their scalars

A node is a scalar or a collection of nodes; the nodes of a mapping are listed
keys and values in turn. What a plain scalar without a tag means shows in its
spelling. A tag of the core schema asks for a type, and a scalar that has
another spelling then cannot be read.
-/

namespace RegistryAuth.Yaml

inductive Node where
  | null
  | bool (value : Bool)
  | int (value : Int)
  | real (text : String)
  | string (text : String)
  | unreadable
  | sequence (items : List Node)
  | mapping (nodes : List Node)
deriving Repr, Inhabited

/-- The type that a tag asks for. -/
inductive ScalarType where
  | bool
  | int
  | float
  | null
  | string
deriving DecidableEq, Repr

namespace ScalarType

def core : String := "tag:yaml.org,2002:"

def ofTag (expansion suffix : String) : ScalarType :=
  if expansion = core then
    if suffix = "bool" then bool
    else if suffix = "int" then int
    else if suffix = "float" then float
    else if suffix = "null" then null
    else string
  else string

end ScalarType

namespace Node

def realWords : List String :=
  [".inf", ".Inf", ".INF", "+.inf", "+.Inf", "+.INF", "-.inf", "-.Inf", "-.INF",
    ".nan", ".NaN", ".NAN"]

def isRealText (text : String) : Bool :=
  realWords.contains text ||
    (text.toList.any Decimal.isDigit && (Decimal.number? text.toList).isSome)

def bool? (text : String) : Option Bool :=
  if text = "true" then some true else if text = "false" then some false else none

def digitsValue? (base : Nat) (digits : List Char) : Option Nat :=
  if digits.isEmpty then none
  else digits.foldlM (fun n c =>
    ((Quoted.hexValue? c).filter (· < base)).map (base * n + ·)) 0

/-- An integer of a base after a sign, if it fits into 64 bits with a sign. -/
def integerOfBase? (base : Nat) (text : List Char) : Option Int :=
  let value := match text with
    | '-' :: rest => (digitsValue? base rest).map fun n => -(n : Int)
    | '+' :: rest => (digitsValue? base rest).map fun n => (n : Int)
    | _ => (digitsValue? base text).map fun n => (n : Int)
  value.filter Decimal.fitsInt64

/-- An integer with the mark of its base or with a plus sign before it. -/
def markedInteger? : List Char → Option Int
  | '0' :: 'x' :: rest => integerOfBase? 16 rest
  | '0' :: 'o' :: rest => integerOfBase? 8 rest
  | '+' :: rest => Decimal.int64? rest
  | _ => none

/-- What a plain scalar without a tag means. -/
def ofPlain (text : String) : Node :=
  match markedInteger? text.toList with
  | some n => int n
  | none =>
    if text = "" || text = "~" || text = "null" then null
    else match bool? text, Decimal.int64? text.toList with
      | some b, _ => bool b
      | none, some n => int n
      | none, none => if isRealText text then real text else string text

/-- What a plain scalar means that a tag asks a type of. -/
def ofTyped (type : ScalarType) (text : String) : Node :=
  match type with
  | .bool => ((bool? text).map bool).getD unreadable
  | .int => ((Decimal.int64? text.toList).map int).getD unreadable
  | .float => if isRealText text then real text else unreadable
  | .null => if text = "~" || text = "null" then null else unreadable
  | .string => string text

def ofScalar (plain : Bool) (type : Option ScalarType) (text : String) : Node :=
  if !plain then string text
  else match type with
    | some type => ofTyped type text
    | none => ofPlain text

end Node

end RegistryAuth.Yaml
