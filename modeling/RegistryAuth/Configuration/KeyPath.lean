import RegistryAuth.Number.Decimal

/-! # Key paths

A key of a configuration is a path: a name, and then names after dots and places
in brackets. A place below zero counts from the end of a list. Names are made of
ASCII letters, digits, underscores and hyphens.
-/

namespace RegistryAuth

inductive KeyStep where
  | name (name : String)
  | place (index : Int)
deriving DecidableEq, Repr

structure KeyPath where
  root : String
  steps : List KeyStep
deriving DecidableEq, Repr

/-- What a text lacks, at a distance from its end, to be a path. -/
inductive KeyPathFault where
  | name
  | step
  | place
  | closingBracket
deriving DecidableEq, Repr

structure KeyPathError where
  fault : KeyPathFault
  /-- How many characters are left of the text. -/
  left : Nat
deriving DecidableEq, Repr

namespace KeyPath

/-- The path of a single name, whatever its characters are. -/
def ofName (name : String) : KeyPath := ⟨name, []⟩

def isNameChar (c : Char) : Bool :=
  ('a' ≤ c && c ≤ 'z') || ('A' ≤ c && c ≤ 'Z') || ('0' ≤ c && c ≤ '9') || c = '_' || c = '-'

def isSpace (c : Char) : Bool := c = ' ' || c = '\t'

def readName (text : List Char) : Except KeyPathError (String × List Char) :=
  let name := text.takeWhile isNameChar
  if name.isEmpty then .error ⟨.name, text.length⟩
  else .ok (String.ofList name, text.drop name.length)

/-- Reads an integer of 64 bits, with spaces around it, and the closing bracket. -/
def readPlace (text : List Char) : Except KeyPathError (Int × List Char) :=
  let text := text.dropWhile isSpace
  let (negative, digitsOn) :=
    match text with
    | '-' :: rest => (true, rest)
    | _ => (false, text)
  let digits := digitsOn.takeWhile Decimal.isDigit
  let value : Int := if negative then -(Decimal.value digits : Int) else Decimal.value digits
  if digits.isEmpty || !Decimal.fitsInt64 value then .error ⟨.place, text.length⟩
  else
    match (digitsOn.drop digits.length).dropWhile isSpace with
    | ']' :: rest => .ok (value, rest)
    | rest => .error ⟨.closingBracket, rest.length⟩

/-- Reads the steps after the name. Each takes a character at least. -/
def readSteps : Nat → List Char → Except KeyPathError (List KeyStep)
  | 0, _ | _, [] => .ok []
  | fuel + 1, c :: rest =>
    if c = '.' then do
      let (name, rest) ← readName rest
      return .name name :: (← readSteps fuel rest)
    else if c = '[' then do
      let (index, rest) ← readPlace rest
      return .place index :: (← readSteps fuel rest)
    else .error ⟨.step, rest.length + 1⟩

def parse (text : String) : Except KeyPathError KeyPath := do
  let (root, rest) ← readName text.toList
  return ⟨root, ← readSteps rest.length rest⟩

end KeyPath

namespace KeyPathError

def labels : KeyPathFault → String × String
  | .name => ("identifier", "ASCII alphanumeric, \x60_\x60, \x60-\x60")
  | .step => ("postfix", "\x60[\x60, \x60.\x60")
  | .place => ("subscript", "integer")
  | .closingBracket => ("subscript", "\x60]\x60")

/-- Points at the fault on a line below the text. -/
def message (error : KeyPathError) (text : String) : String :=
  let (invalid, expected) := labels error.fault
  let margin := String.ofList (List.replicate (text.length - error.left) ' ')
  text ++ "\n" ++ margin ++ "^\n" ++ s!"invalid {invalid}\nexpected {expected}"

end KeyPathError

end RegistryAuth
