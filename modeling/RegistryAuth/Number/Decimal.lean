import RegistryAuth.Number.Binary64

/-! # Decimal texts

Reading integers and double precision numbers from text. An integer is an
optional sign and digits; a number may have a fraction and an exponent, or be
one of the words for infinity and for no number.
-/

namespace RegistryAuth.Decimal

def isDigit (c : Char) : Bool := '0' ≤ c && c ≤ '9'

def digitValue (c : Char) : Nat := c.toNat - '0'.toNat

def value (digits : List Char) : Nat :=
  digits.foldl (fun n c => 10 * n + digitValue c) 0

/-- A text of one digit or more. -/
def natural? (text : List Char) : Option Nat :=
  if !text.isEmpty && text.all isDigit then some (value text) else none

def integer? : List Char → Option Int
  | '-' :: rest => (natural? rest).map fun n => -(n : Int)
  | '+' :: rest => (natural? rest).map fun n => (n : Int)
  | text => (natural? text).map fun n => (n : Int)

def fitsInt64 (n : Int) : Bool := -0x8000000000000000 ≤ n && n < 0x8000000000000000

/-- An integer text whose value fits into 64 bits with a sign. -/
def int64? (text : List Char) : Option Int :=
  (integer? text).filter fitsInt64

def lowerAscii (text : List Char) : List Char := text.map Char.toLower

def exponent? : List Char → Option Int
  | [] => some 0
  | c :: rest => if c = 'e' || c = 'E' then integer? rest else none

/-- A decimal without sign: digits with at most one point among or around them, and an
exponent. -/
def unsignedNumber? (negative : Bool) (text : List Char) : Option Binary64 :=
  let whole := text.takeWhile isDigit
  let afterWhole := text.dropWhile isDigit
  let (part, rest) :=
    match afterWhole with
    | '.' :: more => (more.takeWhile isDigit, more.dropWhile isDigit)
    | _ => ([], afterWhole)
  if whole.isEmpty && part.isEmpty then none
  else (exponent? rest).map fun exponent =>
    Binary64.ofDecimal negative (value (whole ++ part)) (exponent - part.length)

def number? (text : List Char) : Option Binary64 :=
  let (negative, rest) :=
    match text with
    | '-' :: rest => (true, rest)
    | '+' :: rest => (false, rest)
    | _ => (false, text)
  let word := String.ofList (lowerAscii rest)
  if word == "inf" || word == "infinity" then some (Binary64.infinity negative)
  else if word == "nan" then some Binary64.nan
  else unsignedNumber? negative rest

end RegistryAuth.Decimal
