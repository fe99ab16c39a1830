import RegistryAuth.Json.Basic
import RegistryAuth.Number.Decimal

/-! # Reading JSON texts

A text is read into the value it writes. Integers that do not fit into 64 bits,
the integer minus zero, and numbers with a fraction or an exponent are double
precision numbers. Containers are nested at most 127 deep.
-/

namespace RegistryAuth.Json

/-- The nesting that a text may have. -/
def depthLimit : Nat := 127

def isSpace (c : Char) : Bool :=
  c = ' ' || c = '\n' || c = '\t' || c = '\r'

def skipSpace (text : List Char) : List Char := text.dropWhile isSpace

def hexValue? (c : Char) : Option Nat :=
  if '0' ≤ c && c ≤ '9' then some (c.toNat - 0x30)
  else if 'a' ≤ c && c ≤ 'f' then some (c.toNat - 0x57)
  else if 'A' ≤ c && c ≤ 'F' then some (c.toNat - 0x37)
  else none

def hexUnit? (a b c d : Char) : Option Nat := do
  return (((← hexValue? a) * 16 + (← hexValue? b)) * 16 + (← hexValue? c)) * 16 + (← hexValue? d)

def simpleEscape? (c : Char) : Option Char :=
  if c = '"' || c = '\\' || c = '/' then some c
  else if c = 'b' then some '\x08'
  else if c = 'f' then some '\x0c'
  else if c = 'n' then some '\n'
  else if c = 'r' then some '\r'
  else if c = 't' then some '\t'
  else none

/-- The characters of a string up to its closing quote, collected in front of `done` in reverse
order. A surrogate counts only as one of a pair. -/
def readString (done : List Char) : List Char → Option (List Char × List Char)
  | [] => none
  | '"' :: rest => some (done.reverse, rest)
  | '\\' :: 'u' :: a :: b :: c :: d :: rest =>
    match hexUnit? a b c d with
    | none => none
    | some unit =>
      if 0xD800 ≤ unit && unit < 0xDC00 then
        match rest with
        | '\\' :: 'u' :: e :: f :: g :: h :: more =>
          match hexUnit? e f g h with
          | none => none
          | some low =>
            if 0xDC00 ≤ low && low < 0xE000 then
              readString (Char.ofNat (0x10000 + (unit - 0xD800) * 0x400 + (low - 0xDC00)) :: done)
                more
            else none
        | _ => none
      else if 0xDC00 ≤ unit && unit < 0xE000 then none
      else readString (Char.ofNat unit :: done) rest
  | '\\' :: c :: rest =>
    match simpleEscape? c with
    | some e => readString (e :: done) rest
    | none => none
  | c :: rest => if c.toNat < 0x20 || c = '\\' then none else readString (c :: done) rest

/-- The digits of a number that count for its value: as many as fit into 64 bits without a sign.
Gives their value and the number of digits left over. -/
def leadingDigits (value : Nat) : List Char → Nat × Nat
  | [] => (value, 0)
  | c :: rest =>
    let next := 10 * value + Decimal.digitValue c
    if next < UInt64.size then leadingDigits next rest else (value, rest.length + 1)

/-- `value * 10 ^ exponent`, rounded after each step: the value to double precision, then its
product with or quotient by the power. `none` beyond the largest number. -/
def scaleByTen (value : Binary64) (exponent : Int) : Option Binary64 :=
  let power (n : Nat) : Binary64 := Binary64.ofDecimal false 1 n
  if exponent > 308 then if value.isZero then some value else none
  else if exponent ≥ 0 then
    let product := value.mul (power exponent.toNat)
    if product.isInfinite then none else some product
  else if exponent ≥ -308 then some (value.div (power (-exponent).toNat))
  else if exponent ≥ -616 then
    some ((value.div (power 308)).div (power (-(exponent + 308)).toNat))
  else some (Binary64.zero false)

/-- The double precision number that whole digits, fraction digits and an exponent write. -/
def realOfParts (negative : Bool) (whole part : List Char) (exponent : Int) : Option Binary64 :=
  let (value, wholeLeft) := leadingDigits 0 whole
  let (value, partLeft) := leadingDigits value part
  let used : Int := (part.length : Int) - partLeft
  (scaleByTen (Binary64.ofNat value) (wholeLeft - used + exponent)).map fun x =>
    if negative then x.neg else x

def intOrReal (negative : Bool) (digits : List Char) : Option Json :=
  let n := Decimal.value digits
  if negative then
    if n = 0 then some (real (Binary64.zero true))
    else if n ≤ 0x8000000000000000 then some (int (-(n : Int)))
    else (realOfParts true digits [] 0).map real
  else if n < UInt64.size then some (int n)
  else (realOfParts false digits [] 0).map real

/-- The exponent part of a number, if there is one, and what follows. -/
def readExponent (text : List Char) : Option (Option Int × List Char) :=
  match text with
  | c :: rest =>
    if c = 'e' || c = 'E' then
      let (negative, digits) :=
        match rest with
        | '-' :: more => (true, more)
        | '+' :: more => (false, more)
        | _ => (false, rest)
      let shown := digits.takeWhile Decimal.isDigit
      if shown.isEmpty then none
      else
        let n : Int := Decimal.value shown
        some (some (if negative then -n else n), digits.dropWhile Decimal.isDigit)
    else some (none, text)
  | [] => some (none, [])

def readNumber (negative : Bool) (text : List Char) : Option (Json × List Char) := do
  let whole := text.takeWhile Decimal.isDigit
  let rest := text.dropWhile Decimal.isDigit
  if whole.isEmpty || (whole.length > 1 && whole.head? = some '0') then
    none
  else
    let (part, rest) ← match rest with
      | '.' :: more =>
        let part := more.takeWhile Decimal.isDigit
        if part.isEmpty then none else some (part, more.dropWhile Decimal.isDigit)
      | _ => some ([], rest)
    let (exponent, rest) ← readExponent rest
    if part.isEmpty && exponent.isNone then
      return (← intOrReal negative whole, rest)
    else
      return (real (← realOfParts negative whole part (exponent.getD 0)), rest)

mutual

/-- Reads one value. Each character takes at most two steps of `fuel`. -/
def readValue (fuel depth : Nat) (text : List Char) : Option (Json × List Char) :=
  match fuel with
  | 0 => none
  | fuel + 1 =>
    match skipSpace text with
    | 'n' :: 'u' :: 'l' :: 'l' :: rest => some (null, rest)
    | 't' :: 'r' :: 'u' :: 'e' :: rest => some (bool true, rest)
    | 'f' :: 'a' :: 'l' :: 's' :: 'e' :: rest => some (bool false, rest)
    | '"' :: rest => (readString [] rest).map fun (s, rest) => (string (String.ofList s), rest)
    | '[' :: rest =>
      match depth with
      | 0 => none
      | depth + 1 =>
        match skipSpace rest with
        | ']' :: rest => some (array [], rest)
        | rest => readItems fuel depth [] rest
    | '\x7b' :: rest =>
      match depth with
      | 0 => none
      | depth + 1 =>
        match skipSpace rest with
        | '\x7d' :: rest => some (object [], rest)
        | rest => readMembers fuel depth [] rest
    | '-' :: rest => readNumber true rest
    | text => readNumber false text

/-- Reads the items of an array that is not at its end, collected in reverse order. -/
def readItems (fuel depth : Nat) (done : List Json) (text : List Char) :
    Option (Json × List Char) :=
  match fuel with
  | 0 => none
  | fuel + 1 =>
    match readValue fuel depth text with
    | none => none
    | some (item, rest) =>
      match skipSpace rest with
      | ',' :: rest => readItems fuel depth (item :: done) rest
      | ']' :: rest => some (array (item :: done).reverse, rest)
      | _ => none

def readMembers (fuel depth : Nat) (done : List (String × Json)) (text : List Char) :
    Option (Json × List Char) :=
  match fuel with
  | 0 => none
  | fuel + 1 =>
    match skipSpace text with
    | '"' :: rest =>
      match readString [] rest with
      | none => none
      | some (name, rest) =>
        match skipSpace rest with
        | ':' :: rest =>
          match readValue fuel depth rest with
          | none => none
          | some (value, rest) =>
            let member := (String.ofList name, value)
            match skipSpace rest with
            | ',' :: rest => readMembers fuel depth (member :: done) rest
            | '\x7d' :: rest => some (object (member :: done).reverse, rest)
            | _ => none
        | _ => none
    | _ => none

end

def ofText? (text : List Char) : Option Json :=
  match readValue (2 * text.length + 1) depthLimit text with
  | some (json, rest) => if (skipSpace rest).isEmpty then some json else none
  | none => none

def parse? (text : String) : Option Json :=
  ofText? text.toList

end RegistryAuth.Json
