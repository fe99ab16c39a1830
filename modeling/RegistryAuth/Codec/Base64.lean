import RegistryAuth.Codec.Bytes

/-! # Base64

Three bytes are written as four digits of six bits. An alphabet is given by its
last two digits. Padding brings the length to a multiple of four; an encoding
is read strictly, so that each sequence of bytes has one written form: padding
must be present exactly where it is used, and unused bits must be zero.
-/

namespace RegistryAuth.Base64

structure Alphabet where
  plus : Char
  slash : Char
deriving DecidableEq, Repr

def standard : Alphabet := ⟨'+', '/'⟩

def urlSafe : Alphabet := ⟨'-', '_'⟩

variable (alphabet : Alphabet) (padded : Bool)

def digit (n : Nat) : Char :=
  if n < 26 then Char.ofNat ('A'.toNat + n)
  else if n < 52 then Char.ofNat ('a'.toNat + (n - 26))
  else if n < 62 then Char.ofNat ('0'.toNat + (n - 52))
  else if n = 62 then alphabet.plus
  else alphabet.slash

def value? (c : Char) : Option Nat :=
  if 'A' ≤ c && c ≤ 'Z' then some (c.toNat - 'A'.toNat)
  else if 'a' ≤ c && c ≤ 'z' then some (c.toNat - 'a'.toNat + 26)
  else if '0' ≤ c && c ≤ '9' then some (c.toNat - '0'.toNat + 52)
  else if c = alphabet.plus then some 62
  else if c = alphabet.slash then some 63
  else none

def padding (count : Nat) : List Char :=
  if padded then List.replicate count '=' else []

def encode : Bytes → List Char
  | [] => []
  | [a] =>
    digit alphabet (a.toNat / 4) :: digit alphabet (a.toNat % 4 * 16) :: padding padded 2
  | [a, b] =>
    digit alphabet (a.toNat / 4) :: digit alphabet (a.toNat % 4 * 16 + b.toNat / 16) ::
      digit alphabet (b.toNat % 16 * 4) :: padding padded 1
  | a :: b :: c :: rest =>
    digit alphabet (a.toNat / 4) :: digit alphabet (a.toNat % 4 * 16 + b.toNat / 16) ::
      digit alphabet (b.toNat % 16 * 4 + c.toNat / 64) :: digit alphabet (c.toNat % 64) ::
      encode rest

/-- The bytes that digits write, behind those in `done`, which are in reverse order. -/
def regroup (done : Bytes) : List Nat → Option Bytes
  | [] => some done.reverse
  | [_] => none
  | [p, q] =>
    if q % 16 = 0 then some (UInt8.ofNat (p * 4 + q / 16) :: done).reverse else none
  | [p, q, r] =>
    if r % 4 = 0 then
      some (UInt8.ofNat (q % 16 * 16 + r / 4) :: UInt8.ofNat (p * 4 + q / 16) :: done).reverse
    else none
  | p :: q :: r :: s :: rest =>
    regroup (UInt8.ofNat (r % 4 * 64 + s) :: UInt8.ofNat (q % 16 * 16 + r / 4) ::
      UInt8.ofNat (p * 4 + q / 16) :: done) rest

/-- The digits of a text without its padding, if the padding is as it must be. -/
def withoutPadding (text : List Char) : Option (List Char) :=
  if padded then
    let digits := text.takeWhile (· != '=')
    if text = digits ++ List.replicate ((4 - digits.length % 4) % 4) '=' then some digits
    else none
  else some text

def decode? (text : List Char) : Option Bytes := do
  let digits ← withoutPadding padded text
  let values ← digits.mapM (value? alphabet)
  regroup [] values

end RegistryAuth.Base64
