/-! # Double precision numbers

A number of the 64-bit binary format, held as its bits: a sign, an exponent of
eleven bits and a fraction of 52. Every number is got by rounding an exact
quotient to the nearest one, a tie going to the even neighbour.
-/

namespace RegistryAuth

structure Binary64 where
  bits : UInt64
deriving DecidableEq, Repr

namespace Binary64

/-- The bit above the fraction, which is one in a normal number and is not written. -/
def hiddenBit : Nat := 0x10000000000000

def ofParts (negative : Bool) (exponent fraction : Nat) : Binary64 :=
  ⟨UInt64.ofNat ((if negative then 0x8000000000000000 else 0) + exponent * hiddenBit + fraction)⟩

def isNegative (x : Binary64) : Bool :=
  0x8000000000000000 ≤ x.bits.toNat

def exponentField (x : Binary64) : Nat :=
  x.bits.toNat / hiddenBit % 2048

def fractionField (x : Binary64) : Nat :=
  x.bits.toNat % hiddenBit

def infinity (negative : Bool) : Binary64 := ofParts negative 2047 0

def zero (negative : Bool) : Binary64 := ofParts negative 0 0

def nan : Binary64 := ofParts false 2047 (hiddenBit / 2)

def isNaN (x : Binary64) : Bool := x.exponentField == 2047 && x.fractionField != 0

def isInfinite (x : Binary64) : Bool := x.exponentField == 2047 && x.fractionField == 0

def isFinite (x : Binary64) : Bool := x.exponentField != 2047

def isZero (x : Binary64) : Bool := x.exponentField == 0 && x.fractionField == 0

/-- The size of a finite number is its significand times two to its scale. -/
def significand (x : Binary64) : Nat :=
  if x.exponentField = 0 then x.fractionField else hiddenBit + x.fractionField

def scale (x : Binary64) : Int :=
  if x.exponentField = 0 then -1074 else (x.exponentField : Int) - 1075

/-- The size of a finite number as an exact quotient. -/
def numerator (x : Binary64) : Nat := x.significand <<< x.scale.toNat

def denominator (x : Binary64) : Nat := 1 <<< (-x.scale).toNat

/-- The nearest integer to a quotient, a tie going to the even one. -/
def roundToEven (num den : Nat) : Nat :=
  let floor := num / den
  let rest := 2 * (num % den)
  if rest < den then floor
  else if den < rest then floor + 1
  else if floor % 2 = 0 then floor else floor + 1

/-- The number `significand * 2 ^ scale`, for a significand of at most 53 bits that has all 53
unless the scale is the least one. -/
def ofSignificand (negative : Bool) (significand : Nat) (scale : Int) : Binary64 :=
  if significand < hiddenBit then ofParts negative 0 significand
  else
    let (significand, scale) :=
      if significand = 2 * hiddenBit then (hiddenBit, scale + 1) else (significand, scale)
    if scale > 971 then infinity negative
    else ofParts negative (scale + 1075).toNat (significand - hiddenBit)

/-- The number nearest to `num / den`. -/
def ofRatio (negative : Bool) (num den : Nat) : Binary64 :=
  if num = 0 then zero negative
  else
    let guess : Int := (Nat.log2 num : Int) - (Nat.log2 den : Int) - 52
    let scaled (scale : Int) : Nat × Nat :=
      (num <<< (-scale).toNat, den <<< scale.toNat)
    let (guessNum, guessDen) := scaled guess
    let scale := max (-1074) (if guessNum < hiddenBit * guessDen then guess - 1 else guess)
    let (num, den) := scaled scale
    ofSignificand negative (roundToEven num den) scale

def ofNat (n : Nat) : Binary64 := ofRatio false n 1

def mul (x y : Binary64) : Binary64 :=
  ofRatio (x.isNegative != y.isNegative) (x.numerator * y.numerator)
    (x.denominator * y.denominator)

def div (x y : Binary64) : Binary64 :=
  ofRatio (x.isNegative != y.isNegative) (x.numerator * y.denominator)
    (x.denominator * y.numerator)

def neg (x : Binary64) : Binary64 := ⟨x.bits ^^^ 0x8000000000000000⟩

/-- The number nearest to `digits * 10 ^ exponent`. Beyond a few hundred places a number is out of
range whatever its digits are. -/
def ofDecimal (negative : Bool) (digits : Nat) (exponent : Int) : Binary64 :=
  if digits = 0 then zero negative
  else
    let magnitude : Int := (Nat.log2 digits : Int) * 3 / 10 + exponent
    if magnitude > 400 then infinity negative
    else if (Nat.log2 digits : Int) / 3 + 1 + exponent < -400 then zero negative
    else ofRatio negative (digits * Nat.pow 10 exponent.toNat)
      (Nat.pow 10 (-exponent).toNat)

/-- The nearest integer to a finite number, a half going away from zero. -/
def roundAway (x : Binary64) : Int :=
  let size := (2 * x.numerator + x.denominator) / (2 * x.denominator)
  if x.isNegative then -(size : Int) else size

end Binary64

end RegistryAuth
