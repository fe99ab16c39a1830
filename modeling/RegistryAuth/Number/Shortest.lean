import RegistryAuth.Number.Binary64

/-! # Shortest decimals

The decimal that stands for a number in texts: the one with the fewest digits
among those that read back as the number, and of these the nearest one. Each
count of digits is tried in turn on the two decimals next to the number.
-/

namespace RegistryAuth.Binary64

def digitCount (n : Nat) : Nat :=
  if n = 0 then 0 else digitCount (n / 10) + 1

/-- Whether `num / den` reads back as the number whose size is `significand * 2 ^ scale`. Both
sides are compared in quarters of the last binary place. -/
def readsBack (x : Binary64) (num den : Nat) : Bool :=
  let m := x.significand
  let below := if m = hiddenBit && x.scale > -1074 then 4 * m - 1 else 4 * m - 2
  let above := 4 * m + 2
  let scale := x.scale - 2
  let left := num <<< (-scale).toNat
  let unit := den <<< scale.toNat
  if m % 2 = 0 then below * unit ≤ left && left ≤ above * unit
  else below * unit < left && left < above * unit

/-- Digits and exponent of the shortest decimal with at most `count` digits more than `tried`,
where `lead` is the exponent of the first digit. -/
def searchDigits (x : Binary64) (lead : Int) (tried : Nat) : Nat → Nat × Int
  | 0 => (0, 0)
  | count + 1 =>
    let exponent := lead - tried
    let num := x.numerator * Nat.pow 10 (-exponent).toNat
    let den := x.denominator * Nat.pow 10 exponent.toNat
    let low := num / den
    let back (digits : Nat) : Bool :=
      x.readsBack (digits * Nat.pow 10 exponent.toNat) (Nat.pow 10 (-exponent).toNat)
    match back low, back (low + 1) with
    | true, false => (low, exponent)
    | false, true => (low + 1, exponent)
    | true, true => if 2 * (num % den) ≤ den then (low, exponent) else (low + 1, exponent)
    | false, false => searchDigits x lead (tried + 1) count

/-- Digits and exponent of the shortest decimal for the size of a finite number that is not
zero. -/
def shortest (x : Binary64) : Nat × Int :=
  let num := x.numerator
  let den := x.denominator
  let lead : Int :=
    if num ≥ den then (digitCount (num / den) : Int) - 1 else -(digitCount ((den - 1) / num) : Int)
  searchDigits x lead 0 17

/-- The shortest decimal written with all its places and without an exponent. -/
def toPositional (x : Binary64) : String :=
  let sign := if x.isNegative then "-" else ""
  if x.isNaN then "NaN"
  else if x.isInfinite then sign ++ "inf"
  else if x.isZero then sign ++ "0"
  else
    let (digits, exponent) := x.shortest
    let text := (toString digits).toList
    if exponent ≥ 0 then sign ++ String.ofList (text ++ List.replicate exponent.toNat '0')
    else
      let places := (-exponent).toNat
      let padded := List.replicate (places + 1 - text.length) '0' ++ text
      let whole := padded.take (padded.length - places)
      let part := ((padded.drop (padded.length - places)).reverse.dropWhile (· == '0')).reverse
      sign ++ String.ofList (if part.isEmpty then whole else whole ++ '.' :: part)

/-- The positional form, with a decimal point also for whole numbers. -/
def toPointed (x : Binary64) : String :=
  let text := x.toPositional
  if x.isFinite && !text.toList.contains '.' then text ++ ".0" else text

end RegistryAuth.Binary64
