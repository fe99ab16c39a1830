/-! # Instants

Points in time, counted in nanoseconds from the start of 1970. Token claims hold
whole seconds. Calendar dates are those of the proleptic Gregorian calendar in
universal time, and a date is written as in internet messages.
-/

namespace RegistryAuth

structure Instant where
  nanoseconds : Int
deriving DecidableEq, Repr

namespace Instant

def ofSeconds (seconds : Int) : Instant := ⟨seconds * 1000000000⟩

/-- The whole seconds before the instant, counted from the start of 1970. -/
def unixSeconds (t : Instant) : Int := t.nanoseconds / 1000000000

def subsecond (t : Instant) : Nat := (t.nanoseconds % 1000000000).toNat

structure Date where
  year : Int
  month : Nat
  day : Nat
deriving DecidableEq, Repr

/-- The date of a day counted from the first of January 1970. Years are counted from the first of
March, so that the leap day is the last of its year, in eras of 400 years. -/
def Date.ofDays (days : Int) : Date :=
  let shifted := days + 719468
  let era := shifted / 146097
  let dayOfEra := (shifted % 146097).toNat
  let yearOfEra := (dayOfEra - dayOfEra / 1460 + dayOfEra / 36524 - dayOfEra / 146096) / 365
  let dayOfYear := dayOfEra - (365 * yearOfEra + yearOfEra / 4 - yearOfEra / 100)
  let monthFromMarch := (5 * dayOfYear + 2) / 153
  let day := dayOfYear - (153 * monthFromMarch + 2) / 5 + 1
  let month := if monthFromMarch < 10 then monthFromMarch + 3 else monthFromMarch - 9
  ⟨yearOfEra + era * 400 + (if month ≤ 2 then 1 else 0), month, day⟩

def date (t : Instant) : Date := Date.ofDays (t.unixSeconds / 86400)

/-- At least `width` digits. -/
def padded (width n : Nat) : String :=
  let digits := toString n
  "".pushn '0' (width - digits.length) ++ digits

/-- The fraction of a second without its trailing zeros, after a point. -/
def fractionText (nanoseconds : Nat) : String :=
  if nanoseconds = 0 then ""
  else
    let digits := (padded 9 nanoseconds).toList.reverse.dropWhile (· == '0')
    "." ++ String.ofList digits.reverse

/-- Date and time in universal time. Only the years from 0 to 9999 can be written. -/
def rfc3339? (t : Instant) : Option String :=
  let date := t.date
  if 0 ≤ date.year && date.year ≤ 9999 then
    let second := (t.unixSeconds % 86400).toNat
    let day := s!"{padded 4 date.year.toNat}-{padded 2 date.month}-{padded 2 date.day}"
    let time :=
      s!"{padded 2 (second / 3600)}:{padded 2 (second / 60 % 60)}:{padded 2 (second % 60)}"
    some (day ++ "T" ++ time ++ fractionText t.subsecond ++ "Z")
  else none

end Instant

end RegistryAuth
