/-! # Bytes

Lists of bytes as numbers and as texts. Numbers are written in a given count of
bytes, the most or the least significant first. The bytes of a text are its
UTF-8 encoding; bytes that are no such encoding can still be read leniently,
each longest ill-formed stretch becoming one replacement character.
-/

namespace RegistryAuth

abbrev Bytes := List UInt8

namespace Bytes

/-- Cuts a list into pieces of `size`, the last of which may be shorter. -/
def chunksWithin {α : Type} (size : Nat) : Nat → List α → List (List α)
  | 0, _ => []
  | _ + 1, [] => []
  | fuel + 1, items => items.take size :: chunksWithin size fuel (items.drop size)

def chunks {α : Type} (size : Nat) (items : List α) : List (List α) :=
  chunksWithin size items.length items

/-- The number that the bytes write, the most significant first. -/
def toNatBig (bytes : Bytes) : Nat :=
  bytes.foldl (fun n b => 256 * n + b.toNat) 0

def toNatLittle (bytes : Bytes) : Nat :=
  toNatBig bytes.reverse

/-- The lowest `count` bytes of a number, the least significant first. -/
def ofNatLittle : Nat → Nat → Bytes
  | 0, _ => []
  | count + 1, n => UInt8.ofNat (n % 256) :: ofNatLittle count (n / 256)

def ofNatBig (count n : Nat) : Bytes :=
  (ofNatLittle count n).reverse

def ofText (text : String) : Bytes :=
  text.toUTF8.toList

def toText? (bytes : Bytes) : Option String :=
  String.fromUTF8? ⟨bytes.toArray⟩

/-- How a first byte goes on: the number of further bytes, the bits it brings, and the least and
the greatest value of the byte after it. -/
def leadByte? (b : Nat) : Option (Nat × Nat × Nat × Nat) :=
  if 0xC2 ≤ b && b ≤ 0xDF then some (1, b - 0xC0, 0x80, 0xBF)
  else if b = 0xE0 then some (2, 0, 0xA0, 0xBF)
  else if b = 0xED then some (2, 0xD, 0x80, 0x9F)
  else if 0xE1 ≤ b && b ≤ 0xEF then some (2, b - 0xE0, 0x80, 0xBF)
  else if b = 0xF0 then some (3, 0, 0x90, 0xBF)
  else if b = 0xF4 then some (3, 4, 0x80, 0x8F)
  else if 0xF1 ≤ b && b ≤ 0xF3 then some (3, b - 0xF0, 0x80, 0xBF)
  else none

def replacement : Char := '\uFFFD'

/-- Reads bytes leniently. `pending` holds, inside a character, the number of bytes still to come,
the bits so far and the bounds of the next byte. -/
def readLenient (done : List Char) (pending : Option (Nat × Nat × Nat × Nat)) : Bytes → List Char
  | [] => (if pending.isSome then replacement :: done else done).reverse
  | byte :: rest =>
    let b := byte.toNat
    let first (done : List Char) : List Char × Option (Nat × Nat × Nat × Nat) :=
      if b < 0x80 then (Char.ofNat b :: done, none)
      else match leadByte? b with
        | some lead => (done, some lead)
        | none => (replacement :: done, none)
    let (done, pending) :=
      match pending with
      | none => first done
      | some (count, bits, low, high) =>
        if low ≤ b && b ≤ high then
          let bits := bits * 64 + (b - 0x80)
          if count ≤ 1 then (Char.ofNat bits :: done, none)
          else (done, some (count - 1, bits, 0x80, 0xBF))
        else first (replacement :: done)
    readLenient done pending rest

def toTextLenient (bytes : Bytes) : String :=
  String.ofList (readLenient [] none bytes)

end Bytes

end RegistryAuth
