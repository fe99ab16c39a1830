import RegistryAuth.Codec.Bytes
import RegistryAuth.Number.Decimal

/-! # Nested values

The tree of tagged values of which keys and certificates are made. Reading is
lenient about lengths, which may be written in more bytes than needed, and
checks the contents of values of the known universal types.
-/

namespace RegistryAuth

inductive Asn1 where
  | bitString (bits : Bytes)
  | octetString (bytes : Bytes)
  | objectIdentifier (components : List Nat)
  | sequence (items : List Asn1)
  | other
deriving Repr, Inhabited

namespace Asn1

/-- A number in groups of seven bits, each but the last marked. -/
def readGroups (n : Nat) : Bytes → Option (Nat × Bytes)
  | [] => none
  | b :: rest =>
    let n := n * 128 + b.toNat % 128
    if b.toNat < 128 then some (n, rest) else readGroups n rest

def readAllGroups (fuel : Nat) (bytes : Bytes) : Option (List Nat) :=
  match fuel, bytes with
  | _, [] => some []
  | 0, _ => none
  | fuel + 1, bytes => do
    let (n, rest) ← readGroups 0 bytes
    return n :: (← readAllGroups fuel rest)

/-- The first byte holds the first two components. -/
def readIdentifier : Bytes → Option (List Nat)
  | [] => none
  | b :: rest => do
    let n := b.toNat
    let first := if n < 40 then 0 else if n < 80 then 1 else 2
    return first :: (n - 40 * first) :: (← readAllGroups rest.length rest)

/-- The class of a tag, zero for the universal one, and its number. -/
def readTag : Bytes → Option (Nat × Nat × Bytes)
  | [] => none
  | b :: rest =>
    let n := b.toNat
    if n % 32 = 31 then (readGroups 0 rest).map fun (tag, rest) => (n / 64, tag, rest)
    else some (n / 64, n % 32, rest)

def readLength : Bytes → Option (Nat × Bytes)
  | [] => none
  | b :: rest =>
    let n := b.toNat
    if n < 128 then some (n, rest)
    else if n - 128 > 8 || rest.length < n - 128 then none
    else some (Bytes.toNatBig (rest.take (n - 128)), rest.drop (n - 128))

def isPrintable (b : UInt8) : Bool :=
  let c := Char.ofNat b.toNat
  c.isAlphanum || " '()+,-./:=?".toList.contains c

def digitsAt (text : List Char) (start count : Nat) : Option Nat :=
  Decimal.natural? ((text.drop start).take count)

/-- Whether month, day, hour, minute and second are written from `start` on. -/
def isMoment (text : List Char) (start : Nat) : Bool :=
  let within (k low high : Nat) : Bool :=
    match digitsAt text (start + 2 * k) 2 with
    | some n => low ≤ n && n ≤ high
    | none => false
  within 0 1 12 && within 1 1 31 && within 2 0 23 && within 3 0 59 && within 4 0 59

/-- Whether the contents of a value of a universal type other than the nested ones are well
formed. -/
def isWellFormed (tag : Nat) (body : Bytes) : Bool :=
  let text := body.map fun b => Char.ofNat b.toNat
  if tag = 1 then body.length == 1
  else if tag = 3 then
    match body with
    | [] => false
    | unused :: bits => unused.toNat ≤ 8 * bits.length
  else if tag = 12 || tag = 20 then (Bytes.toText? body).isSome
  else if tag = 19 then body.all isPrintable
  else if tag = 22 then body.all (· < 128)
  else if tag = 23 then
    text.length == 13 && (digitsAt text 0 2).isSome && isMoment text 2 &&
      text.getLast? == some 'Z'
  else if tag = 24 then text.length ≥ 15 && (digitsAt text 0 4).isSome && isMoment text 4
  else true

/-- Reads the values that bytes hold, at least one. -/
def readValues (fuel : Nat) (bytes : Bytes) : Option (List Asn1) :=
  match fuel with
  | 0 => none
  | fuel + 1 => do
    let (kind, tag, rest) ← readTag bytes
    let (length, rest) ← readLength rest
    if rest.length < length then none
    else
      let body := rest.take length
      let value ←
        if kind ≠ 0 then some other
        else if tag = 16 then (readValues fuel body).map sequence
        else if tag = 17 then (readValues fuel body).map fun _ => other
        else if tag = 6 then (readIdentifier body).map objectIdentifier
        else if !isWellFormed tag body then none
        else if tag = 3 then some (bitString (body.drop 1))
        else if tag = 4 then some (octetString body)
        else some other
      let after := rest.drop length
      if after.isEmpty then some [value]
      else return value :: (← readValues fuel after)

def ofBytes? (bytes : Bytes) : Option (List Asn1) := readValues (bytes.length + 1) bytes

mutual

/-- The first result of `f` on the leaves, passing through sequences in order. -/
def findLeaf? {α : Type} (f : Asn1 → Option α) : Asn1 → Option α
  | sequence items => findIn? f items
  | leaf => f leaf

def findIn? {α : Type} (f : Asn1 → Option α) : List Asn1 → Option α
  | [] => none
  | item :: rest =>
    match findLeaf? f item with
    | some a => some a
    | none => findIn? f rest

end

def string? : Asn1 → Option Bytes
  | bitString bits => some bits
  | octetString bytes => some bytes
  | _ => none

end Asn1

end RegistryAuth
