import RegistryAuth.Codec.Bytes

/-! # Strictly encoded values

Taking tagged values off the front of bytes in the distinguished encoding: a
tag of one byte, a length in the fewest bytes possible, and integers without
needless leading bytes.
-/

namespace RegistryAuth.Der

def readLength : Bytes → Option (Nat × Bytes)
  | [] => none
  | b :: rest =>
    let n := b.toNat
    if n < 128 then some (n, rest)
    else
      let count := n - 128
      let length := Bytes.toNatBig (rest.take count)
      if count = 0 || count > 4 || rest.length < count then none
      else if length < 128 || length < 1 <<< (8 * (count - 1)) then none
      else some (length, rest.drop count)

/-- The contents of the value at the front, which must have the given tag, and what follows. -/
def take? (tag : UInt8) : Bytes → Option (Bytes × Bytes)
  | [] => none
  | b :: rest => do
    if b ≠ tag then none
    else
      let (length, rest) ← readLength rest
      if rest.length < length then none else some (rest.take length, rest.drop length)

/-- The contents of a value that is followed by nothing. -/
def whole? (tag : UInt8) (bytes : Bytes) : Option Bytes :=
  match take? tag bytes with
  | some (body, []) => some body
  | _ => none

def sequence : UInt8 := 0x30

def natural? (bytes : Bytes) : Option (Nat × Bytes) := do
  let (body, rest) ← take? 0x02 bytes
  match body with
  | [] => none
  | [b] => if b < 128 then some (b.toNat, rest) else none
  | a :: b :: _ => if a ≥ 128 || (a = 0 && b < 128) then none else some (Bytes.toNatBig body, rest)

def positive? (bytes : Bytes) : Option (Nat × Bytes) :=
  (natural? bytes).filter fun (n, _) => 0 < n

/-- The bits of a bit string of whole bytes. -/
def wholeBits? : Bytes → Option Bytes
  | 0 :: bits => some bits
  | _ => none

end RegistryAuth.Der
