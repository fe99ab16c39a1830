import RegistryAuth.Codec.Bytes
import RegistryAuth.Text.Split

/-! # Form encoding

Queries and form bodies as pairs of names and values. Pairs stand between
ampersands, and a name ends at the first equals sign. A plus sign is a space,
and a percent sign before two hexadecimal digits is a byte; bytes that are no
text are read leniently.
-/

namespace RegistryAuth.Form

def hexValue? (b : UInt8) : Option Nat :=
  let n := b.toNat
  if 0x30 ≤ n && n ≤ 0x39 then some (n - 0x30)
  else if 0x41 ≤ n && n ≤ 0x46 then some (n - 0x37)
  else if 0x61 ≤ n && n ≤ 0x66 then some (n - 0x57)
  else none

/-- Decodes bytes behind those in `done`, which are in reverse order. -/
def decodeBytes (done : Bytes) : Bytes → Bytes
  | [] => done.reverse
  | 0x25 :: a :: b :: rest =>
    match hexValue? a, hexValue? b with
    | some high, some low => decodeBytes (UInt8.ofNat (16 * high + low) :: done) rest
    | _, _ => decodeBytes (0x25 :: done) (a :: b :: rest)
  | 0x2b :: rest => decodeBytes (0x20 :: done) rest
  | b :: rest => decodeBytes (b :: done) rest

def decode (bytes : Bytes) : String := Bytes.toTextLenient (decodeBytes [] bytes)

def pair (bytes : Bytes) : String × String :=
  match Text.splitFirst? 0x3d bytes with
  | some (name, value) => (decode name, decode value)
  | none => (decode bytes, "")

def pairs (bytes : Bytes) : List (String × String) :=
  ((Text.splitOn 0x26 bytes).filter (!·.isEmpty)).map pair

end RegistryAuth.Form
