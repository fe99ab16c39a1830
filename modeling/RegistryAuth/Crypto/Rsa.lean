import RegistryAuth.Crypto.Modular
import RegistryAuth.Crypto.Sha2

/-! # RSA signatures

A signature is the power of a padded hash by the private exponent. The padding
either names the hash function in a fixed frame or masks a salted hash; the salt
has the size of the hash and is taken from the key and the message, so that
signing is a function.
-/

namespace RegistryAuth.Rsa

open Sha2

structure PublicKey where
  modulus : Nat
  exponent : Nat
deriving DecidableEq, Repr

structure PrivateKey where
  publicKey : PublicKey
  privateExponent : Nat
deriving DecidableEq, Repr

inductive Padding where
  | framed
  | masked
deriving DecidableEq, Repr

def bitLength (n : Nat) : Nat := if n = 0 then 0 else Nat.log2 n + 1

def modulusBytes (key : PublicKey) : Nat := (bitLength key.modulus + 7) / 8

/-- The frame that names a hash function, up to the hash itself. -/
def hashFrame (h : HashFunction) : Bytes :=
  let identifier : UInt8 := if h.digestSize = 32 then 1 else if h.digestSize = 48 then 2 else 3
  [0x30, UInt8.ofNat (h.digestSize + 17), 0x30, 0x0d, 0x06, 0x09, 0x60, 0x86, 0x48, 0x01, 0x65,
    0x03, 0x04, 0x02, identifier, 0x05, 0x00, 0x04, UInt8.ofNat h.digestSize]

/-- The framed hash, brought to `size` bytes. -/
def framedMessage (h : HashFunction) (size : Nat) (message : Bytes) : Bytes :=
  let info := hashFrame h ++ h.digest message
  [0x00, 0x01] ++ List.replicate (size - info.length - 3) 0xff ++ 0x00 :: info

/-- A mask of `size` bytes made from a seed. -/
def mask (h : HashFunction) (seed : Bytes) (size : Nat) : Bytes :=
  ((List.range ((size + h.digestSize - 1) / h.digestSize)).flatMap fun i =>
    h.digest (seed ++ Bytes.ofNatBig 4 i)).take size

def xorBytes (a b : Bytes) : Bytes := List.zipWith (· ^^^ ·) a b

/-- Keeps the lowest `bits % 8` bits of the first byte, or all of it where that is none. -/
def clearTopBits (bits : Nat) : Bytes → Bytes
  | [] => []
  | b :: rest =>
    (if bits % 8 = 0 then b else UInt8.ofNat (b.toNat % (1 <<< (bits % 8)))) :: rest

def saltedHash (h : HashFunction) (digest salt : Bytes) : Bytes :=
  h.digest (List.replicate 8 0 ++ digest ++ salt)

/-- The masked hash in `bits` bits. -/
def maskedMessage (h : HashFunction) (bits : Nat) (salt message : Bytes) : Bytes :=
  let size := (bits + 7) / 8
  let hashed := saltedHash h (h.digest message) salt
  let block := List.replicate (size - salt.length - h.digestSize - 2) 0 ++ 0x01 :: salt
  clearTopBits bits (xorBytes block (mask h hashed block.length)) ++ hashed ++ [0xbc]

def isMaskedMessage (h : HashFunction) (bits : Nat) (encoded message : Bytes) : Bool :=
  let size := (bits + 7) / 8
  let blockSize := size - h.digestSize - 1
  let masked := encoded.take blockSize
  let hashed := (encoded.drop blockSize).take h.digestSize
  let block := clearTopBits bits (xorBytes masked (mask h hashed blockSize))
  let zeros := size - 2 * h.digestSize - 2
  let salt := block.drop (zeros + 1)
  encoded.length == size && 2 * h.digestSize + 2 ≤ size &&
    encoded.getLast? == some 0xbc && clearTopBits bits masked == masked &&
    block.take (zeros + 1) == List.replicate zeros 0 ++ [0x01] &&
    saltedHash h (h.digest message) salt == hashed

def sign (padding : Padding) (h : HashFunction) (key : PrivateKey) (message : Bytes) : Bytes :=
  let size := modulusBytes key.publicKey
  let encoded := match padding with
    | .framed => framedMessage h size message
    | .masked =>
      let salt := h.digest (Bytes.ofNatBig size key.privateExponent ++ h.digest message)
      maskedMessage h (bitLength key.publicKey.modulus - 1) salt message
  Bytes.ofNatBig size
    (Modular.pow key.publicKey.modulus (Bytes.toNatBig encoded) key.privateExponent)

def verify (padding : Padding) (h : HashFunction) (key : PublicKey) (message signature : Bytes) :
    Bool :=
  let size := modulusBytes key
  let number := Bytes.toNatBig signature
  let power := Modular.pow key.modulus number key.exponent
  signature.length == size && 0 < number && number < key.modulus &&
    match padding with
    | .framed => Bytes.ofNatBig size power == framedMessage h size message
    | .masked =>
      let bits := bitLength key.modulus - 1
      let width := (bits + 7) / 8
      power < 1 <<< (8 * width) && isMaskedMessage h bits (Bytes.ofNatBig width power) message

end RegistryAuth.Rsa
