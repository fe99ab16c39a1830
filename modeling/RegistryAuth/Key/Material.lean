import RegistryAuth.Key.Algorithm
import RegistryAuth.Key.Structure

/-! # Signing with key material

Key material is a family of keys and the bytes of one. Whether the bytes make a
key that suits an algorithm comes to light only when something is signed or
checked with it.
-/

namespace RegistryAuth

structure KeyMaterial where
  family : KeyFamily
  bytes : Bytes
deriving DecidableEq, Repr

inductive SigningError where
  | invalidAlgorithm
  | invalidEcdsaKey
  | invalidEddsaKey
  | rsaKeyRejected (reason : RsaRejection)
deriving DecidableEq, Repr

def SigningError.message : SigningError → String
  | invalidAlgorithm => "InvalidAlgorithm"
  | invalidEcdsaKey => "InvalidEcdsaKey"
  | invalidEddsaKey => "InvalidEddsaKey"
  | rsaKeyRejected reason => s!"RSA key invalid: {reason.message}"

namespace Algorithm

def curve : Algorithm → Ecdsa.Curve
  | es384 => Ecdsa.p384
  | _ => Ecdsa.p256

def padding : Algorithm → Rsa.Padding
  | ps256 | ps384 | ps512 => .masked
  | _ => .framed

end Algorithm

namespace KeyMaterial

def sign (key : KeyMaterial) (algorithm : Algorithm) (message : Bytes) :
    Except SigningError Bytes :=
  if key.family ≠ algorithm.family then .error .invalidAlgorithm
  else match key.family with
    | .hmac => .ok (Hmac.code algorithm.hashFunction key.bytes message)
    | .rsa =>
      match Rsa.PrivateKey.ofBytes key.bytes with
      | .ok rsa => .ok (Rsa.sign algorithm.padding algorithm.hashFunction rsa message)
      | .error reason => .error (.rsaKeyRejected reason)
    | .ec =>
      match Ecdsa.secret? algorithm.curve key.bytes with
      | some secret => .ok (Ecdsa.sign algorithm.curve algorithm.hashFunction secret message)
      | none => .error .invalidEcdsaKey
    | .ed =>
      match Ed25519.seed? key.bytes with
      | some seed => .ok (Ed25519.sign seed message)
      | none => .error .invalidEddsaKey

def check (key : KeyMaterial) (algorithm : Algorithm) (message signature : Bytes) : Bool :=
  key.family == algorithm.family &&
    match key.family with
    | .hmac => Hmac.code algorithm.hashFunction key.bytes message == signature
    | .rsa =>
      match Rsa.PublicKey.ofBytes? key.bytes with
      | some rsa => Rsa.verify algorithm.padding algorithm.hashFunction rsa message signature
      | none => false
    | .ec => Ecdsa.verify algorithm.curve algorithm.hashFunction key.bytes message signature
    | .ed => Ed25519.verify key.bytes message signature

end KeyMaterial

end RegistryAuth
