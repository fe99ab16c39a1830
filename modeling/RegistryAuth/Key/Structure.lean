import RegistryAuth.Crypto.Ecdsa
import RegistryAuth.Crypto.Ed25519
import RegistryAuth.Crypto.Rsa
import RegistryAuth.Key.Der

/-! # Private and public key structures

Reading the keys of each family from their strict encodings. A private key must
be consistent with its public part: the factors of an RSA key must make up its
modulus, and the point of a curve key must belong to its number.
-/

namespace RegistryAuth

/-- Why an RSA private key cannot be used. -/
inductive RsaRejection where
  | invalidEncoding
  | versionNotSupported
  | invalidComponent
  | tooSmall
  | tooLarge
  | inconsistentComponents
deriving DecidableEq, Repr

def RsaRejection.message : RsaRejection → String
  | invalidEncoding => "InvalidEncoding"
  | versionNotSupported => "VersionNotSupported"
  | invalidComponent => "InvalidComponent"
  | tooSmall => "TooSmall"
  | tooLarge => "TooLarge"
  | inconsistentComponents => "InconsistentComponents"

namespace Rsa

/-- A number as it stands in front of the others of a private key. -/
structure Components where
  version : Nat
  modulus : Nat
  exponent : Nat
  privateExponent : Nat
  p : Nat
  q : Nat
  exponentP : Nat
  exponentQ : Nat
  coefficient : Nat

def components? (bytes : Bytes) : Option Components := do
  let body ← Der.whole? Der.sequence bytes
  let (version, rest) ← Der.natural? body
  let (modulus, rest) ← Der.positive? rest
  let (exponent, rest) ← Der.positive? rest
  let (privateExponent, rest) ← Der.positive? rest
  let (p, rest) ← Der.positive? rest
  let (q, rest) ← Der.positive? rest
  let (exponentP, rest) ← Der.positive? rest
  let (exponentQ, rest) ← Der.positive? rest
  let (coefficient, rest) ← Der.positive? rest
  if version < 256 && rest.isEmpty then
    some ⟨version, modulus, exponent, privateExponent, p, q, exponentP, exponentQ, coefficient⟩
  else none

def roundedBits (n : Nat) : Nat := (bitLength n + 7) / 8 * 8

def isConsistent (c : Components) : Bool :=
  let half := (bitLength c.modulus + 1) / 2
  c.p * c.q == c.modulus && bitLength c.p == half && bitLength c.q == half &&
    c.privateExponent < c.modulus && half < bitLength c.privateExponent &&
    c.exponentP < c.p && c.exponentQ < c.q &&
    c.coefficient < c.p && c.coefficient * c.q % c.p == 1

def rejection? (c : Components) : Option RsaRejection :=
  if c.version ≠ 0 then some .versionNotSupported
  else if c.modulus % 2 = 0 then some .invalidComponent
  else if roundedBits c.modulus < 2048 then some .tooSmall
  else if bitLength c.modulus > 4096 then some .tooLarge
  else if c.exponent < 65537 then some .tooSmall
  else if bitLength c.exponent > 33 then some .tooLarge
  else if c.exponent % 2 = 0 then some .invalidComponent
  else if !isConsistent c then some .inconsistentComponents
  else if c.privateExponent % 2 = 0 || c.exponentP % 2 = 0 || c.exponentQ % 2 = 0 then
    some .invalidComponent
  else none

def PrivateKey.ofBytes (bytes : Bytes) : Except RsaRejection PrivateKey :=
  match components? bytes with
  | none => .error .invalidEncoding
  | some c =>
    match rejection? c with
    | some reason => .error reason
    | none => .ok ⟨⟨c.modulus, c.exponent⟩, c.privateExponent⟩

/-- A public key for checking signatures, of 2048 to 8192 bits. -/
def PublicKey.ofBytes? (bytes : Bytes) : Option PublicKey := do
  let body ← Der.whole? Der.sequence bytes
  let (modulus, rest) ← Der.positive? body
  let (exponent, rest) ← Der.positive? rest
  if rest.isEmpty && modulus % 2 = 1 && 2048 ≤ roundedBits modulus &&
      bitLength modulus ≤ 8192 && 3 ≤ exponent && exponent % 2 = 1 && bitLength exponent ≤ 33 then
    some ⟨modulus, exponent⟩
  else none

end Rsa

/-- The version, the algorithm and the key of the structure that wraps a private key, and what
follows them. -/
def Der.wrappedKey? (bytes : Bytes) : Option (Nat × Bytes × Bytes × Bytes) := do
  let body ← whole? sequence bytes
  let (version, rest) ← natural? body
  let (algorithm, rest) ← take? sequence rest
  let (key, rest) ← take? 0x04 rest
  some (version, algorithm, key, rest)

namespace Ecdsa

/-- The identifier of a curve. -/
def curveIdentifier (curve : Curve) : Bytes :=
  if curve.size = 32 then [0x06, 0x08, 0x2a, 0x86, 0x48, 0xce, 0x3d, 0x03, 0x01, 0x07]
  else [0x06, 0x05, 0x2b, 0x81, 0x04, 0x00, 0x22]

def algorithmIdentifier (curve : Curve) : Bytes :=
  [0x06, 0x07, 0x2a, 0x86, 0x48, 0xce, 0x3d, 0x02, 0x01] ++ curveIdentifier curve

/-- The number of a private key on the given curve. The public point must be there, and its
number must give it. -/
def secret? (curve : Curve) (bytes : Bytes) : Option Nat := do
  let (version, algorithm, key, rest) ← Der.wrappedKey? bytes
  let body ← Der.whole? Der.sequence key
  let (keyVersion, inner) ← Der.natural? body
  let (number, inner) ← Der.take? 0x04 inner
  let inner ← match Der.take? 0xa0 inner with
    | some (parameters, inner) => if parameters = curveIdentifier curve then some inner else none
    | none => some inner
  let wrapped ← Der.whole? 0xa1 inner
  let point ← (Der.whole? 0x03 wrapped).bind Der.wholeBits?
  let secret := Bytes.toNatBig number
  let attributesOnly := rest.isEmpty || (Der.whole? 0xa0 rest).isSome
  if version = 0 && algorithm = algorithmIdentifier curve && attributesOnly && keyVersion = 1 &&
      number.length = curve.size && 0 < secret && secret < curve.order &&
      curve.publicPoint? secret = some point then
    some secret
  else none

end Ecdsa

namespace Ed25519

/-- The seed of a private key. A public key is required in the second version of the structure
and must belong to the seed. -/
def seed? (bytes : Bytes) : Option Bytes := do
  let (version, algorithm, key, rest) ← Der.wrappedKey? bytes
  let seed ← Der.whole? 0x04 key
  let rest := match Der.take? 0xa0 rest with
    | some (_, rest) => rest
    | none => rest
  let bits? := ((Der.whole? 0xa1 rest).bind (Der.whole? 0x03)).orElse fun _ => Der.whole? 0x81 rest
  let publicFits :=
    if version = 0 then rest.isEmpty
    else version == 1 && bits?.bind Der.wholeBits? == some (publicKey seed)
  if algorithm = [0x06, 0x03, 0x2b, 0x65, 0x70] && seed.length = 32 && publicFits then some seed
  else none

end Ed25519

end RegistryAuth
