import RegistryAuth.Key.Algorithm
import RegistryAuth.Key.Asn1
import RegistryAuth.Key.Pem

/-! # Keys from their armour

The label of an armoured key tells whether it holds a bare RSA key or a key
within a structure that names its family; certificates count as public keys.
What is taken out are the bytes that signing or checking needs: the whole
private structure for curves, else the first string of bytes inside.
-/

namespace RegistryAuth

inductive KeyError where
  | invalidFormat
  | noKeyInside
deriving DecidableEq, Repr

def KeyError.message : KeyError → String
  | invalidFormat => "InvalidKeyFormat"
  | noKeyInside => "InvalidEcdsaKey"

structure ArmouredKey where
  family : KeyFamily
  isPrivate : Bool
  /-- A bare key is not wrapped in a structure that names its family. -/
  isBare : Bool
  contents : Bytes
  values : List Asn1

namespace ArmouredKey

def familyOf? : Asn1 → Option KeyFamily
  | .objectIdentifier components =>
    if components = [1, 2, 840, 10045, 2, 1] then some .ec
    else if components = [1, 2, 840, 113549, 1, 1, 1] then some .rsa
    else if components = [1, 3, 101, 112] then some .ed
    else none
  | _ => none

def ofPem? (pem : Pem) : Option ArmouredKey := do
  let values ← Asn1.ofBytes? pem.contents
  if pem.label == "RSA PRIVATE KEY" then some ⟨.rsa, true, true, pem.contents, values⟩
  else if pem.label == "RSA PUBLIC KEY" then some ⟨.rsa, false, true, pem.contents, values⟩
  else if ["PRIVATE KEY", "PUBLIC KEY", "CERTIFICATE"].contains pem.label then
    let family ← Asn1.findIn? familyOf? values
    some ⟨family, pem.label == "PRIVATE KEY", false, pem.contents, values⟩
  else none

def ofBytes (bytes : Bytes) : Except KeyError ArmouredKey :=
  match (Pem.ofText? (Bytes.toTextLenient bytes).toList).bind ofPem? with
  | some key => .ok key
  | none => .error .invalidFormat

def firstString (key : ArmouredKey) : Except KeyError Bytes :=
  match Asn1.findIn? Asn1.string? key.values with
  | some bytes => .ok bytes
  | none => .error .noKeyInside

/-- The bytes of a key for signing. An RSA key is taken as it comes, private or not. -/
def signingBytes (key : ArmouredKey) (family : KeyFamily) : Except KeyError Bytes :=
  if key.family ≠ family then .error .invalidFormat
  else if family = .rsa then if key.isBare then .ok key.contents else key.firstString
  else if key.isPrivate then .ok key.contents
  else .error .invalidFormat

def checkingBytes (key : ArmouredKey) (family : KeyFamily) : Except KeyError Bytes :=
  if key.family ≠ family then .error .invalidFormat
  else if family = .rsa then if key.isBare then .ok key.contents else key.firstString
  else if key.isPrivate then .error .invalidFormat
  else key.firstString

end ArmouredKey

end RegistryAuth
