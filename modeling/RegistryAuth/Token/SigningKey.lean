import RegistryAuth.Files
import RegistryAuth.Json.Reading
import RegistryAuth.Key.Armoured
import RegistryAuth.Key.Material

/-! # Signing keys

The key that an issuer signs with, and the key that checks its signatures if
there is one. A configuration gives a shared secret for the keyed hashes and
armoured keys, inline or in files, for the others. Loading it reports the first
of its faults in a fixed order.
-/

namespace RegistryAuth

structure SigningKey where
  algorithm : Algorithm
  signing : KeyMaterial
  checking : Option KeyMaterial
  keyId : Option String
deriving DecidableEq, Repr

namespace SigningKey

def ofSecret (algorithm : Algorithm) (secret : Bytes) (keyId : Option String) : SigningKey :=
  ⟨algorithm, ⟨.hmac, secret⟩, some ⟨.hmac, secret⟩, keyId⟩

def describe (key : SigningKey) : String :=
  let keyId := match key.keyId with
    | some id => "Some(" ++ Text.quoted id ++ ")"
    | none => "None"
  "SigningKey \x7b algorithm: " ++ key.algorithm.name ++ ", key_id: " ++ keyId ++ ", .. \x7d"

end SigningKey

structure SigningKeyConfig where
  algorithm : String
  secret : Option String
  privateKey : Option String
  privateKeyFile : Option String
  publicKey : Option String
  publicKeyFile : Option String
  keyId : Option String
deriving DecidableEq, Repr

inductive KeyLoadError where
  | unsupportedAlgorithm (name : String)
  | secretRequired (algorithm : Algorithm)
  | secretTooShort
  | bothSources (field : String)
  | unreadable (field path : String) (cause : FileError)
  | privateKeyRequired (algorithm : Algorithm)
  | invalidPrivateKey (cause : KeyError)
  | invalidPublicKey (cause : KeyError)
  | publicKeyRequired (algorithm : Algorithm)
deriving DecidableEq, Repr

/-- The least length of a shared secret in bytes. -/
def minimalSecret : Nat := 32

def KeyLoadError.message : KeyLoadError → String
  | unsupportedAlgorithm name => "unsupported algorithm " ++ Text.quoted name
  | secretRequired algorithm => s!"secret is required for {algorithm.name}"
  | secretTooShort => s!"secret must be at least {minimalSecret} bytes"
  | bothSources field => s!"{field} and {field}_file are mutually exclusive"
  | unreadable field path cause => s!"reading {field}_file {path}: {cause.message}"
  | privateKeyRequired algorithm =>
    s!"private_key or private_key_file is required for {algorithm.name}"
  | invalidPrivateKey cause => s!"invalid private key: {cause.message}"
  | invalidPublicKey cause => s!"invalid public key: {cause.message}"
  | publicKeyRequired algorithm =>
    s!"public_key or public_key_file is required to verify {algorithm.name} tokens"

namespace SigningKeyConfig

def reader : JsonReader SigningKeyConfig :=
  RecordReader.toReader "SigningKeyConfig" <|
    SigningKeyConfig.mk
      <$> RecordReader.defaulted "algorithm" JsonReader.text "HS256"
      <*> RecordReader.optional "secret" JsonReader.text
      <*> RecordReader.optional "private_key" JsonReader.text
      <*> RecordReader.optional "private_key_file" JsonReader.path
      <*> RecordReader.optional "public_key" JsonReader.text
      <*> RecordReader.optional "public_key_file" JsonReader.path
      <*> RecordReader.optional "key_id" JsonReader.text

/-- The armoured key of a field, given inline or by the name of its file. -/
def armour (files : Files) (inline file : Option String) (field : String) :
    Except KeyLoadError (Option Bytes) :=
  match inline, file with
  | some _, some _ => .error (.bothSources field)
  | some text, none => .ok (some (Bytes.ofText text))
  | none, some path =>
    match files.read path with
    | .ok content => .ok (some content.toList)
    | .error cause => .error (.unreadable field path cause)
  | none, none => .ok none

def loadSecret (config : SigningKeyConfig) (algorithm : Algorithm) :
    Except KeyLoadError SigningKey :=
  match config.secret with
  | none => .error (.secretRequired algorithm)
  | some secret =>
    if secret.utf8ByteSize < minimalSecret then .error .secretTooShort
    else .ok (SigningKey.ofSecret algorithm (Bytes.ofText secret) config.keyId)

def signingMaterial (family : KeyFamily) (armour : Bytes) : Except KeyLoadError KeyMaterial :=
  match (ArmouredKey.ofBytes armour).bind fun key => key.signingBytes family with
  | .ok bytes => .ok ⟨family, bytes⟩
  | .error cause => .error (.invalidPrivateKey cause)

def checkingMaterial (family : KeyFamily) (armour : Option Bytes) :
    Except KeyLoadError (Option KeyMaterial) :=
  match armour with
  | none => .ok none
  | some armour =>
    match (ArmouredKey.ofBytes armour).bind fun key => key.checkingBytes family with
    | .ok bytes => .ok (some ⟨family, bytes⟩)
    | .error cause => .error (.invalidPublicKey cause)

def loadPair (config : SigningKeyConfig) (files : Files) (algorithm : Algorithm)
    (mustCheck : Bool) : Except KeyLoadError SigningKey := do
  let privateArmour ← armour files config.privateKey config.privateKeyFile "private_key"
  match privateArmour with
  | none => .error (.privateKeyRequired algorithm)
  | some privateArmour =>
    let publicArmour ← armour files config.publicKey config.publicKeyFile "public_key"
    let signing ← signingMaterial algorithm.family privateArmour
    let checking ← checkingMaterial algorithm.family publicArmour
    if mustCheck && checking.isNone then .error (.publicKeyRequired algorithm)
    else .ok ⟨algorithm, signing, checking, config.keyId⟩

/-- Loads the key, and requires that it can check signatures if `mustCheck` is set. -/
def load (config : SigningKeyConfig) (files : Files) (mustCheck : Bool) :
    Except KeyLoadError SigningKey :=
  match Algorithm.ofName? config.algorithm with
  | none => .error (.unsupportedAlgorithm config.algorithm)
  | some algorithm =>
    if algorithm.family = .hmac then config.loadSecret algorithm
    else config.loadPair files algorithm mustCheck

end SigningKeyConfig

end RegistryAuth
