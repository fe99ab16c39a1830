import RegistryAuth.Codec.Base64
import RegistryAuth.Json.Parser
import RegistryAuth.Token.SigningKey

/-! # Signed tokens

A token is a header, a payload and a signature in base64, joined by dots. The
header names the algorithm and the key. A token is opened with a key by checking
that its header names the key's own algorithm and that the signature belongs to
the first two parts.
-/

namespace RegistryAuth.Jwt

/-- Bytes as a part of a token. -/
def encodePart (bytes : Bytes) : List Char := Base64.encode Base64.urlSafe false bytes

def decodePart? (text : List Char) : Option Bytes := Base64.decode? Base64.urlSafe false text

def encodeJson (json : Json) : List Char := encodePart (Bytes.ofText json.render)

def decodeJson? (part : List Char) : Option Json := do
  let bytes ← decodePart? part
  let text ← Bytes.toText? bytes
  Json.parse? text

def header (key : SigningKey) : Json :=
  .object ([("typ", .string "JWT"), ("alg", .string key.algorithm.name)] ++
    match key.keyId with
    | some id => [("kid", .string id)]
    | none => [])

/-- Header and payload, the part of a token that is signed. -/
def signedText (key : SigningKey) (payload : Json) : List Char :=
  encodeJson (header key) ++ '.' :: encodeJson payload

def textBytes (text : List Char) : Bytes := Bytes.ofText (String.ofList text)

def sign (key : SigningKey) (payload : Json) : Except SigningError String := do
  let text := signedText key payload
  let signature ← key.signing.sign key.algorithm (textBytes text)
  return String.ofList (text ++ '.' :: encodePart signature)

/-! Headers -/

def algorithmReader : JsonReader Algorithm
  | .string name =>
    match Algorithm.ofName? name with
    | some algorithm => .ok algorithm
    | none => .error (.wrongValue (Json.string name).describe "an algorithm")
  | json => JsonReader.mismatch json "an algorithm"

/-- The members that a key inside a header must have as texts, by its type. -/
def keyMembers? (type : String) : Option (List String) :=
  if type == "EC" then some ["crv", "x", "y"]
  else if type == "RSA" then some ["n", "e"]
  else if type == "OKP" then some ["crv", "x"]
  else if type == "oct" then some ["k"]
  else none

def isText : Json → Bool
  | .string _ => true
  | _ => false

def headerKeyReader : JsonReader Unit
  | .object members =>
    let json := Json.object members
    let isKey := match json.member? "kty" with
      | some (.string type) =>
        match keyMembers? type with
        | some names => names.all fun name => ((json.member? name).map isText).getD false
        | none => false
      | _ => false
    if isKey then .ok () else JsonReader.mismatch json "a key"
  | json => JsonReader.mismatch json "a key"

/-- Reads the algorithm of a header. The other members that headers define must have their types;
members of other names are passed over. -/
def headerReader : JsonReader Algorithm :=
  RecordReader.toReader "Header" <|
    (fun _ algorithm _ _ _ _ _ _ _ _ => algorithm)
      <$> RecordReader.optional "typ" JsonReader.text
      <*> RecordReader.required "alg" algorithmReader
      <*> RecordReader.optional "cty" JsonReader.text
      <*> RecordReader.optional "jku" JsonReader.text
      <*> RecordReader.optional "jwk" headerKeyReader
      <*> RecordReader.optional "kid" JsonReader.text
      <*> RecordReader.optional "x5u" JsonReader.text
      <*> RecordReader.optional "x5c" (JsonReader.list JsonReader.text)
      <*> RecordReader.optional "x5t" JsonReader.text
      <*> RecordReader.optional "x5t#S256" JsonReader.text

def headerAlgorithm? (part : List Char) : Option Algorithm := do
  let json ← decodeJson? part
  (headerReader json).toOption

/-- The three parts of a token. -/
structure Parts where
  header : List Char
  payload : List Char
  signature : List Char
deriving DecidableEq, Repr

def Parts.signedText (parts : Parts) : List Char := parts.header ++ '.' :: parts.payload

def parts? (token : String) : Option Parts := do
  let (message, signature) ← Text.splitLast? '.' token.toList
  let (header, payload) ← Text.splitLast? '.' message
  some ⟨header, payload, signature⟩

def hasSignature (material : KeyMaterial) (algorithm : Algorithm) (parts : Parts) : Bool :=
  match decodePart? parts.signature with
  | some signature => material.check algorithm (textBytes parts.signedText) signature
  | none => false

/-- The payload of a token that was signed with a key. -/
def open? (material : KeyMaterial) (algorithm : Algorithm) (token : String) : Option Json := do
  let parts ← parts? token
  let named ← headerAlgorithm? parts.header
  if named = algorithm && hasSignature material algorithm parts then decodeJson? parts.payload
  else none

end RegistryAuth.Jwt
