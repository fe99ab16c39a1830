import RegistryAuth.Scope.Json

/-! # Claims

What tokens say. An access token carries the granted scopes, and a refresh token
the marker of its use and no scope at all. The claims of a refresh token hold at
a time from the start to the end of its validity, ends included, and for the
issuer that they name.
-/

namespace RegistryAuth

structure AccessClaims where
  issuer : String
  subject : String
  audience : Option String
  expires : Int
  notBefore : Int
  issued : Int
  id : String
  access : List Scope
deriving DecidableEq, Repr

def AccessClaims.toJson (claims : AccessClaims) : Json :=
  .object ([("iss", .string claims.issuer), ("sub", .string claims.subject)] ++
    (match claims.audience with
      | some audience => [("aud", .string audience)]
      | none => []) ++
    [("exp", .int claims.expires), ("nbf", .int claims.notBefore), ("iat", .int claims.issued),
      ("jti", .string claims.id), ("access", .array (claims.access.map Scope.toJson))])

structure RefreshClaims where
  issuer : String
  subject : String
  expires : Int
  notBefore : Int
  issued : Int
  id : String
  tokenUse : String
deriving DecidableEq, Repr

namespace RefreshClaims

/-- The marker of refresh tokens. -/
def refreshUse : String := "refresh"

def toJson (claims : RefreshClaims) : Json :=
  .object [("iss", .string claims.issuer), ("sub", .string claims.subject),
    ("exp", .int claims.expires), ("nbf", .int claims.notBefore), ("iat", .int claims.issued),
    ("jti", .string claims.id), ("token_use", .string claims.tokenUse)]

def reader : JsonReader RefreshClaims :=
  RecordReader.toReader "RefreshClaims" <|
    RefreshClaims.mk
      <$> RecordReader.required "iss" JsonReader.text
      <*> RecordReader.required "sub" JsonReader.text
      <*> RecordReader.required "exp" JsonReader.int64
      <*> RecordReader.required "nbf" JsonReader.int64
      <*> RecordReader.required "iat" JsonReader.int64
      <*> RecordReader.required "jti" JsonReader.text
      <*> RecordReader.required "token_use" JsonReader.text

/-- Claims are written as an object, in which an audience stands at most once. -/
def ofJson? : Json → Option RefreshClaims
  | .object members =>
    if (members.filter fun (name, _) => name == "aud").length ≤ 1 then
      (reader (.object members)).toOption
    else none
  | _ => none

/-- A time before the start of 1970 does not count as an end of validity. -/
def holdAt (claims : RefreshClaims) (now : Int) : Bool :=
  0 ≤ claims.expires && now ≤ claims.expires && claims.notBefore ≤ now

end RefreshClaims

end RegistryAuth
