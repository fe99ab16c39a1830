import RegistryAuth.Error

/-! # Credentials

What a request proves its identity with: a name and a password, or a refresh
token handed out before. The descriptive form shows neither the password nor
the token.
-/

namespace RegistryAuth

inductive Credential where
  | password (username password : String)
  | refreshToken (token : String)
deriving DecidableEq, Repr

namespace Credential

/-- Exactly one of the two kinds must be present. -/
def ofParts (login : Option (String × String)) (token : Option String) :
    Except AuthError Credential :=
  match login, token with
  | some (username, secret), none => .ok (password username secret)
  | none, some token => .ok (refreshToken token)
  | some _, some _ => .error .bothCredentials
  | none, none => .error .noCredentials

def grantType : Credential → String
  | password _ _ => "password"
  | refreshToken _ => "refresh_token"

def username? : Credential → Option String
  | password username _ => some username
  | refreshToken _ => none

def describe : Credential → String
  | password username _ =>
    "Password \x7b username: " ++ Text.quoted username ++ ", password: \"<redacted>\" \x7d"
  | refreshToken _ => "RefreshToken(\"<redacted>\")"

end Credential

end RegistryAuth
