import RegistryAuth.Codec.Base64
import RegistryAuth.Error
import RegistryAuth.Http.Message

/-! # Basic credentials

A name and a password in an authorization header: base64 of the two, joined by
a colon. Other schemes, and headers that are not visible text, are passed over;
what has the scheme but does not decode is a malformed request.
-/

namespace RegistryAuth.Http

def basicScheme? (value : List Char) : Option (List Char) :=
  match Text.dropStart? "Basic ".toList value with
  | some rest => some rest
  | none => Text.dropStart? "basic ".toList value

/-- The name ends at the first colon and must not be empty. -/
def splitLogin (login : String) : Except AuthError (String × String) :=
  match Text.splitFirst? ':' login.toList with
  | none => .error .malformedBasicHeader
  | some (username, password) =>
    if username.isEmpty then .error .basicWithoutUsername
    else .ok (String.ofList username, String.ofList password)

def decodeLogin (encoded : List Char) : Except AuthError (String × String) :=
  match (Base64.decode? Base64.standard true (Text.trim encoded)).bind Bytes.toText? with
  | none => .error .malformedBasicHeader
  | some login => splitLogin login

/-- The credentials in the value of an authorization header. -/
def basicLogin (value : Option Bytes) : Except AuthError (Option (String × String)) :=
  match (value.bind visibleText?).bind basicScheme? with
  | none => .ok none
  | some encoded => (decodeLogin encoded).map some

end RegistryAuth.Http
