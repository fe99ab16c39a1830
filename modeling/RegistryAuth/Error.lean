import RegistryAuth.Text.Quoted

/-! # Failures of a token request

A request for tokens fails because it is malformed, because its credential was
not accepted, because it was cancelled, or because a component broke down. The
text of a failed authentication is fixed, so that it tells nothing about the
cause.
-/

namespace RegistryAuth

inductive AuthError where
  | invalidRequest (message : String)
  | authenticationFailed
  | cancelled
  | internal (message : String)
deriving DecidableEq, Repr

namespace AuthError

/-- A stable name of the kind of failure, for logs. -/
def kind : AuthError → String
  | invalidRequest _ => "invalid_request"
  | authenticationFailed => "authentication_failed"
  | cancelled => "cancelled"
  | internal _ => "internal"

def message : AuthError → String
  | invalidRequest text => s!"invalid request: {text}"
  | authenticationFailed => "authentication failed"
  | cancelled => "request cancelled"
  | internal text => s!"internal error: {text}"

def malformedScope (text : String) : AuthError :=
  invalidRequest s!"invalid scope {Text.quoted text}"

def bothCredentials : AuthError :=
  invalidRequest "both password and refresh token credentials supplied"

def noCredentials : AuthError :=
  invalidRequest "no credentials supplied"

def missingParameter (name : String) : AuthError :=
  invalidRequest s!"{name} is required"

def malformedBasicHeader : AuthError :=
  invalidRequest "malformed basic authorization header"

def basicWithoutUsername : AuthError :=
  invalidRequest "basic authorization without username"

def lifetimeOutOfRange (seconds : Nat) : AuthError :=
  internal s!"token lifetime {seconds}s is out of range"

def signingFailed (reason : String) : AuthError :=
  internal s!"signing token: {reason}"

def noVerificationKey : AuthError :=
  internal "refresh token issuer has no verification key"

end AuthError

end RegistryAuth
