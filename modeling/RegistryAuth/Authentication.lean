import RegistryAuth.ConfigError
import RegistryAuth.Credential
import RegistryAuth.Instant
import RegistryAuth.Stage

/-! # Authentication

A password authenticator accepts a name and a password, and a refresh token
issuer makes tokens that stand for a subject. For the refresh path the first
must also find subjects by their id and the second must also verify its tokens.
A verified token gives an id, and its subject is looked up anew: it must still
exist, be enabled, and carry that very id.
-/

namespace RegistryAuth

/-- When a request is served, and the identifiers for the tokens it may get. -/
structure Occasion where
  now : Instant
  accessTokenId : String
  refreshTokenId : String
deriving DecidableEq, Repr

structure SubjectRepository where
  findSubject : String → Reply (Option Subject)

structure PasswordAuthenticator where
  authenticate : String → String → Reply Subject
  repository? : Option SubjectRepository

/-- Gives the id of the subject that a token stands for. -/
structure RefreshTokenVerifier where
  verify : Instant → String → Reply String

structure RefreshTokenIssuer where
  issue : Occasion → Subject → Reply String
  verifier? : Option RefreshTokenVerifier

structure RefreshTokenAuthenticator where
  verifier : RefreshTokenVerifier
  repository : SubjectRepository

namespace RefreshTokenAuthenticator

def authenticate (authenticator : RefreshTokenAuthenticator) (now : Instant) (token : String) :
    Attempt Subject := do
  let id ← Attempt.call (.verifyRefreshToken token) (authenticator.verifier.verify now token)
  let found ← Attempt.call (.findSubject id) (authenticator.repository.findSubject id)
  match found with
  | some subject =>
    if subject.enabled && subject.id == id then Attempt.pure subject
    else Attempt.fail .authenticationFailed
  | none => Attempt.fail .authenticationFailed

end RefreshTokenAuthenticator

structure Authenticator where
  password : PasswordAuthenticator
  refreshToken : RefreshTokenAuthenticator

namespace Authenticator

def ofComponents (password : PasswordAuthenticator) (issuer : RefreshTokenIssuer) :
    Except ConfigError Authenticator :=
  match issuer.verifier?, password.repository? with
  | none, _ => .error (.missingCapability .verifyRefreshTokens)
  | some _, none => .error (.missingCapability .findSubjects)
  | some verifier, some repository => .ok ⟨password, ⟨verifier, repository⟩⟩

def authenticate (authenticator : Authenticator) (now : Instant) :
    Credential → Attempt Subject
  | .password username secret =>
    Attempt.call (.authenticate username secret)
      (authenticator.password.authenticate username secret)
  | .refreshToken token => authenticator.refreshToken.authenticate now token

end Authenticator

end RegistryAuth
