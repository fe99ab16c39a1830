import RegistryAuth.Authentication
import RegistryAuth.Authorization
import RegistryAuth.Log

/-! # The token service

A request for tokens is authenticated, authorised and answered with an access
token and, where asked for, a refresh token. Each of these stages is entered
only while the request is not cancelled, and a grant beyond the request is
refused before any token is made. The logged service reports each request with
one event that holds no secret.
-/

namespace RegistryAuth

structure TokenRequest where
  /-- No credential stands for the anonymous subject. -/
  credential : Option Credential
  service : Option String
  scopes : List Scope
  issueRefreshToken : Bool
deriving DecidableEq, Repr

structure AccessToken where
  token : String
  expiresIn : Nat
  issuedAt : Instant
deriving DecidableEq, Repr

structure AccessTokenIssuer where
  issue : Occasion → Subject → Option String → List Scope → Reply AccessToken

structure TokenResponse where
  subject : String
  accessToken : String
  expiresIn : Nat
  issuedAt : Instant
  refreshToken : Option String
  scopes : List Scope
deriving DecidableEq, Repr

/-- The four components through which a request passes. -/
structure TokenPipeline where
  authenticator : Authenticator
  authorizer : Authorizer
  accessIssuer : AccessTokenIssuer
  refreshIssuer : RefreshTokenIssuer

namespace TokenPipeline

variable (pipeline : TokenPipeline) (occasion : Occasion)

def authenticated (credential : Option Credential) : Attempt Subject :=
  match credential with
  | some credential =>
    Attempt.guarded (pipeline.authenticator.authenticate occasion.now credential)
  | none => Attempt.pure Subject.anonymous

def authorized (subject : Subject) (requested : List Scope) : Attempt (List Scope) := do
  let granted ← Attempt.guarded (Attempt.call (.authorize subject requested)
    (pipeline.authorizer.authorize subject requested))
  if Scope.isSubset granted requested then Attempt.pure granted
  else Attempt.fail (.widened granted requested)

/-- The anonymous subject gets no refresh token, because it cannot be looked up again. -/
def refreshToken? (wanted : Bool) (subject : Subject) : Attempt (Option String) :=
  if wanted && !subject.isAnonymous then do
    let token ← Attempt.guarded (Attempt.call (.issueRefreshToken subject)
      (pipeline.refreshIssuer.issue occasion subject))
    Attempt.pure (some token)
  else Attempt.pure none

def respond (request : TokenRequest) : Attempt TokenResponse := do
  let subject ← pipeline.authenticated occasion request.credential
  let granted ← pipeline.authorized subject request.scopes
  Attempt.failIfCancelled
  let access ← Attempt.guarded (Attempt.call (.issueAccessToken subject request.service granted)
    (pipeline.accessIssuer.issue occasion subject request.service granted))
  let refresh ← pipeline.refreshToken? occasion request.issueRefreshToken subject
  Attempt.failIfCancelled
  Attempt.pure ⟨subject.id, access.token, access.expiresIn, access.issuedAt, refresh, granted⟩

end TokenPipeline

/-- What came of one request: its result, the components called for it, and what was logged. -/
structure Issuance where
  result : Except AuthError TokenResponse
  calls : List Call
  log : List LogEvent

/-- Answers requests, each told whether it is cancelled from the start. -/
structure TokenService where
  issue : Occasion → Bool → TokenRequest → Issuance

def TokenPipeline.service (pipeline : TokenPipeline) : TokenService :=
  ⟨fun occasion cancelled request =>
    let (result, progress) := (pipeline.respond occasion request).run cancelled
    ⟨result, progress.calls, []⟩⟩

namespace TokenRequest

def grantType (request : TokenRequest) : String :=
  match request.credential with
  | some credential => credential.grantType
  | none => "anonymous"

def username (request : TokenRequest) : String :=
  (request.credential.bind Credential.username?).getD ""

/-- The event that reports the result of a request. Only the reader of the log learns the detail
of an internal error. -/
def event (request : TokenRequest) (result : Except AuthError TokenResponse) : LogEvent :=
  let service := LogField.text (request.service.getD "")
  let requested := LogField.text (Scope.renderAll request.scopes)
  match result with
  | .ok response =>
    ⟨.info, "token issued",
      [("grant_type", .text request.grantType), ("subject", .text response.subject),
        ("service", service), ("requested", requested),
        ("granted", .text (Scope.renderAll response.scopes)),
        ("refresh_token", .flag response.refreshToken.isSome)]⟩
  | .error (.internal detail) =>
    ⟨.error, "token issuance failed",
      [("grant_type", .text request.grantType), ("username", .text request.username),
        ("service", service), ("requested", requested), ("outcome", .text "internal"),
        ("error", .text detail)]⟩
  | .error e =>
    ⟨.warn, "token request rejected",
      [("grant_type", .text request.grantType), ("username", .text request.username),
        ("service", service), ("requested", requested), ("outcome", .text e.kind)]⟩

end TokenRequest

/-- What came of a request, with the report of its result at the end of the log. -/
def Issuance.reported (issuance : Issuance) (request : TokenRequest) : Issuance :=
  { issuance with log := issuance.log ++ [request.event issuance.result] }

namespace TokenService

/-- Has a request served, with whatever effects that has, and adds the report of its result. -/
def logging {m : Type → Type} [Monad m] (serve : Occasion → Bool → TokenRequest → m Issuance)
    (occasion : Occasion) (cancelled : Bool) (request : TokenRequest) : m Issuance := do
  let issuance ← serve occasion cancelled request
  return issuance.reported request

/-- The service that also reports every request it answers. -/
def logged (service : TokenService) : TokenService :=
  ⟨fun occasion cancelled request => Id.run <|
    logging (fun occasion cancelled request => pure (service.issue occasion cancelled request))
      occasion cancelled request⟩

end TokenService

end RegistryAuth
