import RegistryAuth.Http.BasicAuth
import RegistryAuth.Http.Form
import RegistryAuth.TokenService

/-! # The token endpoint

Two flows ask for tokens: a query with basic credentials or none, and a form
with a grant of its own. Each is read into a token request or rejected, and the
request's result becomes a response. Only the kind of a failure decides its
response, except that a malformed request is told what is wrong with it.
-/

namespace RegistryAuth.Http

/-- The flow of a query and the flow of a form. -/
inductive Flow where
  | docker
  | oauth2
deriving DecidableEq, Repr

def nonEmpty? (text : String) : Option String :=
  if text.isEmpty then none else some text

/-! Queries -/

structure QueryParameters where
  service : Option String
  scopes : List String
  offlineToken : Bool
deriving DecidableEq, Repr

namespace QueryParameters

def isTrue (text : String) : Bool := text.toList.map Char.toLower == "true".toList

/-- Scopes accumulate; of the others the last one counts. -/
def insert (parameters : QueryParameters) (parameter : String × String) : QueryParameters :=
  let (name, value) := parameter
  if name == "scope" then { parameters with scopes := parameters.scopes ++ [value] }
  else if name == "service" then { parameters with service := nonEmpty? value }
  else if name == "offline_token" then { parameters with offlineToken := isTrue value }
  else parameters

def ofPairs (pairs : List (String × String)) : QueryParameters :=
  pairs.foldl insert ⟨none, [], false⟩

/-- The token request that a query makes with the given authorization header. -/
def tokenRequest (parameters : QueryParameters) (authorization : Option Bytes) :
    Except AuthError TokenRequest := do
  let login ← basicLogin authorization
  let scopes ← Scope.parseAll parameters.scopes
  return ⟨login.map fun (username, password) => .password username password,
    parameters.service, scopes, parameters.offlineToken⟩

end QueryParameters

/-! Forms -/

structure TokenForm where
  grantType : Option String
  username : Option String
  password : Option String
  refreshToken : Option String
  scope : Option String
  service : Option String
deriving DecidableEq, Repr

/-- Why a body is no form. -/
inductive FormError where
  | contentType
  | tooLong
  | duplicateField (name : String)
deriving DecidableEq, Repr

def FormError.message : FormError → String
  | contentType =>
    "Form requests must have \x60Content-Type: application/x-www-form-urlencoded\x60"
  | tooLong => "Failed to buffer the request body: length limit exceeded"
  | duplicateField name =>
    "Failed to deserialize form body: duplicate field \x60" ++ name ++ "\x60"

/-- Why a form asks for no token: a malformed request, or a grant of another type. -/
inductive FormRejection where
  | invalid (error : AuthError)
  | unsupportedGrant (type : String)
deriving DecidableEq, Repr

namespace TokenForm

/-- The longest body that is read, in bytes. -/
def bodyLimit : Nat := 2 * 1024 * 1024

def contentType : List Char := "application/x-www-form-urlencoded".toList

def hasContentType (value : Option Bytes) : Bool :=
  match value.bind visibleText? with
  | some text => contentType.isPrefixOf text
  | none => false

def fieldNames : List String :=
  ["grant_type", "username", "password", "refresh_token", "scope", "service", "client_id",
    "access_type"]

/-- The first field that stands twice. -/
def duplicate? (seen : List String) : List (String × String) → Option String
  | [] => none
  | (name, _) :: rest =>
    if !fieldNames.contains name then duplicate? seen rest
    else if seen.contains name then some name
    else duplicate? (name :: seen) rest

def ofPairs (pairs : List (String × String)) : Except FormError TokenForm :=
  match duplicate? [] pairs with
  | some name => .error (.duplicateField name)
  | none =>
    let field (name : String) := pairs.lookup name
    .ok ⟨field "grant_type", field "username", field "password", field "refresh_token",
      field "scope", field "service"⟩

def ofBody (type : Option Bytes) (body : Bytes) : Except FormError TokenForm :=
  if !hasContentType type then .error .contentType
  else if body.length > bodyLimit then .error .tooLong
  else ofPairs (Form.pairs body)

def require (value : Option String) (name : String) : Except AuthError String :=
  match value.bind nonEmpty? with
  | some text => .ok text
  | none => .error (.missingParameter name)

def passwordCredential (form : TokenForm) : Except AuthError Credential := do
  let username ← require form.username "username"
  let password ← require form.password "password"
  Credential.ofParts (some (username, password)) (form.refreshToken.bind nonEmpty?)

def refreshCredential (form : TokenForm) : Except AuthError Credential := do
  let login := match form.username.bind nonEmpty?, form.password with
    | some username, some password => some (username, password)
    | _, _ => none
  let token ← require form.refreshToken "refresh_token"
  Credential.ofParts login (some token)

def requestWith (form : TokenForm) (credential : Except AuthError Credential)
    (issueRefreshToken : Bool) : Except FormRejection TokenRequest :=
  Except.mapError FormRejection.invalid do
    let credential ← credential
    let scopes ← Scope.parseAll form.scope.toList
    return ⟨some credential, form.service.bind nonEmpty?, scopes, issueRefreshToken⟩

/-- The token request that a form makes. `rotate` tells whether a redeemed refresh token is
replaced by a new one. -/
def tokenRequest (form : TokenForm) (rotate : Bool) : Except FormRejection TokenRequest :=
  match form.grantType.getD "" with
  | "password" => form.requestWith form.passwordCredential true
  | "refresh_token" => form.requestWith form.refreshCredential rotate
  | "" => .error (.invalid (.missingParameter "grant_type"))
  | other => .error (.unsupportedGrant other)

end TokenForm

/-! Responses -/

def errorResponse (status : Nat) (error : String) (description : Option String) : Response :=
  .ofJson status (.object (("error", .string error) ::
    match description with
    | some text => [("error_description", .string text)]
    | none => []))

/-- The challenge for basic credentials, left out if the realm cannot stand in a header. -/
def challenge (realm : String) : List (String × String) :=
  let value := "Basic realm=\"" ++ realm ++ "\""
  if isHeaderValue value then [("www-authenticate", value)] else []

def failureResponse (flow : Flow) (realm : String) : AuthError → Response
  | .invalidRequest message => errorResponse 400 "invalid_request" (some message)
  | .authenticationFailed =>
    let text := some AuthError.authenticationFailed.message
    match flow with
    | .docker => (errorResponse 401 "unauthorized" text).withHeaders (challenge realm)
    | .oauth2 => errorResponse 401 "invalid_grant" text
  | .cancelled => errorResponse 408 "request_cancelled" none
  | .internal _ => errorResponse 500 "server_error" none

def unwritableTime : String :=
  "The year component cannot be formatted into the requested format."

def refreshMember (response : TokenResponse) : List (String × Json) :=
  match response.refreshToken with
  | some token => [("refresh_token", .string token)]
  | none => []

/-- A granted request. The time of issue must be one that can be written. -/
def grantResponse (flow : Flow) (response : TokenResponse) : Response :=
  match response.issuedAt.rfc3339? with
  | none => .plain 500 unwritableTime
  | some issuedAt =>
    let lifetime := [("expires_in", Json.int response.expiresIn), ("issued_at", .string issuedAt)]
    let token := Json.string response.accessToken
    match flow with
    | .docker =>
      .ofJson 200 (.object ([("token", token), ("access_token", token)] ++ lifetime ++
        refreshMember response))
    | .oauth2 =>
      .ofJson 200 (.object ([("access_token", token), ("token_type", .string "Bearer")] ++
        lifetime ++ [("scope", .string (Scope.renderAll response.scopes))] ++
        refreshMember response))

def resultResponse (flow : Flow) (realm : String) : Except AuthError TokenResponse → Response
  | .ok response => grantResponse flow response
  | .error e => failureResponse flow realm e

def unsupportedGrantEvent (type : String) : LogEvent :=
  ⟨.warn, "token request rejected",
    [("grant_type", .text type), ("outcome", .text "unsupported_grant_type")]⟩

def unsupportedGrantResponse (type : String) : Response :=
  errorResponse 400 "unsupported_grant_type"
    (some ("grant type " ++ Text.quoted type ++ " is not supported"))

end RegistryAuth.Http
