import RegistryAuth.Http.TokenEndpoint

/-! # The server

Requests are routed by path and method. The token and health endpoints may be
called from any origin and answer preflight requests themselves; the
documentation page may not. A request for the body's head runs like the request
for the whole and loses the body.
-/

namespace RegistryAuth.Http

/-- A token service with what its endpoint needs to know. -/
structure Server where
  service : TokenService
  realm : String
  rotateRefreshTokens : Bool

/-- What came of a message: the response, the token request that was made of it if any, and what
was logged. -/
structure Exchange where
  response : Response
  admitted : Option TokenRequest
  log : List LogEvent

namespace Exchange

def ofResponse (response : Response) : Exchange := ⟨response, none, []⟩

end Exchange

namespace Server

variable (server : Server) (occasion : Occasion)

def issue (flow : Flow) (request : TokenRequest) : Exchange :=
  let issuance := server.service.issue occasion false request
  ⟨resultResponse flow server.realm issuance.result, some request, issuance.log⟩

def getToken (request : Request) : Exchange :=
  let parameters := QueryParameters.ofPairs (Form.pairs request.query)
  match parameters.tokenRequest (request.header? "authorization") with
  | .ok admitted => server.issue occasion .docker admitted
  | .error e => .ofResponse (failureResponse .docker server.realm e)

def postToken (request : Request) : Exchange :=
  match TokenForm.ofBody (request.header? "content-type") request.body with
  | .error e =>
    .ofResponse (failureResponse .oauth2 server.realm (.invalidRequest e.message))
  | .ok form =>
    match form.tokenRequest server.rotateRefreshTokens with
    | .ok admitted => server.issue occasion .oauth2 admitted
    | .error (.invalid e) => .ofResponse (failureResponse .oauth2 server.realm e)
    | .error (.unsupportedGrant type) =>
      ⟨unsupportedGrantResponse type, none, [unsupportedGrantEvent type]⟩

end Server

inductive Route where
  | token
  | health
  | documentation
deriving DecidableEq, Repr

namespace Route

def ofPath? (path : String) : Option Route :=
  if path == "/token" then some token
  else if path == "/healthz" then some health
  else if path == "/api-docs" then some documentation
  else none

/-- Whether pages of any origin may call. -/
def isOpen : Route → Bool
  | documentation => false
  | _ => true

def allowed : Route → String
  | token => "GET,HEAD,POST"
  | _ => "GET,HEAD"

def allowHeader (route : Route) : List (String × String) := [("allow", route.allowed)]

end Route

def varyHeader : String × String :=
  ("vary", "origin, access-control-request-method, access-control-request-headers")

def originHeader : String × String := ("access-control-allow-origin", "*")

/-- Headers of every response of an open route. -/
def openHeaders : List (String × String) :=
  [originHeader, ("access-control-expose-headers", "*"), varyHeader]

def preflightHeaders : List (String × String) :=
  [originHeader, ("access-control-allow-headers", "*"), ("access-control-allow-methods", "*"),
    varyHeader]

namespace Server

/-- The answer to one of the methods that a route serves. -/
def serve (server : Server) (occasion : Occasion) (route : Route) (request : Request) : Exchange :=
  match route, request.method with
  | .token, "POST" => server.postToken occasion request
  | .token, _ => server.getToken occasion request
  | .health, _ => .ofResponse (.plain 200 "ok")
  | .documentation, _ => .ofResponse .ofHtml

def serves (route : Route) (method : String) : Bool :=
  method == "GET" || method == "HEAD" || (route == .token && method == "POST")

def answer (server : Server) (occasion : Occasion) (route : Route) (request : Request) :
    Exchange :=
  if serves route request.method then
    let exchange := server.serve occasion route request
    if request.method == "HEAD" then
      { exchange with response := exchange.response.withoutBody }
    else exchange
  else .ofResponse (.bare 405 route.allowHeader)

def handle (server : Server) (occasion : Occasion) (request : Request) : Exchange :=
  match Route.ofPath? request.path with
  | none => .ofResponse (.bare 404 [])
  | some route =>
    if route.isOpen then
      if request.method == "OPTIONS" then
        .ofResponse (.bare 200 (preflightHeaders ++ route.allowHeader))
      else
        let exchange := server.answer occasion route request
        { exchange with response := exchange.response.withHeaders openHeaders }
    else server.answer occasion route request

end Server

end RegistryAuth.Http
