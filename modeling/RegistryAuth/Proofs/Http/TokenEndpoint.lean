import RegistryAuth.Http.Router
import RegistryAuth.Proofs.Http.TokenForm
import RegistryAuth.Proofs.Json.Record

/-! # What the token endpoint asks for

A request that is answered with tokens was read into one token request, whose
credential the message itself presents: basic credentials in a query, or the
fields of a form with their grant. Only a query can come without a credential.
-/

namespace RegistryAuth.Http

/-- The credential that a message carries for itself. -/
inductive Request.Presents (request : Request) : Credential → Prop where
  | basic {username secret : String} : request.method = "GET" →
      basicLogin (request.header? "authorization") = .ok (some (username, secret)) →
      Presents request (.password username secret)
  | password {form : TokenForm} {username secret : String} : request.method = "POST" →
      TokenForm.ofBody (request.header? "content-type") request.body = .ok form →
      form.grantType = some "password" → form.username = some username →
      form.password = some secret → Presents request (.password username secret)
  | refreshToken {form : TokenForm} {token : String} : request.method = "POST" →
      TokenForm.ofBody (request.header? "content-type") request.body = .ok form →
      form.grantType = some "refresh_token" → form.refreshToken = some token →
      Presents request (.refreshToken token)

/-- A query whose authorization header holds no basic credentials. -/
def Request.IsAnonymous (request : Request) : Prop :=
  request.method = "GET" ∧ basicLogin (request.header? "authorization") = .ok none

/-- What a message presents is the credential of the token request made of it. -/
def Request.Makes (request : Request) (admitted : TokenRequest) : Prop :=
  match admitted.credential with
  | none => request.IsAnonymous
  | some credential => request.Presents credential

/-- The message that sends a form. -/
def Request.ofForm (form : String) : Request where
  method := "POST"
  target := "/token"
  headers := [("content-type", Bytes.ofText "application/x-www-form-urlencoded")]
  body := Bytes.ofText form

theorem Request.path_ofForm (form : String) : (ofForm form).path = "/token" := by
  simp only [path, ofForm]
  decide

theorem TokenForm.ofBody_ofForm {form : String}
    (h : (Bytes.ofText form).length ≤ bodyLimit) :
    ofBody ((Request.ofForm form).header? "content-type") (Request.ofForm form).body =
      ofPairs (Form.pairs (Bytes.ofText form)) := by
  have ht : hasContentType (some (Bytes.ofText "application/x-www-form-urlencoded")) = true := by
    decide +kernel
  change ofBody (some (Bytes.ofText "application/x-www-form-urlencoded")) (Bytes.ofText form) = _
  unfold ofBody
  rw [ht, if_neg (by decide), if_neg (Nat.not_lt.mpr h)]

section Query

variable {parameters : QueryParameters} {authorization : Option Bytes} {admitted : TokenRequest}
  {e : AuthError}

/-- The credential that a basic header presents, if it holds a login. -/
def loginCredential (login : Option (String × String)) : Option Credential :=
  login.map fun (username, password) => .password username password

theorem QueryParameters.tokenRequest_eq_ok_iff :
    parameters.tokenRequest authorization = .ok admitted ↔
      ∃ login scopes, basicLogin authorization = .ok login ∧
        Scope.parseAll parameters.scopes = .ok scopes ∧
        admitted = ⟨loginCredential login, parameters.service, scopes, parameters.offlineToken⟩ := by
  simp only [tokenRequest, Except.bind_eq_ok_iff, Except.pure_eq_ok_iff]
  constructor
  · rintro ⟨login, hl, scopes, hs, rfl⟩
    exact ⟨login, scopes, hl, hs, rfl⟩
  · rintro ⟨login, scopes, hl, hs, rfl⟩
    exact ⟨login, hl, scopes, hs, rfl⟩

theorem QueryParameters.tokenRequest_congr (parameters : QueryParameters)
    {authorization again : Option Bytes} (h : basicLogin authorization = basicLogin again) :
    parameters.tokenRequest authorization = parameters.tokenRequest again := by
  rw [tokenRequest, tokenRequest, h]

theorem QueryParameters.tokenRequest_eq_error_iff :
    parameters.tokenRequest authorization = .error e ↔
      basicLogin authorization = .error e ∨
        (∃ login, basicLogin authorization = .ok login) ∧
          Scope.parseAll parameters.scopes = .error e := by
  simp only [tokenRequest, Except.bind_eq_error_iff, ← exists_and_right, reduceCtorEq, pure,
    Except.pure, and_false, exists_false, or_false]

end Query

section Admission

variable {request : Request} {admitted : TokenRequest} {form : TokenForm} {rotate : Bool}

theorem Request.makes_of_form (hp : request.method = "POST")
    (hb : TokenForm.ofBody (request.header? "content-type") request.body = .ok form)
    (h : form.Admits rotate admitted) : request.Makes admitted := by
  obtain ⟨credential, ha, hc⟩ := h.credential
  generalize admitted.issueRefreshToken = wanted at hc
  unfold Makes
  rw [ha]
  cases hc with
  | password hg hu _ hs => exact .password hp hb hg hu hs
  | refreshToken hg ht => exact .refreshToken hp hb hg ht

theorem Request.makes_of_query {parameters : QueryParameters} (hg : request.method = "GET")
    (h : parameters.tokenRequest (request.header? "authorization") = .ok admitted) :
    request.Makes admitted := by
  obtain ⟨login, scopes, hl, -, rfl⟩ := QueryParameters.tokenRequest_eq_ok_iff.mp h
  rcases login with _ | ⟨username, secret⟩
  · exact ⟨hg, hl⟩
  · exact .basic hg hl

end Admission

section Responses

variable {server : Server} {occasion : Occasion} {request : Request} {flow : Flow} {realm : String}
  {result : Except AuthError TokenResponse}

/-- The body of a response that carries tokens. The access token may stand under a second name. -/
def Body.Carries (body : Body) (access : String) (refresh : Option String) : Prop :=
  ∃ json, body = .json json ∧ json.member? "access_token" = some (.string access) ∧
    (∀ again, json.member? "token" = some again → again = .string access) ∧
    json.member? "refresh_token" = refresh.map .string

/-- A response that tells of an error, maybe with a challenge. -/
def Response.IsRefusal (response : Response) : Prop :=
  ∃ status error description headers, 400 ≤ status ∧
    response = (errorResponse status error description).withHeaders headers

theorem Response.IsRefusal.status_ne {response : Response} (h : response.IsRefusal) :
    response.status ≠ 200 := by
  obtain ⟨status, _, _, _, hs, rfl⟩ := h
  exact Nat.ne_of_gt (Nat.lt_of_lt_of_le (by decide) hs)

theorem errorResponse_isRefusal {status : Nat} (hs : 400 ≤ status) (error : String)
    (description : Option String) : (errorResponse status error description).IsRefusal :=
  ⟨status, error, description, [], hs, by simp [Response.withHeaders]⟩

theorem failureResponse_isRefusal (flow : Flow) (realm : String) (e : AuthError) :
    (failureResponse flow realm e).IsRefusal := by
  cases e with
  | invalidRequest message =>
    exact errorResponse_isRefusal (Nat.le_refl 400) "invalid_request" (some message)
  | authenticationFailed =>
    have hs : 400 ≤ 401 := by decide
    cases flow with
    | docker => exact ⟨401, "unauthorized", some _, challenge realm, hs, rfl⟩
    | oauth2 => exact errorResponse_isRefusal hs "invalid_grant" (some _)
  | cancelled =>
    have hs : 400 ≤ 408 := by decide
    exact errorResponse_isRefusal hs "request_cancelled" none
  | internal detail =>
    have hs : 400 ≤ 500 := by decide
    exact errorResponse_isRefusal hs "server_error" none

theorem resultResponse_status (h : (resultResponse flow realm result).status = 200) :
    ∃ response, result = .ok response ∧ (∃ text, response.issuedAt.rfc3339? = some text) ∧
      (resultResponse flow realm result).body.Carries response.accessToken
        response.refreshToken := by
  cases result with
  | error e => exact absurd h (failureResponse_isRefusal flow realm e).status_ne
  | ok response =>
    refine ⟨response, rfl, ?_⟩
    cases ht : response.issuedAt.rfc3339? with
    | none => simp [resultResponse, grantResponse, ht, Response.plain] at h
    | some text =>
      refine ⟨⟨text, rfl⟩, ?_⟩
      rcases hr : response.refreshToken with _ | token <;> cases flow <;>
        simp [Body.Carries, resultResponse, grantResponse, ht, hr, Response.ofJson, refreshMember,
          Json.member?, List.lookup_cons]

/-- An exchange with the headers of an open route on its response. -/
def Exchange.opened (exchange : Exchange) : Exchange :=
  { exchange with response := exchange.response.withHeaders openHeaders }

/-- The exchange is one call of the service for a token request. Its response is made of what the
call returns, and its log is that of the call, without a second one. -/
structure Exchange.IsCall (exchange : Exchange) (server : Server) (occasion : Occasion)
    (flow : Flow) (admitted : TokenRequest) : Prop where
  admitted_eq : exchange.admitted = some admitted
  response_eq : exchange.response = (resultResponse flow server.realm
    (server.service.issue occasion false admitted).result).withHeaders openHeaders
  log_eq : exchange.log = (server.service.issue occasion false admitted).log

theorem Server.issue_isCall (server : Server) (occasion : Occasion) (flow : Flow)
    (admitted : TokenRequest) :
    (server.issue occasion flow admitted).opened.IsCall server occasion flow admitted :=
  ⟨rfl, rfl, rfl⟩

/-- An exchange that ends before the service is called. -/
structure Exchange.Refuses (exchange : Exchange) : Prop where
  admitted : exchange.admitted = none
  response : exchange.response.IsRefusal

theorem Exchange.refuses_ofResponse {response : Response} (h : response.IsRefusal) :
    (ofResponse response).Refuses :=
  ⟨rfl, h⟩

/-- What a form is answered with names the granted scopes beside the token. -/
theorem resultResponse_oauth2_status (h : (resultResponse .oauth2 realm result).status = 200) :
    ∃ response members, result = .ok response ∧
      (∃ text, response.issuedAt.rfc3339? = some text) ∧
      (resultResponse .oauth2 realm result).body = .json (.object members) ∧
      Json.IsOnly members "access_token" (.string response.accessToken) ∧
      Json.IsOnly members "scope" (.string (Scope.renderAll response.scopes)) := by
  obtain ⟨response, rfl, ⟨text, ht⟩, -⟩ := resultResponse_status h
  refine ⟨response, _, rfl, ⟨text, ht⟩, by simp only [resultResponse, grantResponse, ht]; rfl, ?_⟩
  cases hr : response.refreshToken <;> simp only [refreshMember, hr] <;> exact ⟨rfl, rfl⟩

namespace Server

variable {admitted : TokenRequest} {e : AuthError}

theorem getToken_of_ok (occasion : Occasion)
    (h : (QueryParameters.ofPairs (Form.pairs request.query)).tokenRequest
      (request.header? "authorization") = .ok admitted) :
    server.getToken occasion request = server.issue occasion .docker admitted := by
  simp only [getToken, h]

theorem getToken_of_error (occasion : Occasion)
    (h : (QueryParameters.ofPairs (Form.pairs request.query)).tokenRequest
      (request.header? "authorization") = .error e) :
    server.getToken occasion request =
      .ofResponse (failureResponse .docker server.realm e) := by
  simp only [getToken, h]

/-- A query is refused or makes one call of the service. -/
theorem getToken_cases (server : Server) (occasion : Occasion) (request : Request) :
    (∃ admitted, (QueryParameters.ofPairs (Form.pairs request.query)).tokenRequest
        (request.header? "authorization") = .ok admitted ∧
      server.getToken occasion request = server.issue occasion .docker admitted) ∨
    (server.getToken occasion request).Refuses := by
  cases ht : (QueryParameters.ofPairs (Form.pairs request.query)).tokenRequest
      (request.header? "authorization") with
  | error e =>
    rw [getToken_of_error occasion ht]
    exact .inr (Exchange.refuses_ofResponse (failureResponse_isRefusal _ _ e))
  | ok admitted => exact .inl ⟨admitted, rfl, getToken_of_ok occasion ht⟩

/-- A form is refused or makes one call of the service. -/
theorem postToken_cases (server : Server) (occasion : Occasion) (request : Request) :
    (∃ form admitted,
      TokenForm.ofBody (request.header? "content-type") request.body = .ok form ∧
      form.Admits server.rotateRefreshTokens admitted ∧
      server.postToken occasion request = server.issue occasion .oauth2 admitted) ∨
    (server.postToken occasion request).Refuses := by
  unfold postToken
  cases hb : TokenForm.ofBody (request.header? "content-type") request.body with
  | error e => exact .inr (Exchange.refuses_ofResponse (failureResponse_isRefusal _ _ _))
  | ok form =>
    cases ht : form.tokenRequest server.rotateRefreshTokens with
    | ok admitted =>
      exact .inl ⟨form, admitted, rfl, TokenForm.tokenRequest_eq_ok_iff.mp ht, by simp only [ht]⟩
    | error rejection =>
      simp only [ht]
      refine .inr ?_
      cases rejection with
      | invalid e => exact Exchange.refuses_ofResponse (failureResponse_isRefusal _ _ e)
      | unsupportedGrant type =>
        exact ⟨rfl, errorResponse_isRefusal (Nat.le_refl 400) "unsupported_grant_type" (some _)⟩

theorem postToken_status (h : (server.postToken occasion request).response.status = 200) :
    ∃ form admitted,
      TokenForm.ofBody (request.header? "content-type") request.body = .ok form ∧
      form.Admits server.rotateRefreshTokens admitted ∧
      server.postToken occasion request = server.issue occasion .oauth2 admitted :=
  (postToken_cases server occasion request).resolve_right fun hr => hr.response.status_ne h

theorem handle_get (hp : request.path = "/token") (hg : request.method = "GET") :
    server.handle occasion request = (server.getToken occasion request).opened := by
  simp [handle, hp, Route.ofPath?, hg, answer, serves, serve, Route.isOpen, Exchange.opened]

theorem handle_post (hp : request.path = "/token") (hm : request.method = "POST") :
    server.handle occasion request = (server.postToken occasion request).opened := by
  simp [handle, hp, Route.ofPath?, hm, answer, serves, serve, Route.isOpen, Exchange.opened]

/-- A form that is read and granted is answered with status 200. -/
theorem handle_post_status {form : TokenForm} {admitted : TokenRequest} {response : TokenResponse}
    {text : String} (hp : request.path = "/token") (hm : request.method = "POST")
    (hb : TokenForm.ofBody (request.header? "content-type") request.body = .ok form)
    (hf : form.tokenRequest server.rotateRefreshTokens = .ok admitted)
    (hr : (server.service.issue occasion false admitted).result = .ok response)
    (ht : response.issuedAt.rfc3339? = some text) :
    (server.handle occasion request).response.status = 200 := by
  rw [handle_post hp hm]
  simp only [postToken, hb, hf, issue, hr, resultResponse, grantResponse, ht]
  rfl

/-- A message to the token endpoint makes one call of the service, or is answered without it. -/
theorem handle_token_cases (server : Server) (occasion : Occasion) (hp : request.path = "/token")
    (hm : request.method = "GET" ∨ request.method = "POST") :
    (∃ flow admitted, request.Makes admitted ∧
      server.handle occasion request = (server.issue occasion flow admitted).opened) ∨
    ∃ exchange : Exchange, exchange.Refuses ∧ server.handle occasion request = exchange.opened := by
  rcases hm with hg | hm
  · rw [handle_get hp hg]
    rcases server.getToken_cases occasion request with ⟨admitted, ha, hr⟩ | hr
    · exact .inl ⟨.docker, admitted, Request.makes_of_query hg ha, by rw [hr]⟩
    · exact .inr ⟨_, hr, rfl⟩
  · rw [handle_post hp hm]
    rcases server.postToken_cases occasion request with ⟨form, admitted, hb, ha, hr⟩ | hr
    · exact .inl ⟨.oauth2, admitted, Request.makes_of_form hm hb ha, by rw [hr]⟩
    · exact .inr ⟨_, hr, rfl⟩

/-- What a response of status 200 carries was issued for what the message presents. -/
theorem handle_token_status (hp : request.path = "/token")
    (hm : request.method = "GET" ∨ request.method = "POST")
    (h : (server.handle occasion request).response.status = 200) :
    ∃ admitted response, request.Makes admitted ∧
      (server.service.issue occasion false admitted).result = .ok response ∧
      (∃ text, response.issuedAt.rfc3339? = some text) ∧
      (server.handle occasion request).response.body.Carries response.accessToken
        response.refreshToken := by
  rcases server.handle_token_cases occasion hp hm with ⟨flow, admitted, ha, hr⟩ | ⟨_, he, hr⟩ <;>
    rw [hr] at h ⊢
  · obtain ⟨response, hs, ht, hc⟩ := resultResponse_status h
    exact ⟨admitted, response, ha, hs, ht, hc⟩
  · exact absurd h he.response.status_ne

end Server

end Responses

end RegistryAuth.Http
