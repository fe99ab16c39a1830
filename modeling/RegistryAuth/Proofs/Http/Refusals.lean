import RegistryAuth.Proofs.Http.Admission
import RegistryAuth.Proofs.Http.Identity

/-! # What refusals disclose

Whatever makes an authentication fail, the response is the same one. The same
holds of internal errors, whatever their detail, and no response with an error
status holds a token.
-/

namespace RegistryAuth

section Authentication

variable {deployment : Deployment} {now : Instant} {credential : Option Credential} {e : AuthError}

/-- All failures of authentication are the same error. -/
theorem Deployment.authenticate_eq_error
    (hk : deployment.refreshIssuer.key.checking.isSome = true)
    (h : deployment.authenticate now credential = .error e) : e = .authenticationFailed := by
  rcases credential with _ | ⟨username, secret⟩ | token
  · cases h
  · exact UserTable.authenticate_eq_error h
  · obtain ⟨material, hm⟩ := Option.isSome_iff_exists.mp hk
    rcases Except.bind_eq_error_iff.mp h with hv | ⟨id, -, ho⟩
    · rw [JwtRefreshIssuer.verify_of_checking hm] at hv
      split at hv <;> cases hv
      rfl
    · exact (TokenPipeline.ownerOf_eq_error_iff.mp ho).1

/-- A request that obtains no tokens for anyone is answered with that error. -/
theorem Deployment.answer_of_not_obtains {occasion : Occasion} {request : Http.Request}
    {admitted : TokenRequest} (hk : deployment.refreshIssuer.key.checking.isSome = true)
    (hm : request.Makes admitted)
    (hn : ∀ id, ¬ request.Obtains deployment.users deployment.verifier occasion.now id) :
    deployment.answer occasion admitted = .error .authenticationFailed := by
  unfold answer
  cases ha : deployment.authenticate occasion.now admitted.credential with
  | ok subject => exact absurd (obtains_of_authenticate hm ha) (hn subject.id)
  | error e =>
    rw [authenticate_eq_error hk ha]
    rfl

/-- A token that verifies has a dot between its parts. -/
theorem Deployment.dot_mem_of_verify {token id : String}
    (hk : deployment.refreshIssuer.key.checking.isSome = true)
    (h : (deployment.verifier.verify now token).outcome = .value id) : '.' ∈ token.toList := by
  obtain ⟨material, hm⟩ := Option.isSome_iff_exists.mp hk
  simp only [verifier, JwtRefreshIssuer.verify_of_checking hm] at h
  cases ha : deployment.refreshIssuer.accepts? material now token with
  | none =>
    rw [ha] at h
    cases h
  | some subject =>
    obtain ⟨contents, _, ht, -, -⟩ := JwtRefreshIssuer.accepts_of_accepts? ha
    simp [ht, Jwt.Contents.text]

end Authentication

namespace Http

/-- The flow that a message to the token endpoint belongs to. -/
def Request.flow (request : Request) : Flow :=
  if request.method = "POST" then .oauth2 else .docker

/-- What is sent of a response to a message of the given method. -/
def Response.sentFor (response : Response) (method : String) : Response :=
  if method == "HEAD" then response.withoutBody else response

/-- The body has a member for a token. -/
def Body.HoldsToken (body : Body) : Prop :=
  ∃ json, body = .json json ∧
    ∃ name ∈ ["token", "access_token", "refresh_token"], (json.member? name).isSome = true

theorem Body.not_holdsToken_empty : ¬ empty.HoldsToken := by
  rintro ⟨_, ⟨⟩, -⟩

theorem Body.not_holdsToken_text (value : String) : ¬ (text value).HoldsToken := by
  rintro ⟨_, ⟨⟩, -⟩

/-- Only a response of status 200 may hold a token. -/
def Response.Withholds (response : Response) : Prop :=
  response.status = 200 ∨ ¬ response.body.HoldsToken

section Responses

variable {response : Response}

theorem errorResponse_withholds (status : Nat) (error : String) (description : Option String) :
    (errorResponse status error description).Withholds := by
  refine .inr ?_
  rintro ⟨_, ⟨⟩, name, hn, hm⟩
  simp only [List.mem_cons, List.not_mem_nil, or_false] at hn
  rcases hn with rfl | rfl | rfl <;> cases description <;>
    simp [Json.member?, List.lookup_cons] at hm

theorem Response.IsRefusal.withholds (h : response.IsRefusal) : response.Withholds := by
  obtain ⟨status, error, description, _, -, rfl⟩ := h
  exact errorResponse_withholds status error description

theorem resultResponse_withholds (flow : Flow) (realm : String)
    (result : Except AuthError TokenResponse) : (resultResponse flow realm result).Withholds := by
  cases result with
  | error e => exact (failureResponse_isRefusal flow realm e).withholds
  | ok granted =>
    simp only [resultResponse, grantResponse]
    split
    next => exact .inr (Body.not_holdsToken_text _)
    next => cases flow <;> exact .inl rfl

theorem Response.Withholds.sentFor (h : response.Withholds) (method : String) :
    (response.sentFor method).Withholds := by
  unfold Response.sentFor
  split
  next => exact .inr Body.not_holdsToken_empty
  next => exact h

end Responses

/-- An exchange in which the service is not called. -/
structure Exchange.DoesWithout (exchange : Exchange) : Prop where
  admitted : exchange.admitted = none
  response : exchange.response.Withholds

theorem Exchange.Refuses.doesWithout {exchange : Exchange} (h : exchange.Refuses) :
    exchange.DoesWithout :=
  ⟨h.admitted, h.response.withholds⟩

theorem Route.path_eq_of_token {path : String} (h : ofPath? path = some token) :
    path = "/token" := by
  unfold ofPath? at h
  split at h
  next hp => exact eq_of_beq hp
  next =>
    split at h
    next => cases h
    next => split at h <;> cases h

namespace Server

variable {server : Server} {occasion : Occasion} {request : Request} {admitted : TokenRequest}

/-- What is sent of the result that the service comes to. -/
def resultSent (server : Server) (occasion : Occasion) (request : Request)
    (admitted : TokenRequest) : Response :=
  (resultResponse request.flow server.realm
    (server.service.issue occasion false admitted).result).sentFor request.method

theorem serve_cases (server : Server) (occasion : Occasion) (route : Route) (request : Request) :
    (route = .token ∧ ∃ admitted, server.serve occasion route request =
      server.issue occasion request.flow admitted) ∨
    (server.serve occasion route request).DoesWithout := by
  unfold serve Request.flow
  split
  next hm =>
    rw [if_pos hm]
    rcases server.postToken_cases occasion request with ⟨_, admitted, -, -, hr⟩ | hr
    · exact .inl ⟨rfl, admitted, hr⟩
    · exact .inr hr.doesWithout
  next hm =>
    rw [if_neg hm]
    rcases server.getToken_cases occasion request with ⟨admitted, -, hr⟩ | hr
    · exact .inl ⟨rfl, admitted, hr⟩
    · exact .inr hr.doesWithout
  next => exact .inr ⟨rfl, .inl rfl⟩
  next => exact .inr ⟨rfl, .inl rfl⟩

theorem answer_cases (server : Server) (occasion : Occasion) (route : Route) (request : Request) :
    (route = .token ∧ ∃ admitted, (server.answer occasion route request).admitted = some admitted ∧
      (server.answer occasion route request).response =
        server.resultSent occasion request admitted) ∨
    (server.answer occasion route request).DoesWithout := by
  by_cases hs : serves route request.method = true
  · have ha : (server.answer occasion route request).admitted =
        (server.serve occasion route request).admitted := by
      simp only [answer, hs, if_true]
      split <;> rfl
    have hr : (server.answer occasion route request).response =
        (server.serve occasion route request).response.sentFor request.method := by
      simp only [answer, hs, if_true, Response.sentFor]
      split <;> rfl
    rcases server.serve_cases occasion route request with ⟨ht, admitted, hi⟩ | hw
    · rw [hi] at ha hr
      exact .inl ⟨ht, admitted, ha, hr⟩
    · exact .inr ⟨ha.trans hw.admitted, hr ▸ hw.response.sentFor request.method⟩
  · simp only [answer, hs]
    exact .inr ⟨rfl, .inr Body.not_holdsToken_empty⟩

/-- The result of the service is answered, or the service is not called at all. -/
theorem handle_cases (server : Server) (occasion : Occasion) (request : Request) :
    (request.path = "/token" ∧ ∃ admitted,
      (server.handle occasion request).admitted = some admitted ∧
      (server.handle occasion request).response =
        (server.resultSent occasion request admitted).withHeaders openHeaders) ∨
    (server.handle occasion request).DoesWithout := by
  unfold handle
  split
  next => exact .inr ⟨rfl, .inr Body.not_holdsToken_empty⟩
  next route hroute =>
    rcases server.answer_cases occasion route request with ⟨rfl, admitted, ha, hr⟩ | hw
    · simp only [Route.isOpen, if_true]
      split
      next => exact .inr ⟨rfl, .inl rfl⟩
      next => exact .inl ⟨Route.path_eq_of_token hroute, admitted, ha, by rw [hr]⟩
    · split
      next =>
        split
        next => exact .inr ⟨rfl, .inl rfl⟩
        next => exact .inr ⟨hw.admitted, hw.response⟩
      next => exact .inr hw

/-- The response to a message that the service was called for. -/
theorem handle_of_admitted (h : (server.handle occasion request).admitted = some admitted) :
    request.path = "/token" ∧ (server.handle occasion request).response =
      (server.resultSent occasion request admitted).withHeaders openHeaders := by
  rcases server.handle_cases occasion request with ⟨hp, other, ho, hr⟩ | hw
  · cases ho.symm.trans h
    exact ⟨hp, hr⟩
  · cases hw.admitted.symm.trans h

theorem handle_withholds (server : Server) (occasion : Occasion) (request : Request) :
    (server.handle occasion request).response.Withholds := by
  rcases server.handle_cases occasion request with ⟨-, admitted, -, hr⟩ | hw
  · rw [hr]
    exact (resultResponse_withholds _ _ _).sentFor request.method
  · exact hw.response

theorem makes_of_admitted (hm : request.method = "GET" ∨ request.method = "POST")
    (h : (server.handle occasion request).admitted = some admitted) : request.Makes admitted := by
  have hp := (handle_of_admitted h).1
  rcases server.handle_token_cases occasion hp hm with ⟨flow, other, ho, hr⟩ | ⟨_, he, hr⟩ <;>
    rw [hr] at h
  · cases h
    exact ho
  · cases he.admitted.symm.trans h

/-- The service is called for the message and comes to an internal error. -/
def BreaksDown (server : Server) (occasion : Occasion) (request : Request) : Prop :=
  ∃ admitted detail, (server.handle occasion request).admitted = some admitted ∧
    (server.service.issue occasion false admitted).result = .error (.internal detail)

theorem response_of_breaksDown (h : server.BreaksDown occasion request) :
    (server.handle occasion request).response =
      ((errorResponse 500 "server_error" none).sentFor request.method).withHeaders openHeaders := by
  obtain ⟨admitted, detail, ha, hr⟩ := h
  rw [(handle_of_admitted ha).2, resultSent, hr]
  rfl

end Server

/-- The message is well-formed, but what it presents is worth no tokens. -/
def Request.FailsAuthentication (request : Request) (server : Server) (users : UserConfig)
    (verifier : RefreshTokenVerifier) (occasion : Occasion) : Prop :=
  (∃ admitted, (server.handle occasion request).admitted = some admitted) ∧
    ∀ id, ¬ request.Obtains users verifier occasion.now id

/-- A form obtains tokens by the name of a user or by a token that verifies. -/
theorem Request.Obtains.by_form {request : Request} {form : TokenForm} {users : UserConfig}
    {verifier : RefreshTokenVerifier} {now : Instant} {id : String}
    (h : request.Obtains users verifier now id) (hm : request.method = "POST")
    (hb : TokenForm.ofBody (request.header? "content-type") request.body = .ok form) :
    (form.grantType = some "password" ∧ form.username = some id ∧
        ∃ user ∈ users.entries, user.username = id) ∨
      form.grantType = some "refresh_token" ∧ ∃ token, form.refreshToken = some token ∧
        (verifier.verify now token).outcome = .value id := by
  have hn : request.method ≠ "GET" := by
    rw [hm]
    decide
  cases h with
  | anonymous ha => exact absurd ha.1 hn
  | @password user secret hu _ _ hp _ =>
    cases hp with
    | basic hg => exact absurd hg hn
    | password _ hf hg hname _ =>
      cases hb.symm.trans hf
      exact .inl ⟨hg, hname, user, hu, rfl⟩
  | @refreshToken user token _ _ _ hp hv =>
    cases hp with
    | refreshToken _ hf hg ht =>
      cases hb.symm.trans hf
      exact .inr ⟨hg, token, ht, hv⟩

/-- Nothing of a message but its method stands in the response to its failed authentication. -/
theorem Request.FailsAuthentication.response_eq {deployment : Deployment} {server : Server}
    {occasion : Occasion} {request : Request}
    (h : request.FailsAuthentication server deployment.users deployment.verifier occasion)
    (hk : deployment.refreshIssuer.key.checking.isSome = true)
    (hs : server.service = deployment.pipeline.service.logged)
    (hm : request.method = "GET" ∨ request.method = "POST") :
    (server.handle occasion request).response =
      ((failureResponse request.flow server.realm .authenticationFailed).sentFor
        request.method).withHeaders openHeaders := by
  obtain ⟨⟨admitted, ha⟩, hn⟩ := h
  have hr : (server.service.issue occasion false admitted).result =
      .error .authenticationFailed := by
    rw [hs, ← Deployment.answer_of_not_obtains hk (Server.makes_of_admitted hm ha) hn]
    exact deployment.result_eq_answer occasion admitted
  rw [(Server.handle_of_admitted ha).2, Server.resultSent, hr]
  rfl

end Http

namespace Configuration

open Http

/-- All failures of authentication are answered in the same way, and so are all internal errors.
No response with an error status holds a token. -/
theorem rejections_disclose_nothing (configuration : Configuration) (files : Files) (salt : Bytes) :
    (∀ built server,
      configuration.buildComponents (Registries.builtin files salt) = .ok built →
      built.component.tokenService.map (Server.ofSettings configuration.server) = .ok server →
      ∃ users verifier,
        configuration.passwordAuthenticator.config.ReadsAs UserConfig.reader users ∧
        built.component.refreshTokenIssuer.verifier? = some verifier ∧
        ∀ (occasion moment : Occasion) (request other : Request),
          request.method = other.method → request.method = "GET" ∨ request.method = "POST" →
          request.FailsAuthentication server users verifier occasion →
          other.FailsAuthentication server users verifier moment →
          (server.handle occasion request).response = (server.handle moment other).response ∧
          (server.handle occasion request).response.status = 401) ∧
    (∀ (server another : Server) (occasion moment : Occasion) (request other : Request),
      server.BreaksDown occasion request → another.BreaksDown moment other →
      (request.method = "HEAD" ↔ other.method = "HEAD") →
      (server.handle occasion request).response = (another.handle moment other).response) ∧
    ∀ (server : Server) (occasion : Occasion) (request : Request),
      400 ≤ (server.handle occasion request).response.status →
      ¬ (server.handle occasion request).response.body.HoldsToken := by
  refine ⟨?alike, ?internal, ?tokenless⟩
  case alike =>
    intro built server hb hs
    obtain ⟨deployment, hu, hk, hv, hd⟩ := exists_serving_deployment hb
    rw [hd] at hs
    cases hs
    refine ⟨deployment.users, deployment.verifier, hu, hv, ?_⟩
    intro occasion moment request other he hm hr ho
    have hresponse := hr.response_eq hk rfl hm
    refine ⟨?_, ?_⟩
    · rw [hresponse, ho.response_eq hk rfl (he ▸ hm), Request.flow, Request.flow, he]
    · rw [hresponse]
      rcases hm with hm | hm <;> rw [Request.flow, hm] <;> rfl
  case internal =>
    intro server another occasion moment request other h ho hm
    rw [Server.response_of_breaksDown h, Server.response_of_breaksDown ho]
    simp only [Response.sentFor, beq_iff_eq, hm]
  case tokenless =>
    intro server occasion request h
    refine (server.handle_withholds occasion request).resolve_left fun hs => ?_
    rw [hs] at h
    exact absurd h (by decide)

/-- The login of an unknown user and a text that is no token are refused alike. -/
theorem login_and_redemption_refused_alike :
    ∃ (hash : String) (built : Built Components) (server : Server),
      (ofUser "u" hash "0123456789abcdef0123456789abcdef").buildComponents
        (Registries.builtin ⟨[]⟩ []) = .ok built ∧
      built.component.tokenService.map (Server.ofSettings
        (ofUser "u" hash "0123456789abcdef0123456789abcdef").server) = .ok server ∧
      (server.handle ⟨Instant.ofSeconds 0, "a", "r"⟩
          (.ofForm "grant_type=password&username=v&password=p")).response =
        (server.handle ⟨Instant.ofSeconds 9, "b", "s"⟩
          (.ofForm "grant_type=refresh_token&refresh_token=x")).response := by
  have hn : "u" ≠ "" := by decide
  have hsecret : minimalSecret ≤ "0123456789abcdef0123456789abcdef".utf8ByteSize := by decide
  obtain ⟨hash, -, hi⟩ := User.exists_passwordHash hn "p"
  obtain ⟨built, hb, hs⟩ := exists_built_ofUser ⟨[]⟩ [] (hi true []) hsecret
  let configuration := ofUser "u" hash "0123456789abcdef0123456789abcdef"
  let login : Request := .ofForm "grant_type=password&username=v&password=p"
  let redemption : Request := .ofForm "grant_type=refresh_token&refresh_token=x"
  have hlogin : TokenForm.ofBody (login.header? "content-type") login.body =
      .ok ⟨some "password", some "v", some "p", none, none, none⟩ :=
    (TokenForm.ofBody_ofForm (by decide +kernel)).trans (by decide +kernel)
  have hredemption : TokenForm.ofBody (redemption.header? "content-type") redemption.body =
      .ok ⟨some "refresh_token", none, none, some "x", none, none⟩ :=
    (TokenForm.ofBody_ofForm (by decide +kernel)).trans (by decide +kernel)
  have hserver : built.component.tokenService.map (Server.ofSettings configuration.server) =
      .ok _ := Except.map_eq_ok_iff.mpr ⟨_, hs, rfl⟩
  have hl : TokenForm.Admits ⟨some "password", some "v", some "p", none, none, none⟩ false
      ⟨some (.password "v" "p"), none, [], true⟩ :=
    ⟨⟨_, rfl, .password rfl rfl (by decide) rfl (by decide) rfl⟩, rfl, rfl⟩
  have hr : TokenForm.Admits ⟨some "refresh_token", none, none, some "x", none, none⟩ false
      ⟨some (.refreshToken "x"), none, [], false⟩ :=
    ⟨⟨_, rfl, .refreshToken rfl rfl (by decide) (.inl rfl)⟩, rfl, rfl⟩
  obtain ⟨users, verifier, hread, hv, hall⟩ :=
    (rejections_disclose_nothing configuration ⟨[]⟩ []).1 built _ hb hserver
  cases hread
  refine ⟨hash, built, _, hb, hserver, (hall _ _ login redemption rfl (.inr rfl)
    ⟨⟨_, (Server.handle_admitted_iff (by decide) rfl hlogin).mpr hl⟩, fun id h => ?_⟩
    ⟨⟨_, (Server.handle_admitted_iff (by decide) rfl hredemption).mpr hr⟩, fun id h => ?_⟩).1⟩
  · rcases h.by_form rfl hlogin with ⟨-, hname, user, hu, rfl⟩ | ⟨hg, -⟩
    · cases List.mem_singleton.mp hu
      have hname : "v" = "u" := Option.some.inj hname
      exact absurd hname (by decide)
    · exact absurd hg (by decide)
  · rcases h.by_form rfl hredemption with ⟨hg, -⟩ | ⟨-, token, ht, hvalue⟩
    · exact absurd hg (by decide)
    · obtain ⟨deployment, -, hk, hd, -⟩ := exists_serving_deployment hb
      cases hv.symm.trans hd
      cases ht
      exact absurd (Deployment.dot_mem_of_verify hk hvalue) (by decide)

end Configuration

end RegistryAuth
