import RegistryAuth.Proofs.Http.Admission
import RegistryAuth.Proofs.Http.BasicAuth
import RegistryAuth.Proofs.Http.Parameters
import RegistryAuth.Proofs.Scope.Canonical

/-! # Two flows, one request

A client with a name and a password can send a query with a basic header or a
form with the password grant. Both messages are read into the same request, or
both are refused for the same malformed scope.
-/

namespace RegistryAuth.Http

/-- What a client asks for with its name and its password. -/
structure Demand where
  username : String
  secret : String
  service : Option String
  scopes : List String

/-- The query that makes a demand, with one parameter for each scope. Parameters of other names
may stand beside them. -/
structure Request.Queries (request : Request) (demand : Demand) : Prop where
  path_eq : request.path = "/token"
  method_eq : request.method = "GET"
  login_eq : request.header? "authorization" = some (basicHeader demand.username demand.secret)
  scopes_eq : Form.values (Form.pairs request.query) "scope" = demand.scopes
  service_eq : Form.values (Form.pairs request.query) "service" = demand.service.toList
  offlineToken_eq : Form.values (Form.pairs request.query) "offline_token" = ["true"]

/-- The form that makes a demand, with one field for all scopes, or none if there are no scopes. -/
structure Request.Submits (request : Request) (demand : Demand) : Prop where
  path_eq : request.path = "/token"
  method_eq : request.method = "POST"
  hasContentType : TokenForm.hasContentType (request.header? "content-type") = true
  length_le : request.body.length ≤ TokenForm.bodyLimit
  grantType_eq : Form.values (Form.pairs request.body) "grant_type" = ["password"]
  username_eq : Form.values (Form.pairs request.body) "username" = [demand.username]
  secret_eq : Form.values (Form.pairs request.body) "password" = [demand.secret]
  refreshToken_eq : Form.values (Form.pairs request.body) "refresh_token" = []
  scope_eq : Form.values (Form.pairs request.body) "scope" =
    if demand.scopes = [] then [] else [" ".intercalate demand.scopes]
  service_eq : Form.values (Form.pairs request.body) "service" = demand.service.toList
  others_le : ∀ name ∈ ["client_id", "access_type"],
    (Form.values (Form.pairs request.body) name).length ≤ 1

variable {demand : Demand} {request : Request}

theorem Request.Queries.ofPairs_eq (h : request.Queries demand) :
    QueryParameters.ofPairs (Form.pairs request.query) =
      ⟨demand.service.filter (· ≠ ""), demand.scopes, true⟩ := by
  have hl : demand.service.toList.getLast? = demand.service := by
    cases demand.service <;> rfl
  have ht : QueryParameters.isTrue "true" = true := by decide
  rw [QueryParameters.ofPairs_eq, h.scopes_eq, h.service_eq, h.offlineToken_eq, hl,
    bind_nonEmpty?]
  simp [ht]

/-- The form that is read from the message of a demand. -/
def Demand.form (demand : Demand) : TokenForm :=
  ⟨some "password", some demand.username, some demand.secret, none,
    if demand.scopes = [] then none else some (" ".intercalate demand.scopes), demand.service⟩

theorem Request.Submits.ofBody_eq (h : request.Submits demand) :
    TokenForm.ofBody (request.header? "content-type") request.body = .ok demand.form := by
  have hs : Form.values (Form.pairs request.body) "scope" = demand.form.scope.toList := by
    rw [h.scope_eq, Demand.form]
    split <;> rfl
  have hl : ∀ value : Option String, value.toList.length ≤ 1 ∧ value.toList.head? = value := by
    intro value
    cases value <;> simp
  rw [TokenForm.ofBody, h.hasContentType, if_neg (by decide), if_neg (Nat.not_lt.mpr h.length_le),
    TokenForm.ofPairs_eq_ok_iff]
  simp only [TokenForm.fieldNames, List.forall_mem_cons, h.grantType_eq, h.username_eq,
    h.secret_eq, h.refreshToken_eq, hs, h.service_eq, hl]
  refine ⟨⟨by decide, by simp, by simp, by decide, trivial, trivial, ?_⟩, rfl⟩
  simpa using h.others_le

theorem Demand.parseAll_form (demand : Demand) :
    Scope.parseAll demand.form.scope.toList = Scope.parseAll demand.scopes := by
  by_cases h : demand.scopes = []
  · simp [form, h]
  · simp [form, h, Scope.parseAll_intercalate]

theorem Demand.grants_form (hu : demand.username ≠ "") (hs : demand.secret ≠ "") (rotate : Bool) :
    demand.form.Grants rotate (.password demand.username demand.secret) true :=
  .password rfl rfl hu rfl hs rfl

/-- The request that the messages of a demand are read into. -/
def Demand.tokenRequest (demand : Demand) (parsed : List Scope) : TokenRequest :=
  ⟨some (.password demand.username demand.secret), demand.service.filter (· ≠ ""), parsed, true⟩

namespace Server

theorem handle_queries (server : Server) (occasion : Occasion) (hu : demand.username ≠ "")
    (hc : ':' ∉ demand.username.toList) (h : request.Queries demand) :
    server.handle occasion request =
      (match Scope.parseAll demand.scopes with
        | .ok parsed => server.issue occasion .docker (demand.tokenRequest parsed)
        | .error e => .ofResponse (failureResponse .docker server.realm e)).opened := by
  rw [handle_get h.path_eq h.method_eq, getToken, h.ofPairs_eq, h.login_eq]
  simp only [QueryParameters.tokenRequest, basicLogin_basicHeader hu hc]
  cases Scope.parseAll demand.scopes <;> rfl

theorem handle_submits (server : Server) (occasion : Occasion) (hu : demand.username ≠ "")
    (hs : demand.secret ≠ "") (h : request.Submits demand) :
    server.handle occasion request =
      (match Scope.parseAll demand.scopes with
        | .ok parsed => server.issue occasion .oauth2 (demand.tokenRequest parsed)
        | .error e => .ofResponse (failureResponse .oauth2 server.realm e)).opened := by
  have hg := demand.grants_form hu hs server.rotateRefreshTokens
  rw [handle_post h.path_eq h.method_eq]
  cases hp : Scope.parseAll demand.scopes with
  | ok parsed =>
    have ha : demand.form.Admits server.rotateRefreshTokens (demand.tokenRequest parsed) :=
      ⟨⟨_, rfl, hg⟩, rfl, demand.parseAll_form.trans hp⟩
    rw [postToken_of_admits h.ofBody_eq ha]
  | error e =>
    have ht := TokenForm.tokenRequest_of_grants hg (demand.parseAll_form.trans hp)
    simp only [postToken, h.ofBody_eq, ht]

/-- The query and the form of a demand each make one call of the service for the same request, or
neither of them does and both are told the same about a malformed scope. -/
theorem flows_make_same_request (server : Server) (occasion : Occasion) (demand : Demand)
    (hu : demand.username ≠ "") (hc : ':' ∉ demand.username.toList) (hs : demand.secret ≠ "")
    {query form : Request} (hq : query.Queries demand) (hf : form.Submits demand) :
    (∃ parsed, Scope.parseAll demand.scopes = .ok parsed ∧
      (server.handle occasion query).IsCall server occasion .docker
        (demand.tokenRequest parsed) ∧
      (server.handle occasion form).IsCall server occasion .oauth2
        (demand.tokenRequest parsed)) ∨
    ∃ message, Scope.parseAll demand.scopes = .error (.invalidRequest message) ∧
      server.handle occasion query = (Exchange.ofResponse
        (failureResponse .docker server.realm (.invalidRequest message))).opened ∧
      server.handle occasion form = (Exchange.ofResponse
        (failureResponse .oauth2 server.realm (.invalidRequest message))).opened := by
  have hquery := handle_queries server occasion hu hc hq
  have hform := handle_submits server occasion hu hs hf
  cases hp : Scope.parseAll demand.scopes with
  | ok parsed =>
    rw [hp] at hquery hform
    rw [hquery, hform]
    exact .inl ⟨parsed, rfl, server.issue_isCall _ _ _, server.issue_isCall _ _ _⟩
  | error e =>
    obtain ⟨word, -, rfl⟩ := Scope.parseWords_eq_error hp
    rw [hp] at hquery hform
    exact .inr ⟨_, rfl, hquery, hform⟩

/-- The scopes of one value and those of two are merged alike, and the empty service is none. Both
clients are told what the service says of the request. -/
theorem spread_scopes_make_same_request :
    ∃ (server : Server) (occasion : Occasion) (query form : Request),
      query.target = "/token?scope=a:b:c%20x:y:&scope=&scope=a:b:d&service=&offline_token=true" ∧
      form.body = Bytes.ofText
        "grant_type=password&username=%C3%A9&password=:&service=&scope=a:b:c+x:y:++a:b:d" ∧
      (server.handle occasion query).admitted = some ⟨some (.password "é" ":"), none,
        [⟨"a", "b", ["c", "d"]⟩, ⟨"x", "y", []⟩], true⟩ ∧
      (server.handle occasion form).admitted = (server.handle occasion query).admitted ∧
      (server.handle occasion query).response = (errorResponse 400 "invalid_request"
        (some "a:b:c,d x:y:")).withHeaders openHeaders ∧
      (server.handle occasion form).response = (server.handle occasion query).response := by
  -- The service refuses every request by naming its scopes.
  let server : Server := ⟨⟨fun _ _ request =>
    ⟨.error (.invalidRequest (Scope.renderAll request.scopes)), [], []⟩⟩, "r", false⟩
  let occasion : Occasion := ⟨Instant.ofSeconds 0, "a", "r"⟩
  let demand : Demand := ⟨"é", ":", some "", ["a:b:c x:y:", "", "a:b:d"]⟩
  let query : Request := ⟨"GET",
    "/token?scope=a:b:c%20x:y:&scope=&scope=a:b:d&service=&offline_token=true",
    [("authorization", basicHeader "é" ":")], []⟩
  let form : Request := .ofForm
    "grant_type=password&username=%C3%A9&password=:&service=&scope=a:b:c+x:y:++a:b:d"
  have hq : Form.pairs query.query = [("scope", "a:b:c x:y:"), ("scope", ""), ("scope", "a:b:d"),
    ("service", ""), ("offline_token", "true")] := by decide +kernel
  have hf : Form.pairs form.body = [("grant_type", "password"), ("username", "é"),
    ("password", ":"), ("service", ""), ("scope", "a:b:c x:y:  a:b:d")] := by decide +kernel
  have hscopes : Scope.parseAll demand.scopes =
    .ok [⟨"a", "b", ["c", "d"]⟩, ⟨"x", "y", []⟩] := by decide +kernel
  have hqueries : query.Queries demand :=
    ⟨by decide, rfl, rfl, by rw [hq]; decide, by rw [hq]; decide, by rw [hq]; decide⟩
  have hsubmits : form.Submits demand :=
    ⟨by decide, rfl, by decide +kernel, by decide +kernel, by rw [hf]; decide, by rw [hf]; decide,
      by rw [hf]; decide, by rw [hf]; decide, by rw [hf]; decide, by rw [hf]; decide,
      by rw [hf]; decide⟩
  rcases flows_make_same_request server occasion demand (by decide) (by decide) (by decide)
    hqueries hsubmits with ⟨parsed, hp, hq, hf⟩ | ⟨message, hp, -⟩
  · cases hscopes.symm.trans hp
    have hr : Scope.renderAll [⟨"a", "b", ["c", "d"]⟩, ⟨"x", "y", []⟩] = "a:b:c,d x:y:" := by
      decide +kernel
    have hresponse : (server.handle occasion query).response =
        (errorResponse 400 "invalid_request" (some "a:b:c,d x:y:")).withHeaders openHeaders := by
      rw [← hr]
      exact hq.response_eq
    refine ⟨server, occasion, query, form, rfl, rfl, hq.admitted_eq,
      hf.admitted_eq.trans hq.admitted_eq.symm, hresponse, ?_⟩
    exact hf.response_eq.trans hq.response_eq.symm
  · cases hscopes.symm.trans hp

end Server

end RegistryAuth.Http
