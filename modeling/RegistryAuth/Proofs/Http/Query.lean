import Mathlib
import RegistryAuth.Proofs.Http.BasicAuth
import RegistryAuth.Proofs.Http.Parameters
import RegistryAuth.Proofs.Http.TokenEndpoint

/-! # What a query is heard for

A query says what is asked for by its scopes, its last service and its last wish
for a refresh token. Who asks is said by the authorization header alone. Nothing
else that stands in a query is heard.
-/

namespace RegistryAuth

namespace Text

variable {c letter : Char} {text word : List Char}

theorem toLower_eq_iff (h : letter.isLower = true) :
    c.toLower = letter ↔ c = letter ∨ c = letter.toUpper := by
  constructor
  · rintro rfl
    by_cases hu : c.isUpper
    · refine .inr ?_
      rw [Char.toUpper_toLower_eq_toUpper,
        Char.toUpper_eq_of_not_isLower (Char.not_isLower_of_isUpper hu)]
    · exact .inl (Char.toLower_eq_of_not_isUpper hu).symm
  · have hl : letter.toLower = letter :=
      Char.toLower_eq_of_not_isUpper (Char.not_isUpper_of_isLower h)
    rintro (rfl | rfl)
    · exact hl
    · rw [Char.toLower_toUpper_eq_toLower, hl]

/-- The text is the word in letters of either case. -/
def Spells (text word : List Char) : Prop :=
  List.Forall₂ (fun c letter => c = letter ∨ c = letter.toUpper) text word

theorem map_toLower_eq_iff (h : word.all Char.isLower = true) :
    text.map Char.toLower = word ↔ Spells text word := by
  rw [← List.forall₂_eq_eq_eq, List.forall₂_map_left_iff, Spells]
  induction word generalizing text with
  | nil => simp
  | cons letter rest ih =>
    rw [List.all_cons, Bool.and_eq_true] at h
    simp only [List.forall₂_cons_right_iff, toLower_eq_iff h.1, ih h.2]

end Text

namespace Http

open Form (values)

variable {admitted : TokenRequest} {request other : Request} {server : Server}
  {occasion : Occasion}

theorem QueryParameters.isTrue_iff {text : String} :
    isTrue text = true ↔ Text.Spells text.toList "true".toList := by
  rw [isTrue, beq_iff_eq, Text.map_toLower_eq_iff (by rfl)]

theorem bind_nonEmpty?_eq_getD (value : Option String) :
    value.bind nonEmpty? = nonEmpty? (value.getD "") := by
  cases value <;> rfl

namespace Request

/-- A message to the query flow of the token endpoint. -/
structure IsQuery (request : Request) : Prop where
  path_eq : request.path = "/token"
  method_eq : request.method = "GET"

/-- The last value of a parameter of the query. -/
def last? (request : Request) (name : String) : Option String :=
  (values (Form.pairs request.query) name).getLast?

def WantsRefreshToken (request : Request) : Prop :=
  ∃ value, request.last? "offline_token" = some value ∧
    Text.Spells value.toList "true".toList

/-- Two queries with the same scopes, the same service, where none is the same as an empty one,
and the same wish for a refresh token. What else they hold, and in which order, may differ. -/
structure AsksLike (request other : Request) : Prop where
  scopes_eq : values (Form.pairs request.query) "scope" = values (Form.pairs other.query) "scope"
  service_eq : (request.last? "service").getD "" = (other.last? "service").getD ""
  wantsRefreshToken_iff : request.WantsRefreshToken ↔ other.WantsRefreshToken

theorem wantsRefreshToken_iff_any :
    request.WantsRefreshToken ↔
      (request.last? "offline_token").any QueryParameters.isTrue = true := by
  simp only [WantsRefreshToken, Option.any_eq_true, QueryParameters.isTrue_iff]

theorem AsksLike.ofPairs_eq (h : request.AsksLike other) :
    QueryParameters.ofPairs (Form.pairs request.query) =
      QueryParameters.ofPairs (Form.pairs other.query) := by
  have hs : (request.last? "service").bind nonEmpty? = (other.last? "service").bind nonEmpty? := by
    rw [bind_nonEmpty?_eq_getD, bind_nonEmpty?_eq_getD, h.service_eq]
  have ho : (request.last? "offline_token").any QueryParameters.isTrue =
      (other.last? "offline_token").any QueryParameters.isTrue := by
    rw [Bool.eq_iff_iff, ← wantsRefreshToken_iff_any, ← wantsRefreshToken_iff_any]
    exact h.wantsRefreshToken_iff
  unfold last? at hs ho
  rw [QueryParameters.ofPairs_eq, QueryParameters.ofPairs_eq, h.scopes_eq, hs, ho]

end Request

namespace Server

theorem admitted_getToken_iff :
    (server.getToken occasion request).admitted = some admitted ↔
      (QueryParameters.ofPairs (Form.pairs request.query)).tokenRequest
        (request.header? "authorization") = .ok admitted := by
  cases ht : (QueryParameters.ofPairs (Form.pairs request.query)).tokenRequest
    (request.header? "authorization") with
  | error e =>
    rw [getToken_of_error occasion ht]
    exact ⟨nofun, nofun⟩
  | ok made =>
    rw [getToken_of_ok occasion ht]
    simp [issue]

theorem credential_of_admitted_getToken
    (h : (server.getToken occasion request).admitted = some admitted) :
    ∃ login, basicLogin (request.header? "authorization") = .ok login ∧
      admitted.credential = loginCredential login := by
  obtain ⟨login, scopes, hl, -, rfl⟩ :=
    QueryParameters.tokenRequest_eq_ok_iff.mp (admitted_getToken_iff.mp h)
  exact ⟨login, hl, rfl⟩

/-- Queries with one authorization header that ask alike are answered alike, whatever else stands
in them. Even queries that ask for different things are never made for two identities. -/
theorem query_heard_by_its_parameters (server : Server) (occasion : Occasion)
    {request other : Request} (hr : request.IsQuery) (ho : other.IsQuery)
    (ha : request.header? "authorization" = other.header? "authorization") :
    (request.AsksLike other → server.handle occasion request = server.handle occasion other) ∧
    ∀ admitted again, (server.handle occasion request).admitted = some admitted →
      (server.handle occasion other).admitted = some again →
      admitted.credential = again.credential := by
  rw [handle_get hr.path_eq hr.method_eq, handle_get ho.path_eq ho.method_eq]
  constructor
  · intro h
    rw [getToken, getToken, h.ofPairs_eq, ha]
  · intro admitted again h h'
    obtain ⟨login, hl, hc⟩ := credential_of_admitted_getToken h
    obtain ⟨login', hl', hc'⟩ := credential_of_admitted_getToken h'
    rw [ha, hl'] at hl
    cases hl
    rw [hc, hc']

/-- Of two queries in different words the same request is made, and a third one, for other things
and under another account, is made by the same user. -/
theorem reworded_query_makes_same_request :
    ∃ (server : Server) (occasion : Occasion) (request other third : Request),
      request.target =
        "/token?service=x&scope=a:b:c&account=root&service=&offline_token=TrUe&scope=" ∧
      other.target = "/token?offline_token=no&client_id=&scope=a%3Ab%3Ac&scope&offline_token=true" ∧
      third.target = "/token?account=mallory&service=y" ∧
      server.handle occasion request = server.handle occasion other ∧
      (server.handle occasion request).admitted =
        some ⟨some (.password "alice" "p"), none, [⟨"a", "b", ["c"]⟩], true⟩ ∧
      ∃ admitted, (server.handle occasion third).admitted = some admitted ∧
        admitted.credential = some (.password "alice" "p") := by
  let server : Server := ⟨⟨fun _ _ _ => ⟨.error .cancelled, [], []⟩⟩, "r", false⟩
  let occasion : Occasion := ⟨Instant.ofSeconds 0, "a", "r"⟩
  let sent (target : String) : Request :=
    ⟨"GET", target, [("authorization", basicHeader "alice" "p")], []⟩
  let request := sent "/token?service=x&scope=a:b:c&account=root&service=&offline_token=TrUe&scope="
  let other := sent "/token?offline_token=no&client_id=&scope=a%3Ab%3Ac&scope&offline_token=true"
  let third := sent "/token?account=mallory&service=y"
  have hrequest : Form.pairs request.query = [("service", "x"), ("scope", "a:b:c"),
    ("account", "root"), ("service", ""), ("offline_token", "TrUe"), ("scope", "")] := by
    decide +kernel
  have hother : Form.pairs other.query = [("offline_token", "no"), ("client_id", ""),
    ("scope", "a:b:c"), ("scope", ""), ("offline_token", "true")] := by decide +kernel
  have hthird : Form.pairs third.query = [("account", "mallory"), ("service", "y")] := by
    decide +kernel
  have admits : ∀ {message : Request} {pairs parameters scopes}, message.IsQuery →
      message.headers = [("authorization", basicHeader "alice" "p")] →
      Form.pairs message.query = pairs → QueryParameters.ofPairs pairs = parameters →
      Scope.parseAll parameters.scopes = .ok scopes →
      (server.handle occasion message).admitted = some ⟨some (.password "alice" "p"),
        parameters.service, scopes, parameters.offlineToken⟩ := by
    rintro ⟨_, _, _, _⟩ _ _ scopes hq rfl rfl rfl hs
    rw [handle_get hq.path_eq hq.method_eq]
    exact admitted_getToken_iff.mpr (QueryParameters.tokenRequest_eq_ok_iff.mpr
      ⟨_, scopes, basicLogin_basicHeader (by decide) (by decide) "p", hs, rfl⟩)
  have hr : request.IsQuery := ⟨by decide, rfl⟩
  have ho : other.IsQuery := ⟨by decide, rfl⟩
  have ht : third.IsQuery := ⟨by decide, rfl⟩
  have halike : request.AsksLike other := by
    refine ⟨?scopes, ?service, ?wish⟩
    case scopes =>
      rw [hrequest, hother]
      decide
    case service =>
      rw [Request.last?, Request.last?, hrequest, hother]
      decide
    case wish =>
      rw [Request.wantsRefreshToken_iff_any, Request.wantsRefreshToken_iff_any, Request.last?,
        Request.last?, hrequest, hother]
      decide
  have hscopes : Scope.parseAll ["a:b:c", ""] = .ok [⟨"a", "b", ["c"]⟩] := by decide +kernel
  have hadmitted := admits hr rfl hrequest rfl hscopes
  have hagain := admits ht rfl hthird rfl rfl
  exact ⟨server, occasion, request, other, third, rfl, rfl, rfl,
    (query_heard_by_its_parameters server occasion hr ho rfl).1 halike, hadmitted, _, hagain,
    ((query_heard_by_its_parameters server occasion hr ht rfl).2 _ _ hadmitted hagain).symm⟩

end Server

end Http

end RegistryAuth
