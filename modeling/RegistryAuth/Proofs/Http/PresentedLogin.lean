import RegistryAuth.Proofs.Http.BasicAuth
import RegistryAuth.Proofs.Http.Query

/-! # What becomes of a presented login

A query whose header has the basic scheme is made with a password or rejected as
malformed, as long as the header is plain ASCII. A header with any other byte is
passed over, and the query is served as if it had none.
-/

namespace RegistryAuth.Http

variable {header value start rest : Bytes} {encoded text : List Char} {login : String}
  {e : AuthError} {server : Server} {occasion : Occasion} {request : Request}

/-- The header value begins with the basic scheme. -/
def HasBasicScheme (header : Bytes) : Prop :=
  ∃ scheme ∈ ["Basic ", "basic "], Bytes.ofText scheme <+: header

/-- A byte that a header value can have. -/
def MayStandInHeader (b : UInt8) : Prop :=
  0x20 ≤ b.toNat ∧ b.toNat ≠ 0x7f ∨ b.toNat = 9

instance (b : UInt8) : Decidable (MayStandInHeader b) :=
  inferInstanceAs (Decidable (0x20 ≤ b.toNat ∧ b.toNat ≠ 0x7f ∨ b.toNat = 9))

theorem isVisible_iff_of_mayStandInHeader {b : UInt8} (h : MayStandInHeader b) :
    IsVisible b.toNat ↔ b < 128 := by
  unfold MayStandInHeader at h
  have hb : b < 128 ↔ b.toNat < 128 := UInt8.lt_iff_toNat_lt
  rw [hb, IsVisible]
  omega

theorem splitLogin_eq_error (h : splitLogin login = .error e) :
    ∃ message, e = .invalidRequest message := by
  unfold splitLogin at h
  split at h
  next =>
    cases h
    exact ⟨_, rfl⟩
  next =>
    split at h <;> cases h
    exact ⟨_, rfl⟩

theorem decodeLogin_eq_error (h : decodeLogin encoded = .error e) :
    ∃ message, e = .invalidRequest message := by
  unfold decodeLogin at h
  split at h
  next =>
    cases h
    exact ⟨_, rfl⟩
  next => exact splitLogin_eq_error h

/-- Visible bytes are read one by one. -/
theorem visibleText?_append (hv : visibleText? (start ++ rest) = some text) :
    ∃ before after, visibleText? start = some before ∧ visibleText? rest = some after ∧
      text = before ++ after := by
  have hall := isVisible_of_visibleText? hv
  obtain ⟨hs, hr⟩ := List.forall_mem_append.mp hall
  rw [visibleText?_of_isVisible hall] at hv
  cases hv
  exact ⟨_, _, visibleText?_of_isVisible hs, visibleText?_of_isVisible hr, List.map_append⟩

theorem HasBasicScheme.exists_basicScheme? (hs : HasBasicScheme header)
    (hv : visibleText? header = some text) : ∃ encoded, basicScheme? text = some encoded := by
  obtain ⟨scheme, hm, rest, rfl⟩ := hs
  obtain ⟨before, after, hb, -, rfl⟩ := visibleText?_append hv
  have hscheme : visibleText? (Bytes.ofText scheme) = some scheme.toList :=
    visibleText?_eq_some_iff.mpr ⟨isVisible_of_mem_scheme hm, by rw [String.ofList_toList]⟩
  cases hscheme.symm.trans hb
  exact ⟨after, basicScheme?_eq_some_iff.mpr ⟨scheme, hm, rfl⟩⟩

/-- A visible header of the scheme is read as a login, or is malformed. -/
theorem HasBasicScheme.basicLogin_cases (hs : HasBasicScheme header)
    (hv : ∀ b ∈ header, IsVisible b.toNat) :
    (∃ username secret, basicLogin (some header) = .ok (some (username, secret))) ∨
      ∃ message, basicLogin (some header) = .error (.invalidRequest message) := by
  have ht := visibleText?_of_isVisible hv
  obtain ⟨encoded, he⟩ := hs.exists_basicScheme? ht
  have hl : basicLogin (some header) = (decodeLogin encoded).map some := by
    simp only [basicLogin, Option.bind_some, ht, he]
  rw [hl]
  cases hd : decodeLogin encoded with
  | ok login => exact .inl ⟨login.1, login.2, rfl⟩
  | error e =>
    obtain ⟨message, rfl⟩ := decodeLogin_eq_error hd
    exact .inr ⟨message, rfl⟩

theorem basicLogin_of_not_isVisible (h : ∃ b ∈ header, ¬ IsVisible b.toNat) :
    basicLogin (some header) = .ok none := by
  simp [basicLogin, visibleText?_eq_none_iff.mpr h]

/-- The service is called with a name and a password. -/
def Exchange.UsesPassword (exchange : Exchange) : Prop :=
  ∃ admitted username secret, exchange.admitted = some admitted ∧
    admitted.credential = some (.password username secret)

/-- The service is not called, and the message is told to be malformed. -/
def Exchange.RejectsAsInvalid (exchange : Exchange) : Prop :=
  exchange.admitted = none ∧ exchange.response.status = 400 ∧
    ∃ message, exchange.response.body = .json (.object
      [("error", .string "invalid_request"), ("error_description", .string message)])

theorem Exchange.rejectsAsInvalid_ofResponse (realm message : String) :
    (ofResponse (failureResponse .docker realm (.invalidRequest message))).opened.RejectsAsInvalid :=
  ⟨rfl, rfl, message, rfl⟩

/-- The message without its headers of a name. -/
def Request.without (request : Request) (name : String) : Request :=
  { request with headers := request.headers.filter fun header => header.1 != name }

theorem Request.header?_without (request : Request) (name : String) :
    (request.without name).header? name = none := by
  rw [header?, List.lookup_eq_none_iff]
  rintro ⟨key, value⟩ hm
  have hk : key ≠ name := bne_iff_ne.mp (List.mem_filter.mp hm).2
  exact bne_iff_ne.mpr hk.symm

namespace Server

section Query

variable {given : Option (String × String)} (server : Server) (occasion : Occasion)
  (hl : basicLogin (request.header? "authorization") = .ok given)

include hl

theorem exists_admitted_getToken {scopes : List Scope}
    (hs : Scope.parseAll (Form.values (Form.pairs request.query) "scope") = .ok scopes) :
    ∃ admitted, (server.getToken occasion request).admitted = some admitted ∧
      admitted.credential = loginCredential given := by
  have ht : (QueryParameters.ofPairs (Form.pairs request.query)).tokenRequest
      (request.header? "authorization") = .ok _ :=
    QueryParameters.tokenRequest_eq_ok_iff.mpr
      ⟨given, scopes, hl, by rwa [QueryParameters.ofPairs_eq], rfl⟩
  exact ⟨_, admitted_getToken_iff.mpr ht, rfl⟩

theorem rejectsAsInvalid_getToken
    (hs : Scope.parseAll (Form.values (Form.pairs request.query) "scope") = .error e) :
    (server.getToken occasion request).opened.RejectsAsInvalid := by
  obtain ⟨word, -, rfl⟩ := Scope.parseWords_eq_error hs
  rw [getToken_of_error occasion (QueryParameters.tokenRequest_eq_error_iff.mpr
    (.inr ⟨⟨given, hl⟩, by rwa [QueryParameters.ofPairs_eq]⟩))]
  exact Exchange.rejectsAsInvalid_ofResponse _ _

end Query

theorem getToken_of_visible (occasion : Occasion)
    (hh : request.header? "authorization" = some header) (hs : HasBasicScheme header)
    (hv : ∀ b ∈ header, IsVisible b.toNat) :
    (server.getToken occasion request).opened.UsesPassword ∨
      (server.getToken occasion request).opened.RejectsAsInvalid := by
  rcases hs.basicLogin_cases hv with ⟨username, secret, hl⟩ | ⟨message, hl⟩ <;> rw [← hh] at hl
  · cases hp : Scope.parseAll (Form.values (Form.pairs request.query) "scope") with
    | ok scopes =>
      obtain ⟨admitted, ha, hc⟩ := exists_admitted_getToken server occasion hl hp
      exact .inl ⟨admitted, username, secret, ha, hc⟩
    | error e => exact .inr (rejectsAsInvalid_getToken server occasion hl hp)
  · rw [getToken_of_error occasion (QueryParameters.tokenRequest_eq_error_iff.mpr (.inl hl))]
    exact .inr (Exchange.rejectsAsInvalid_ofResponse _ _)

/-- A query without a login is made for nobody in particular. -/
theorem getToken_of_no_login (occasion : Occasion)
    (hl : basicLogin (request.header? "authorization") = .ok none) :
    (server.getToken occasion request).opened.UsesPassword ∨
        (server.getToken occasion request).opened.RejectsAsInvalid ↔
      ∃ e, Scope.parseAll (Form.values (Form.pairs request.query) "scope") = .error e := by
  cases hp : Scope.parseAll (Form.values (Form.pairs request.query) "scope") with
  | error e => exact iff_of_true (.inr (rejectsAsInvalid_getToken server occasion hl hp)) ⟨e, rfl⟩
  | ok scopes =>
    obtain ⟨admitted, ha, hc⟩ := exists_admitted_getToken server occasion hl hp
    refine iff_of_false ?_ nofun
    rintro (⟨other, username, secret, ho, hs⟩ | ⟨hn, -⟩)
    · cases ha.symm.trans ho
      cases hc.symm.trans hs
    · cases ha.symm.trans hn

/-- A query with a header of the basic scheme is made with a password or rejected as malformed just
if the header is plain ASCII or a scope is malformed. Any other such header is passed over: the
query is served as if it had none. -/
theorem basic_header_taken_up_iff (server : Server) (occasion : Occasion) {request : Request}
    {header : Bytes} (hr : request.IsQuery) (hh : request.header? "authorization" = some header)
    (hs : HasBasicScheme header) (hv : ∀ b ∈ header, MayStandInHeader b) :
    ((server.handle occasion request).UsesPassword ∨
        (server.handle occasion request).RejectsAsInvalid ↔
      (∀ b ∈ header, b < 128) ∨
        ∃ e, Scope.parseAll (Form.values (Form.pairs request.query) "scope") = .error e) ∧
    ((∃ b ∈ header, 128 ≤ b) →
      server.handle occasion request = server.handle occasion (request.without "authorization") ∧
      ∀ admitted, (server.handle occasion request).admitted = some admitted →
        admitted.credential = none) := by
  have hvis : ∀ b ∈ header, IsVisible b.toNat ↔ b < 128 := fun b hb =>
    isVisible_iff_of_mayStandInHeader (hv b hb)
  have hnone : (∃ b ∈ header, 128 ≤ b) →
      basicLogin (request.header? "authorization") = .ok none := by
    rintro ⟨b, hb, h⟩
    rw [hh]
    exact basicLogin_of_not_isVisible ⟨b, hb, mt (hvis b hb).mp (UInt8.not_lt.mpr h)⟩
  rw [handle_get hr.path_eq hr.method_eq]
  refine ⟨?taken, fun ho => ⟨?passed, ?nobody⟩⟩
  case taken =>
    by_cases ha : ∀ b ∈ header, b < 128
    · exact iff_of_true (getToken_of_visible occasion hh hs fun b hb => (hvis b hb).mpr (ha b hb))
        (.inl ha)
    · rw [or_iff_right ha]
      simp only [not_forall, UInt8.not_lt, exists_prop] at ha
      exact getToken_of_no_login occasion (hnone ha)
  case passed =>
    -- The two messages differ in their headers only, and a query is read from no other header.
    have hw : basicLogin ((request.without "authorization").header? "authorization") =
        .ok none := by
      rw [Request.header?_without]
      rfl
    have hq : (request.without "authorization").IsQuery := ⟨hr.path_eq, hr.method_eq⟩
    rw [handle_get hq.path_eq hq.method_eq, getToken, getToken,
      QueryParameters.tokenRequest_congr _ ((hnone ho).trans hw.symm)]
    rfl
  case nobody =>
    intro admitted h
    obtain ⟨given, hg, hc⟩ := credential_of_admitted_getToken h
    rw [hnone ho] at hg
    cases hg
    exact hc

/-- A login without its padding is rejected, but not if a byte beyond ASCII stands behind it. -/
theorem unpadded_login_rejected_if_ascii :
    ∃ (server : Server) (occasion : Occasion) (request other : Request),
      request.header? "authorization" = some (Bytes.ofText "basic " ++ Bytes.ofText "YTo") ∧
      other.header? "authorization" =
        some (Bytes.ofText "basic " ++ (Bytes.ofText "YTo" ++ [0xe9])) ∧
      (server.handle occasion request).RejectsAsInvalid ∧
      server.handle occasion other = server.handle occasion (other.without "authorization") := by
  let server : Server := ⟨⟨fun _ _ _ => ⟨.error .cancelled, [], []⟩⟩, "r", false⟩
  let occasion : Occasion := ⟨Instant.ofSeconds 0, "a", "r"⟩
  let header : Bytes := Bytes.ofText "basic " ++ Bytes.ofText "YTo"
  let latin : Bytes := Bytes.ofText "basic " ++ (Bytes.ofText "YTo" ++ [0xe9])
  let request : Request := ⟨"GET", "/token", [("authorization", header)], []⟩
  let other : Request := ⟨"GET", "/token", [("authorization", latin)], []⟩
  have hs : "basic " ∈ ["Basic ", "basic "] := by decide
  have hlogin : basicLogin (some header) = .error .malformedBasicHeader := by decide +kernel
  have hr : request.IsQuery := ⟨by decide, rfl⟩
  have ho : other.IsQuery := ⟨by decide, rfl⟩
  obtain ⟨htaken, -⟩ := basic_header_taken_up_iff server occasion hr rfl
    ⟨"basic ", hs, List.prefix_append _ _⟩ (by decide +kernel)
  obtain ⟨-, hpassed⟩ := basic_header_taken_up_iff server occasion ho rfl
    ⟨"basic ", hs, List.prefix_append _ _⟩ (by decide +kernel)
  refine ⟨server, occasion, request, other, rfl, rfl, ?_, (hpassed (by decide +kernel)).1⟩
  refine (htaken.mpr (.inl (by decide +kernel))).resolve_left ?_
  rintro ⟨admitted, _, _, ha, -⟩
  rw [handle_get hr.path_eq hr.method_eq] at ha
  obtain ⟨_, hl, -⟩ := credential_of_admitted_getToken ha
  cases hlogin.symm.trans hl

/-- A login with a byte behind it that is no text is neither read nor rejected. -/
theorem latin_login_served_to_anonymous :
    ∃ (server : Server) (occasion : Occasion) (request : Request) (header : Bytes),
      header = Bytes.ofText "Basic " ++ (Bytes.ofText "YTpi" ++ [0xe9]) ∧
      request = ⟨"GET", "/token", [("authorization", header)], []⟩ ∧
      HasBasicScheme header ∧ (∀ b ∈ header, MayStandInHeader b) ∧
      (server.handle occasion request).admitted = some ⟨none, none, [], false⟩ ∧
      ¬ (server.handle occasion request).UsesPassword ∧
      ¬ (server.handle occasion request).RejectsAsInvalid := by
  let server : Server := ⟨⟨fun _ _ _ => ⟨.error .cancelled, [], []⟩⟩, "r", false⟩
  let occasion : Occasion := ⟨Instant.ofSeconds 0, "a", "r"⟩
  let header : Bytes := Bytes.ofText "Basic " ++ (Bytes.ofText "YTpi" ++ [0xe9])
  let request : Request := ⟨"GET", "/token", [("authorization", header)], []⟩
  have hl : basicLogin (some header) = .ok none := by decide +kernel
  have ha : (server.handle occasion request).admitted = some ⟨none, none, [], false⟩ := by
    rw [handle_get (by decide) rfl]
    exact admitted_getToken_iff.mpr
      (QueryParameters.tokenRequest_eq_ok_iff.mpr ⟨none, [], hl, by decide +kernel, by decide⟩)
  refine ⟨server, occasion, request, header, rfl, rfl,
    ⟨"Basic ", List.mem_cons_self, List.prefix_append _ _⟩, by decide +kernel, ha, ?_, ?_⟩
  · rintro ⟨admitted, _, _, h, hc⟩
    cases ha.symm.trans h
    cases hc
  · rintro ⟨hn, -⟩
    cases ha.symm.trans hn

end Server

end RegistryAuth.Http
