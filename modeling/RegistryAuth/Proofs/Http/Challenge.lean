import RegistryAuth.Configuration.Components
import RegistryAuth.Proofs.Configuration.Reading
import RegistryAuth.Proofs.Http.Query

/-! # The challenge and its realm

A query whose authentication fails is answered with a challenge that holds the
realm between quotes. The realm stands there as it is. A quote or a backslash in
it, which should have a backslash before it, makes the challenge say another
realm or none, and with a control character in the realm there is no challenge.
-/

namespace RegistryAuth.Http

/-- A character that a quoted string can hold: a tab, or no control character. -/
def IsFieldChar (c : Char) : Prop := 0x20 ≤ c.toNat ∧ c.toNat ≠ 0x7f ∨ c = '\t'

instance (c : Char) : Decidable (IsFieldChar c) :=
  inferInstanceAs (Decidable (0x20 ≤ c.toNat ∧ c.toNat ≠ 0x7f ∨ c = '\t'))

/-- A character that is written in a quoted string without a backslash before it. -/
structure StandsForItself (c : Char) : Prop where
  isFieldChar : IsFieldChar c
  ne_quote : c ≠ '"'
  ne_backslash : c ≠ '\\'

/-- The text between the quotes of a quoted string has the given content. A backslash is no part of
the content, and the character after it is. -/
inductive Quotes : List Char → List Char → Prop where
  | nil : Quotes [] []
  | plain {c : Char} {written content : List Char} : StandsForItself c → Quotes written content →
      Quotes (c :: written) (c :: content)
  | escaped {c : Char} {written content : List Char} : IsFieldChar c → Quotes written content →
      Quotes ('\\' :: c :: written) (c :: content)

/-- A challenge for basic credentials: the parameter of the scheme is the realm in a quoted string,
and nothing follows. -/
def IsChallengeFor (value realm : String) : Prop :=
  ∃ written, value.toList = "Basic realm=\"".toList ++ (written ++ ['"']) ∧
    Quotes written realm.toList

/-- The only challenge of the response is for the realm. -/
def Response.Challenges (response : Response) (realm : String) : Prop :=
  ∃ value, Form.values response.headers "www-authenticate" = [value] ∧ IsChallengeFor value realm

section Quoting

variable {text written content : List Char}

theorem Quotes.length_le (h : Quotes written content) : content.length ≤ written.length := by
  induction h with
  | nil => exact Nat.le_refl 0
  | plain _ _ ih => exact Nat.succ_le_succ ih
  | escaped _ _ ih => exact Nat.le_succ_of_le (Nat.succ_le_succ ih)

/-- Without a backslash to drop, all characters stand for themselves. -/
theorem Quotes.standsForItself (h : Quotes written content)
    (hl : written.length ≤ content.length) : ∀ c ∈ written, StandsForItself c := by
  induction h with
  | nil => exact nofun
  | plain hc _ ih => exact List.forall_mem_cons.mpr ⟨hc, ih (Nat.le_of_succ_le_succ hl)⟩
  | escaped _ h _ =>
    have hle := h.length_le
    simp only [List.length_cons] at hl
    omega

theorem quotes_self_iff : Quotes text text ↔ ∀ c ∈ text, StandsForItself c := by
  refine ⟨fun h => h.standsForItself (Nat.le_refl _), fun h => ?_⟩
  induction text with
  | nil => exact .nil
  | cons c rest ih =>
    obtain ⟨hc, hrest⟩ := List.forall_mem_cons.mp h
    exact .plain hc (ih hrest)

end Quoting

section Realm

variable {realm value : String}

theorem isHeaderValue_challenge :
    isHeaderValue ("Basic realm=\"" ++ realm ++ "\"") = true ↔
      ∀ c ∈ realm.toList, IsFieldChar c := by
  have hb : "Basic realm=\"".toList.all
      (fun c => (32 ≤ c.toNat && c.toNat ≠ 127) || c == '\t') = true := by decide
  simp only [isHeaderValue, String.toList_append, List.all_append, hb, Bool.true_and]
  simp [IsFieldChar]

theorem challenge_of_isFieldChar (h : ∀ c ∈ realm.toList, IsFieldChar c) :
    challenge realm = [("www-authenticate", "Basic realm=\"" ++ realm ++ "\"")] :=
  if_pos (isHeaderValue_challenge.mpr h)

theorem challenge_of_not_isFieldChar (h : ∃ c ∈ realm.toList, ¬ IsFieldChar c) :
    challenge realm = [] := by
  obtain ⟨c, hc, hn⟩ := h
  exact if_neg fun hv => hn (isHeaderValue_challenge.mp hv c hc)

theorem isChallengeFor_self_iff :
    IsChallengeFor ("Basic realm=\"" ++ realm ++ "\"") realm ↔
      ∀ c ∈ realm.toList, StandsForItself c := by
  rw [← quotes_self_iff]
  constructor
  · rintro ⟨written, hw, hq⟩
    rw [String.toList_append, String.toList_append, List.append_assoc,
      List.append_cancel_left_eq] at hw
    rwa [← List.append_cancel_right hw] at hq
  · intro h
    exact ⟨realm.toList, by rw [String.toList_append, String.toList_append, List.append_assoc]; rfl,
      h⟩

end Realm

namespace Server

variable {server : Server} {occasion : Occasion} {request : Request} {e : AuthError}

/-- The service is called for the message and fails with an error. -/
def EndsIn (server : Server) (occasion : Occasion) (request : Request) (e : AuthError) : Prop :=
  ∃ admitted, (server.handle occasion request).admitted = some admitted ∧
    (server.service.issue occasion false admitted).result = .error e

theorem response_of_endsIn (hr : request.IsQuery) (h : server.EndsIn occasion request e) :
    (server.handle occasion request).response =
      (failureResponse .docker server.realm e).withHeaders openHeaders := by
  obtain ⟨admitted, ha, hi⟩ := h
  rw [handle_get hr.path_eq hr.method_eq] at ha ⊢
  rw [getToken_of_ok occasion (admitted_getToken_iff.mp ha)]
  simp only [issue, hi, resultResponse, Exchange.opened]

/-- A challenge is the only header of its name. -/
theorem values_challenge_of_endsIn (hr : request.IsQuery)
    (h : server.EndsIn occasion request .authenticationFailed) :
    Form.values (server.handle occasion request).response.headers "www-authenticate" =
      (challenge server.realm).map Prod.snd := by
  rw [response_of_endsIn hr h]
  change Form.values ([("content-type", "application/json")] ++ challenge server.realm ++
    openHeaders) "www-authenticate" = _
  simp only [challenge]
  split <;> rfl

/-- A query whose authentication fails is challenged for the realm just if no character of the
realm needs a backslash. -/
theorem challenge_carries_realm_iff (server : Server) (occasion : Occasion) {request : Request}
    (hr : request.IsQuery) (h : server.EndsIn occasion request .authenticationFailed) :
    (server.handle occasion request).response.status = 401 ∧
    ((server.handle occasion request).response.Challenges server.realm ↔
      ∀ c ∈ server.realm.toList, StandsForItself c) ∧
    ((∀ c ∈ server.realm.toList, IsFieldChar c) →
      Form.values (server.handle occasion request).response.headers "www-authenticate" =
        ["Basic realm=\"" ++ server.realm ++ "\""]) ∧
    ((∃ c ∈ server.realm.toList, ¬ IsFieldChar c) →
      Form.values (server.handle occasion request).response.headers "www-authenticate" = []) := by
  have hv := values_challenge_of_endsIn hr h
  refine ⟨by rw [response_of_endsIn hr h]; rfl, ?carries, fun hf => ?written, fun hn => ?none⟩
  case carries =>
    by_cases hf : ∀ c ∈ server.realm.toList, IsFieldChar c
    · rw [challenge_of_isFieldChar hf] at hv
      rw [← isChallengeFor_self_iff, Response.Challenges, hv]
      constructor
      · rintro ⟨value, hw, hc⟩
        cases hw
        exact hc
      · exact fun hc => ⟨_, rfl, hc⟩
    · refine iff_of_false ?_ fun hs => hf fun c hc => (hs c hc).isFieldChar
      rintro ⟨value, hw, -⟩
      simp only [not_forall, exists_prop] at hf
      rw [hv, challenge_of_not_isFieldChar hf] at hw
      cases hw
  case written => rw [hv, challenge_of_isFieldChar hf]; rfl
  case none => rw [hv, challenge_of_not_isFieldChar hn]; rfl

/-- A service that lets nobody in. -/
def refusing : TokenService := ⟨fun _ _ _ => ⟨.error .authenticationFailed, [], []⟩⟩

/-- The settings of a server that differ from the defaults in the realm. -/
def settingsFor (realm : String) : ServerSettings :=
  { ServerSettings.defaults with realm := realm }

/-- The query without parameters and credentials. -/
def bareQuery : Request := ⟨"GET", "/token", [], []⟩

theorem validate_settingsFor {realm : String} (h : realm ≠ "") :
    (settingsFor realm).validate = .ok () := by
  have ha : (SocketAddress.parse? ServerSettings.defaults.listenAddress).isSome := by
    decide +kernel
  exact ServerSettings.validate_eq_ok_iff.mpr
    ⟨h, Nat.succ_ne_zero 9, Option.isSome_iff_exists.mp ha⟩

theorem isQuery_bareQuery : bareQuery.IsQuery := ⟨by decide, rfl⟩

theorem endsIn_refusing (settings : ServerSettings) (occasion : Occasion) :
    (ofSettings settings refusing).EndsIn occasion bareQuery .authenticationFailed := by
  refine ⟨⟨none, none, [], false⟩, ?_, rfl⟩
  rw [handle_get isQuery_bareQuery.path_eq isQuery_bareQuery.method_eq]
  exact admitted_getToken_iff.mpr (by decide +kernel)

/-- A realm beyond ASCII is carried. For one with a line break there is no challenge. -/
theorem latin_realm_is_carried :
    ∃ (service : TokenService) (occasion : Occasion) (request : Request), request.IsQuery ∧
      (settingsFor "é\t").validate = .ok () ∧
      ((ofSettings (settingsFor "é\t") service).handle occasion request).response.Challenges
        "é\t" ∧
      (settingsFor "a\nb").validate = .ok () ∧
      Form.values ((ofSettings (settingsFor "a\nb") service).handle occasion
        request).response.headers "www-authenticate" = [] := by
  let occasion : Occasion := ⟨Instant.ofSeconds 0, "a", "r"⟩
  have hs : ∀ c ∈ "é\t".toList, StandsForItself c := by
    intro c hc
    rcases List.mem_pair.mp hc with rfl | rfl <;> exact ⟨by decide, by decide, by decide⟩
  have hb : ∃ c ∈ "a\nb".toList, ¬ IsFieldChar c := ⟨'\n', by decide, by decide⟩
  obtain ⟨-, hcarried, -⟩ := challenge_carries_realm_iff (ofSettings (settingsFor "é\t") refusing)
    occasion isQuery_bareQuery (endsIn_refusing _ occasion)
  obtain ⟨-, -, -, hnone⟩ := challenge_carries_realm_iff (ofSettings (settingsFor "a\nb") refusing)
    occasion isQuery_bareQuery (endsIn_refusing _ occasion)
  exact ⟨refusing, occasion, bareQuery, isQuery_bareQuery, validate_settingsFor (by decide),
    hcarried.mpr hs, validate_settingsFor (by decide), hnone hb⟩

/-- A valid realm with a quote in it is not carried, though it could be. -/
theorem quoted_realm_is_not_carried :
    ∃ (service : TokenService) (occasion : Occasion) (request : Request), request.IsQuery ∧
      (settingsFor "a\"b").validate = .ok () ∧
      (ofSettings (settingsFor "a\"b") service).EndsIn occasion request .authenticationFailed ∧
      Form.values ((ofSettings (settingsFor "a\"b") service).handle occasion
        request).response.headers "www-authenticate" = ["Basic realm=\"a\"b\""] ∧
      ¬ ((ofSettings (settingsFor "a\"b") service).handle occasion request).response.Challenges
        "a\"b" ∧
      IsChallengeFor "Basic realm=\"a\\\"b\"" "a\"b" := by
  let occasion : Occasion := ⟨Instant.ofSeconds 0, "a", "r"⟩
  have he := endsIn_refusing (settingsFor "a\"b") occasion
  have hv := values_challenge_of_endsIn isQuery_bareQuery he
  have hc : (challenge "a\"b").map Prod.snd = ["Basic realm=\"a\"b\""] := by decide +kernel
  have hq : ¬ IsChallengeFor ("Basic realm=\"" ++ "a\"b" ++ "\"") "a\"b" := fun h =>
    (isChallengeFor_self_iff.mp h '"' (by decide)).ne_quote rfl
  have ha : StandsForItself 'a' := ⟨by decide, by decide, by decide⟩
  have hb : StandsForItself 'b' := ⟨by decide, by decide, by decide⟩
  refine ⟨refusing, occasion, bareQuery, isQuery_bareQuery, validate_settingsFor (by decide), he,
    hv.trans hc, ?_, "a\\\"b".toList, by decide, .plain ha (.escaped (by decide) (.plain hb .nil))⟩
  rintro ⟨value, hw, h⟩
  rw [hv.trans hc] at hw
  cases hw
  exact hq h

end Server

end RegistryAuth.Http
