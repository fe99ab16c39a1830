import RegistryAuth.Http.TokenEndpoint
import RegistryAuth.Proofs.Except
import RegistryAuth.Proofs.Scope.Merging

/-! # What a form asks for

A form names one of two grants and is admitted with the credential of just that
grant: a name and a password without a refresh token, or a refresh token without
a login beside it. Every other form is malformed, or names a grant that nobody
offers.
-/

namespace RegistryAuth

theorem Credential.ofParts_eq_error {login : Option (String × String)} {token : Option String}
    {e : AuthError} (h : ofParts login token = .error e) :
    ∃ message, e = .invalidRequest message := by
  cases login <;> cases token <;> cases h <;> exact ⟨_, rfl⟩

namespace Http

variable {value : Option String} {text : String}

theorem bind_nonEmpty?_eq_some_iff :
    value.bind nonEmpty? = some text ↔ value = some text ∧ text ≠ "" := by
  cases value with
  | none => simp
  | some given => by_cases hg : given = "" <;> grind [nonEmpty?, String.isEmpty_iff]

theorem bind_nonEmpty?_eq_none_iff : value.bind nonEmpty? = none ↔ value.getD "" = "" := by
  cases value <;> simp [nonEmpty?]

theorem bind_nonEmpty? (value : Option String) : value.bind nonEmpty? = value.filter (· ≠ "") := by
  ext text
  simp [bind_nonEmpty?_eq_some_iff]

namespace TokenForm

/-- The credential of the grant that a form names, and whether a refresh token is wanted for it. -/
inductive Grants (form : TokenForm) (rotate : Bool) : Credential → Bool → Prop where
  | password {username secret : String} : form.grantType = some "password" →
      form.username = some username → username ≠ "" → form.password = some secret →
      secret ≠ "" → form.refreshToken.getD "" = "" →
      Grants form rotate (.password username secret) true
  | refreshToken {token : String} : form.grantType = some "refresh_token" →
      form.refreshToken = some token → token ≠ "" →
      form.username.getD "" = "" ∨ form.password = none →
      Grants form rotate (.refreshToken token) rotate

structure Admits (form : TokenForm) (rotate : Bool) (admitted : TokenRequest) : Prop where
  credential : ∃ credential, admitted.credential = some credential ∧
    form.Grants rotate credential admitted.issueRefreshToken
  service : admitted.service = form.service.filter (· ≠ "")
  scopes : Scope.parseAll form.scope.toList = .ok admitted.scopes

variable {form : TokenForm} {credential : Credential} {rotate wanted : Bool}
  {admitted : TokenRequest} {read : Except AuthError Credential} {name : String}

theorem require_eq_ok_iff : require value name = .ok text ↔ value = some text ∧ text ≠ "" := by
  rw [← bind_nonEmpty?_eq_some_iff]
  cases h : value.bind nonEmpty? <;> simp [require, h]

theorem passwordCredential_eq_ok_iff :
    form.passwordCredential = .ok credential ↔
      ∃ username secret, (form.username = some username ∧ username ≠ "") ∧
        (form.password = some secret ∧ secret ≠ "") ∧ form.refreshToken.getD "" = "" ∧
        credential = .password username secret := by
  have hp : ∀ login token, Credential.ofParts (some login) token = .ok credential ↔
      token = none ∧ credential = .password login.1 login.2 := by
    intro login token
    cases token <;> simp [Credential.ofParts, eq_comm]
  simp only [passwordCredential, Except.bind_eq_ok_iff, require_eq_ok_iff, hp,
    bind_nonEmpty?_eq_none_iff]
  grind

theorem refreshCredential_eq_ok_iff :
    form.refreshCredential = .ok credential ↔
      ∃ token, (form.refreshToken = some token ∧ token ≠ "") ∧
        (form.username.getD "" = "" ∨ form.password = none) ∧
        credential = .refreshToken token := by
  have hp : ∀ login token, Credential.ofParts login (some token) = .ok credential ↔
      login = none ∧ credential = .refreshToken token := by
    intro login token
    cases login <;> simp [Credential.ofParts, eq_comm]
  simp only [refreshCredential, Except.bind_eq_ok_iff, require_eq_ok_iff, hp,
    ← bind_nonEmpty?_eq_none_iff]
  cases form.username.bind nonEmpty? <;> cases form.password <;> simp

theorem requestWith_eq_ok_iff :
    form.requestWith read wanted = .ok admitted ↔
      ∃ credential, read = .ok credential ∧ admitted.credential = some credential ∧
        admitted.service = form.service.filter (· ≠ "") ∧
        Scope.parseAll form.scope.toList = .ok admitted.scopes ∧
        admitted.issueRefreshToken = wanted := by
  simp only [requestWith, Except.mapError_eq_ok_iff, Except.bind_eq_ok_iff, Except.pure_eq_ok_iff,
    bind_nonEmpty?]
  constructor
  · rintro ⟨credential, hc, scopes, hs, rfl⟩
    exact ⟨credential, hc, rfl, rfl, hs, rfl⟩
  · rintro ⟨credential, hc, ha, hv, hs, hw⟩
    refine ⟨credential, hc, _, hs, ?_⟩
    rw [← ha, ← hv, ← hw]

/-- A form is admitted with the credential of the grant that it names, and with no other. -/
theorem tokenRequest_eq_ok_iff :
    form.tokenRequest rotate = .ok admitted ↔ form.Admits rotate admitted := by
  -- A missing grant type counts as the empty one, which names no grant.
  have hg : ∀ {type}, type ≠ "" → (form.grantType.getD "" = type ↔ form.grantType = some type) := by
    intro type hn
    cases form.grantType <;> simp [hn.symm]
  constructor
  · intro h
    unfold tokenRequest at h
    split at h
    next ht =>
      obtain ⟨credential, hc, ha, hv, hs, hw⟩ := requestWith_eq_ok_iff.mp h
      obtain ⟨username, secret, ⟨hu, hun⟩, ⟨hp, hpn⟩, hr, rfl⟩ :=
        passwordCredential_eq_ok_iff.mp hc
      exact ⟨⟨_, ha, hw ▸ .password ((hg (by decide)).mp ht) hu hun hp hpn hr⟩, hv, hs⟩
    next ht =>
      obtain ⟨credential, hc, ha, hv, hs, hw⟩ := requestWith_eq_ok_iff.mp h
      obtain ⟨token, ⟨hr, hrn⟩, hl, rfl⟩ := refreshCredential_eq_ok_iff.mp hc
      exact ⟨⟨_, ha, hw ▸ .refreshToken ((hg (by decide)).mp ht) hr hrn hl⟩, hv, hs⟩
    all_goals cases h
  · rintro ⟨⟨credential, ha, hc⟩, hv, hs⟩
    generalize hw : admitted.issueRefreshToken = wanted at hc
    cases hc with
    | password ht hu hun hp hpn hr =>
      rw [tokenRequest, ht]
      exact requestWith_eq_ok_iff.mpr ⟨_, passwordCredential_eq_ok_iff.mpr
        ⟨_, _, ⟨hu, hun⟩, ⟨hp, hpn⟩, hr, rfl⟩, ha, hv, hs, hw⟩
    | refreshToken ht hr hrn hl =>
      rw [tokenRequest, ht]
      exact requestWith_eq_ok_iff.mpr ⟨_, refreshCredential_eq_ok_iff.mpr
        ⟨_, ⟨hr, hrn⟩, hl, rfl⟩, ha, hv, hs, hw⟩

/-- A form with the credential of its grant fails only by its scopes. -/
theorem tokenRequest_of_grants {e : AuthError} (hg : form.Grants rotate credential wanted)
    (hs : Scope.parseAll form.scope.toList = .error e) :
    form.tokenRequest rotate = .error (.invalid e) := by
  cases hg with
  | password ht hu hun hp hpn hr =>
    have hc := passwordCredential_eq_ok_iff.mpr ⟨_, _, ⟨hu, hun⟩, ⟨hp, hpn⟩, hr, rfl⟩
    rw [tokenRequest, ht]
    simp only [Option.getD_some, requestWith, hc, hs]
    rfl
  | refreshToken ht hr hrn hl =>
    have hc := refreshCredential_eq_ok_iff.mpr ⟨_, ⟨hr, hrn⟩, hl, rfl⟩
    rw [tokenRequest, ht]
    simp only [Option.getD_some, requestWith, hc, hs]
    rfl

/-- Whether a form is admitted depends on which of its fields are filled. -/
theorem exists_admits_iff (rotate : Bool) :
    (∃ admitted, form.Admits rotate admitted) ↔
      (∃ scopes, Scope.parseAll form.scope.toList = .ok scopes) ∧
        (form.grantType = some "password" ∧ form.username.getD "" ≠ "" ∧
            form.password.getD "" ≠ "" ∧ form.refreshToken.getD "" = "" ∨
          form.grantType = some "refresh_token" ∧ form.refreshToken.getD "" ≠ "" ∧
            ¬ (form.username.getD "" ≠ "" ∧ form.password.isSome = true)) := by
  have hf : ∀ {value : Option String},
      value.getD "" ≠ "" ↔ ∃ text, value = some text ∧ text ≠ "" := by
    intro value
    cases value <;> simp
  constructor
  · rintro ⟨⟨_, _, scopes, wanted⟩, ⟨credential, -, hc⟩, -, hs⟩
    refine ⟨⟨_, hs⟩, ?_⟩
    cases hc with
    | password ht hu hun hp hpn hr =>
      exact .inl ⟨ht, hf.mpr ⟨_, hu, hun⟩, hf.mpr ⟨_, hp, hpn⟩, hr⟩
    | refreshToken ht hr hrn hl =>
      refine .inr ⟨ht, hf.mpr ⟨_, hr, hrn⟩, ?_⟩
      rintro ⟨hu, hp⟩
      rcases hl with hl | hl
      · exact hu hl
      · simp [hl] at hp
  · rintro ⟨⟨scopes, hs⟩, ⟨ht, hu, hp, hr⟩ | ⟨ht, hr, hl⟩⟩
    · obtain ⟨username, hu, hun⟩ := hf.mp hu
      obtain ⟨secret, hp, hpn⟩ := hf.mp hp
      exact ⟨⟨some (.password username secret), _, scopes, true⟩,
        ⟨_, rfl, .password ht hu hun hp hpn hr⟩, rfl, hs⟩
    · obtain ⟨token, hr, hrn⟩ := hf.mp hr
      refine ⟨⟨some (.refreshToken token), _, scopes, rotate⟩,
        ⟨_, rfl, .refreshToken ht hr hrn ?_⟩, rfl, hs⟩
      by_cases hu : form.username.getD "" = ""
      · exact .inl hu
      · exact .inr (Option.not_isSome_iff_eq_none.mp fun hp => hl ⟨hu, hp⟩)

section Rejection

variable {e : AuthError}

theorem require_eq_error (h : require value name = .error e) : e = .missingParameter name := by
  unfold require at h
  split at h <;> cases h
  rfl

theorem passwordCredential_eq_error (h : form.passwordCredential = .error e) :
    ∃ message, e = .invalidRequest message := by
  rcases Except.bind_eq_error_iff.mp h with hu | ⟨username, -, h⟩
  · exact ⟨_, require_eq_error hu⟩
  · rcases Except.bind_eq_error_iff.mp h with hp | ⟨secret, -, h⟩
    · exact ⟨_, require_eq_error hp⟩
    · exact Credential.ofParts_eq_error h

theorem refreshCredential_eq_error (h : form.refreshCredential = .error e) :
    ∃ message, e = .invalidRequest message := by
  rcases Except.bind_eq_error_iff.mp h with hr | ⟨token, -, h⟩
  · exact ⟨_, require_eq_error hr⟩
  · exact Credential.ofParts_eq_error h

theorem requestWith_eq_error {rejection : FormRejection}
    (hr : ∀ e, read = .error e → ∃ message, e = .invalidRequest message)
    (h : form.requestWith read wanted = .error rejection) :
    ∃ message, rejection = .invalid (.invalidRequest message) := by
  obtain ⟨e, he, rfl⟩ := Except.mapError_eq_error_iff.mp h
  rcases Except.bind_eq_error_iff.mp he with hc | ⟨credential, -, he⟩
  · obtain ⟨message, rfl⟩ := hr e hc
    exact ⟨message, rfl⟩
  · rcases Except.bind_eq_error_iff.mp he with hs | ⟨scopes, -, he⟩
    · obtain ⟨word, -, rfl⟩ := Scope.parseWords_eq_error hs
      exact ⟨_, rfl⟩
    · cases he

/-- What is wrong with a rejected form is the client's fault. -/
theorem tokenRequest_eq_error {rejection : FormRejection}
    (h : form.tokenRequest rotate = .error rejection) :
    (∃ message, rejection = .invalid (.invalidRequest message)) ∨
      ∃ type, rejection = .unsupportedGrant type := by
  unfold tokenRequest at h
  split at h
  next => exact .inl (requestWith_eq_error (fun _ => passwordCredential_eq_error) h)
  next => exact .inl (requestWith_eq_error (fun _ => refreshCredential_eq_error) h)
  next =>
    cases h
    exact .inl ⟨_, rfl⟩
  next =>
    cases h
    exact .inr ⟨_, rfl⟩

end Rejection

end TokenForm

end Http

end RegistryAuth
