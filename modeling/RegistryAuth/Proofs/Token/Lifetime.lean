import Mathlib.Algebra.Group.Int.Defs
import Mathlib.Algebra.Group.Nat.Defs
import RegistryAuth.Components.Issuers
import RegistryAuth.Proofs.Configuration.Components
import RegistryAuth.Proofs.Token.Access

/-! # Lifetimes

The end of a lifetime is told exactly or not at all. In the years that a clock
knows, every configured lifetime ends at a time that claims can hold, so that a
token is issued whenever it can be signed. An issuer whose lifetime cannot end
signs nothing.
-/

namespace RegistryAuth

/-- The end of the lifetime is no time that a claim can hold. -/
def OutOfRange (issued : Int) (lifetime : Nat) : Prop :=
  maxTime < lifetime ∨ maxTime < issued + lifetime

/-- The years that a clock can show. -/
def Instant.InCalendar (t : Instant) : Prop := -9999 ≤ t.date.year ∧ t.date.year ≤ 9999

/-- The result is that of signing claims that begin when they are issued and end within a year,
and a token says these claims. -/
def SigningKey.SignsWithinYear (key : SigningKey) (issued : Int)
    (result : Except AuthError String) : Prop :=
  ∃ (members : List (String × Json)) (expires : Int),
    result = key.signClaims (.object members) ∧
    (∀ token, result = .ok token → Jwt.payload? token = some (.object members)) ∧
    Json.IsOnly members "iat" (.int issued) ∧ Json.IsOnly members "exp" (.int expires) ∧
    issued < expires ∧ expires ≤ issued + 31536000

section Range

variable {issued : Int} {lifetime : Nat}

theorem not_outOfRange_iff :
    ¬ OutOfRange issued lifetime ↔ (lifetime : Int) ≤ maxTime ∧ issued + lifetime ≤ maxTime := by
  simp only [OutOfRange, not_or, Int.not_lt]

theorem expiresAt_of_outOfRange (h : OutOfRange issued lifetime) :
    expiresAt issued lifetime = .error (.lifetimeOutOfRange lifetime) := by
  refine if_neg fun hn => not_outOfRange_iff.mpr ?_ h
  simpa only [Bool.and_eq_true, decide_eq_true_eq] using hn

theorem expiresAt_of_not_outOfRange (h : ¬ OutOfRange issued lifetime) :
    expiresAt issued lifetime = .ok (issued + lifetime) :=
  expiresAt_eq_ok_iff.mpr ⟨not_outOfRange_iff.mp h, rfl⟩

/-- In range, the sum of 64-bit numbers is that of the integers. -/
theorem toInt_add_toInt64 {issued : Int64} {lifetime : UInt64}
    (h : ¬ OutOfRange issued.toInt lifetime.toNat) :
    (issued + lifetime.toInt64).toInt = issued.toInt + lifetime.toNat := by
  obtain ⟨hl, hs⟩ := not_outOfRange_iff.mp h
  simp only [maxTime] at hl hs
  have hlow := issued.le_toInt
  have hcast : lifetime.toInt64.toInt = lifetime.toNat := by
    change lifetime.toBitVec.toInt = lifetime.toBitVec.toNat
    have hn : lifetime.toBitVec.toNat = lifetime.toNat := rfl
    exact BitVec.toInt_eq_toNat_of_lt (by omega)
  rw [Int64.toInt_add, hcast]
  exact Int.bmod_eq_of_le (by omega) (by omega)

theorem Instant.InCalendar.bounds {t : Instant} (h : t.InCalendar) :
    IsClaimTime t.unixSeconds ∧ t.unixSeconds + 31536000 ≤ maxTime := by
  obtain ⟨hl, hu⟩ := h
  simp only [date, Date.ofDays] at hl hu
  simp only [IsClaimTime, maxTime]
  omega

theorem Instant.InCalendar.not_outOfRange {t : Instant} (h : t.InCalendar)
    (hl : lifetime ≤ 31536000) : ¬ OutOfRange t.unixSeconds lifetime := by
  obtain ⟨-, hy⟩ := h.bounds
  simp only [not_outOfRange_iff, maxTime] at hy ⊢
  omega

theorem lifetimeFault?_eq_none_iff :
    lifetimeFault? lifetime = none ↔ 0 < lifetime ∧ lifetime ≤ 31536000 := by
  simp only [lifetimeFault?, maxLifetime]
  split <;> try split
  all_goals simp; omega

theorem issuerFault?_eq_none_iff {issuer : String} {key : Except KeyLoadError SigningKey} :
    issuerFault? issuer lifetime key = none ↔
      issuer ≠ "" ∧ (0 < lifetime ∧ lifetime ≤ 31536000) ∧ ∃ loaded, key = .ok loaded := by
  rw [← lifetimeFault?_eq_none_iff]
  unfold issuerFault?
  by_cases hi : issuer = ""
  · simp [hi]
  rw [if_neg (mt String.isEmpty_iff.mp hi)]
  cases lifetimeFault? lifetime with
  | some fault => simp
  | none => cases key <;> simp [hi]

end Range

namespace JwtAccessIssuer

variable {issuer : JwtAccessIssuer} {occasion : Occasion}

theorem issue_of_outOfRange (h : OutOfRange occasion.now.unixSeconds issuer.lifetime)
    (subject : Subject) (audience : Option String) (scopes : List Scope) :
    issuer.issue occasion subject audience scopes =
      .error (.lifetimeOutOfRange issuer.lifetime) := by
  rw [issue, expiresAt_of_outOfRange h]
  rfl

theorem map_token_issue (h : ¬ OutOfRange occasion.now.unixSeconds issuer.lifetime)
    (subject : Subject) (audience : Option String) (scopes : List Scope) :
    (issuer.issue occasion subject audience scopes).map (·.token) =
      issuer.key.signClaims (issuer.claimsOn occasion subject.id audience scopes).toJson := by
  rw [issue, expiresAt_of_not_outOfRange h]
  change ((issuer.key.signClaims (issuer.claimsOn occasion subject.id audience scopes).toJson >>=
    fun token => pure ⟨token, issuer.lifetime, occasion.now⟩).map AccessToken.token) = _
  cases issuer.key.signClaims (issuer.claimsOn occasion subject.id audience scopes).toJson <;> rfl

theorem signsWithinYear (hl : 0 < issuer.lifetime ∧ issuer.lifetime ≤ 31536000)
    (hc : occasion.now.InCalendar) (subject : Subject) (audience : Option String)
    (scopes : List Scope) :
    issuer.key.SignsWithinYear occasion.now.unixSeconds
      ((issuer.issue occasion subject audience scopes).map (·.token)) := by
  have ht := hc.bounds.1
  have hr := hc.not_outOfRange hl.2
  obtain ⟨members, hj, hw⟩ :=
    (issuer.claimsOn occasion subject.id audience scopes).exists_writtenIn
  have hm := map_token_issue hr subject audience scopes
  refine ⟨members, _, hj ▸ hm, fun token ho => ?_, hw.issued, hw.expires, ?_, ?_⟩
  · obtain ⟨issued, hi, rfl⟩ := Except.map_eq_ok_iff.mp ho
    rw [Jwt.payload?_of_sign (issue_eq_ok_iff.mp hi).2.1 (AccessClaims.isPlain_toJson _ _), ← hj]
    exact AccessClaims.reread?_toJson (isClaimTime_claimsOn hi ht) ht ht _
  · simp only [claimsOn]
    omega
  · simp only [claimsOn]
    omega

end JwtAccessIssuer

namespace JwtRefreshIssuer

variable {issuer : JwtRefreshIssuer} {occasion : Occasion}

theorem issue_of_outOfRange (h : OutOfRange occasion.now.unixSeconds issuer.lifetime)
    (subject : Subject) :
    issuer.issue occasion subject = .error (.lifetimeOutOfRange issuer.lifetime) := by
  rw [issue, expiresAt_of_outOfRange h]
  rfl

theorem issue_eq_signClaims (h : ¬ OutOfRange occasion.now.unixSeconds issuer.lifetime)
    (subject : Subject) :
    issuer.issue occasion subject =
      issuer.key.signClaims (issuer.claimsOn occasion subject.id).toJson := by
  rw [issue, expiresAt_of_not_outOfRange h]
  rfl

theorem signsWithinYear (hl : 0 < issuer.lifetime ∧ issuer.lifetime ≤ 31536000)
    (hc : occasion.now.InCalendar) (subject : Subject) :
    issuer.key.SignsWithinYear occasion.now.unixSeconds (issuer.issue occasion subject) := by
  have ht := hc.bounds.1
  have hr := hc.not_outOfRange hl.2
  refine ⟨_, _, issue_eq_signClaims hr subject, fun token hi => ?_, rfl, rfl, ?_, ?_⟩
  · obtain ⟨he, hn⟩ := isClaimTime_claimsOn hi ht.1
    rw [Jwt.payload?_of_sign (issue_eq_ok_iff.mp hi).2 (RefreshClaims.isPlain_toJson _ _)]
    exact RefreshClaims.reread?_toJson he hn hn _
  · simp only [claimsOn]
    omega
  · simp only [claimsOn]
    omega

end JwtRefreshIssuer

/-- The issuer that a configuration stands for, with the key that was loaded for it. -/
def AccessIssuerConfig.issuerWith (config : AccessIssuerConfig) (key : SigningKey) :
    JwtAccessIssuer :=
  ⟨config.issuer, config.audience, config.lifetime, key⟩

@[inherit_doc AccessIssuerConfig.issuerWith]
def RefreshIssuerConfig.issuerWith (config : RefreshIssuerConfig) (key : SigningKey) :
    JwtRefreshIssuer :=
  ⟨config.issuer, config.lifetime, key⟩

section Configured

variable {files : Files}

theorem AccessIssuerConfig.validate_eq_ok_iff {config : AccessIssuerConfig} :
    config.validate files = .ok () ↔ config.issuer ≠ "" ∧
      (0 < config.lifetime ∧ config.lifetime ≤ 31536000) ∧
      ∃ key, config.signingKey.load files false = .ok key := by
  rw [← issuerFault?_eq_none_iff, validate]
  cases issuerFault? config.issuer config.lifetime (config.signingKey.load files false) <;>
    simp [invalid]

theorem RefreshIssuerConfig.validate_eq_ok_iff {config : RefreshIssuerConfig} :
    config.validate files = .ok () ↔ config.issuer ≠ "" ∧
      (0 < config.lifetime ∧ config.lifetime ≤ 31536000) ∧
      ∃ key, config.signingKey.load files true = .ok key := by
  rw [← issuerFault?_eq_none_iff, validate]
  cases issuerFault? config.issuer config.lifetime (config.signingKey.load files true) <;>
    simp [invalid]

theorem AccessIssuerConfig.build_of_load {config : AccessIssuerConfig} {key : SigningKey}
    (h : config.signingKey.load files false = .ok key) :
    config.build files = .ok ⟨(config.issuerWith key).component, []⟩ := by
  rw [build, h]
  rfl

theorem RefreshIssuerConfig.build_of_load {config : RefreshIssuerConfig} {key : SigningKey}
    (h : config.signingKey.load files true = .ok key) :
    config.build files = .ok ⟨(config.issuerWith key).component, []⟩ := by
  rw [build, h]
  rfl

end Configured

/-- The end of a lifetime is the exact sum, or it is an error if that does not fit. A configured
issuer signs claims that end after they begin and within a year, whatever the year is. Any other
issuer whose lifetime cannot end signs nothing. -/
theorem lifetimes_never_wrap :
    (∀ (issued : Int64) (lifetime : UInt64),
      (∀ expires, expiresAt issued.toInt lifetime.toNat = .ok expires ↔
        lifetime.toNat ≤ 2 ^ 63 - 1 ∧ issued.toInt + lifetime.toNat ≤ 2 ^ 63 - 1 ∧
          expires = issued.toInt + lifetime.toNat) ∧
      (∀ expires, expiresAt issued.toInt lifetime.toNat = .ok expires →
        (issued + lifetime.toInt64).toInt = expires) ∧
      (¬ (lifetime.toNat ≤ 2 ^ 63 - 1 ∧ issued.toInt + lifetime.toNat ≤ 2 ^ 63 - 1) →
        expiresAt issued.toInt lifetime.toNat = .error (.lifetimeOutOfRange lifetime.toNat))) ∧
    (∀ (files : Files) (config : AccessIssuerConfig), config.validate files = .ok () →
      ∃ key, config.build files = .ok ⟨(config.issuerWith key).component, []⟩ ∧
        ∀ occasion : Occasion, occasion.now.InCalendar → ∀ subject audience scopes,
          key.SignsWithinYear occasion.now.unixSeconds
            (((config.issuerWith key).issue occasion subject audience scopes).map (·.token))) ∧
    (∀ (files : Files) (config : RefreshIssuerConfig), config.validate files = .ok () →
      ∃ key, config.build files = .ok ⟨(config.issuerWith key).component, []⟩ ∧
        ∀ occasion : Occasion, occasion.now.InCalendar → ∀ subject,
          key.SignsWithinYear occasion.now.unixSeconds
            ((config.issuerWith key).issue occasion subject)) ∧
    (∀ (issuer : JwtAccessIssuer) (occasion : Occasion),
      OutOfRange occasion.now.unixSeconds issuer.lifetime → ∀ subject audience scopes,
        issuer.issue occasion subject audience scopes =
          .error (.lifetimeOutOfRange issuer.lifetime)) ∧
    (∀ (issuer : JwtRefreshIssuer) (occasion : Occasion),
      OutOfRange occasion.now.unixSeconds issuer.lifetime → ∀ subject,
        issuer.issue occasion subject = .error (.lifetimeOutOfRange issuer.lifetime)) := by
  refine ⟨fun issued lifetime => ?sum, fun files config h => ?access,
    fun files config h => ?refresh, fun _ _ h => JwtAccessIssuer.issue_of_outOfRange h,
    fun _ _ h => JwtRefreshIssuer.issue_of_outOfRange h⟩
  case sum =>
    refine ⟨fun expires => ?_, fun expires he => ?_, fun hn => expiresAt_of_outOfRange ?_⟩
    · rw [expiresAt_eq_ok_iff]
      simp only [maxTime]
      omega
    · obtain ⟨hr, hs⟩ := expiresAt_eq_ok_iff.mp he
      rw [toInt_add_toInt64 (not_outOfRange_iff.mpr hr), hs]
    · simp only [OutOfRange, maxTime]
      omega
  case access =>
    obtain ⟨-, hl, key, hk⟩ := AccessIssuerConfig.validate_eq_ok_iff.mp h
    exact ⟨key, AccessIssuerConfig.build_of_load hk, fun _ hc =>
      JwtAccessIssuer.signsWithinYear hl hc⟩
  case refresh =>
    obtain ⟨-, hl, key, hk⟩ := RefreshIssuerConfig.validate_eq_ok_iff.mp h
    exact ⟨key, RefreshIssuerConfig.build_of_load hk, fun _ hc =>
      JwtRefreshIssuer.signsWithinYear hl hc⟩

theorem year_beyond_last_year_is_signed :
    ∃ (access : AccessIssuerConfig) (refresh : RefreshIssuerConfig) (occasion : Occasion)
      (accessKey refreshKey : SigningKey) (limitless : JwtRefreshIssuer),
      access.validate ⟨[]⟩ = .ok () ∧ refresh.validate ⟨[]⟩ = .ok () ∧
      access.lifetime = 31536000 ∧ occasion.now.date = ⟨9999, 12, 31⟩ ∧
      accessKey.SignsWithinYear 253402300799
        (((access.issuerWith accessKey).issue occasion (Subject.ofId "u") none []).map (·.token)) ∧
      refreshKey.SignsWithinYear 253402300799
        ((refresh.issuerWith refreshKey).issue occasion (Subject.ofId "u")) ∧
      limitless.lifetime = 2 ^ 63 ∧
      limitless.issue occasion (Subject.ofId "u") = .error (.lifetimeOutOfRange (2 ^ 63)) := by
  let key : SigningKeyConfig := .ofSecret "0123456789abcdef0123456789abcdef"
  let access : AccessIssuerConfig := ⟨"i", none, 31536000, key⟩
  let refresh : RefreshIssuerConfig := ⟨"i", 604800, key⟩
  let occasion : Occasion := ⟨Instant.ofSeconds 253402300799, "a", "r"⟩
  let limitless : JwtRefreshIssuer := ⟨"i", 2 ^ 63, .ofSecret .hs256 [] none⟩
  have hs : minimalSecret ≤ "0123456789abcdef0123456789abcdef".utf8ByteSize := by decide
  have ha : access.validate ⟨[]⟩ = .ok () := AccessIssuerConfig.validate_eq_ok_iff.mpr
    ⟨by decide, by decide, _, SigningKeyConfig.load_ofSecret hs _ _⟩
  have hr : refresh.validate ⟨[]⟩ = .ok () := RefreshIssuerConfig.validate_eq_ok_iff.mpr
    ⟨by decide, by decide, _, SigningKeyConfig.load_ofSecret hs _ _⟩
  have hd : occasion.now.date = ⟨9999, 12, 31⟩ := by decide
  have hc : occasion.now.InCalendar := by
    rw [Instant.InCalendar, hd]
    decide
  obtain ⟨-, haccess, hrefresh, -, hlimit⟩ := lifetimes_never_wrap
  obtain ⟨accessKey, -, hsa⟩ := haccess ⟨[]⟩ access ha
  obtain ⟨refreshKey, -, hsr⟩ := hrefresh ⟨[]⟩ refresh hr
  exact ⟨access, refresh, occasion, accessKey, refreshKey, limitless, ha, hr, rfl, hd,
    hsa occasion hc _ _ _, hsr occasion hc _, rfl,
    hlimit limitless occasion (.inl (by decide)) _⟩

end RegistryAuth
