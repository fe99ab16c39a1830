import RegistryAuth.Proofs.Token.Signing
import RegistryAuth.Proofs.Token.Verification

/-! # From issue to expiry

A refresh token verifies as its subject exactly as long as the claims hold that
it was issued with. For an issuer with a shared secret these are the seconds from
its issue to the end of its lifetime, ends included.
-/

namespace RegistryAuth

theorem expiresAt_eq_ok_iff {issued expires : Int} {lifetime : Nat} :
    expiresAt issued lifetime = .ok expires ↔
      ((lifetime : Int) ≤ maxTime ∧ issued + lifetime ≤ maxTime) ∧ issued + lifetime = expires := by
  simp only [expiresAt, Bool.and_eq_true, decide_eq_true_eq]
  split
  next h => simp [h]
  next h => simp [h]

theorem SigningKey.signClaims_eq_ok_iff {key : SigningKey} {claims : Json} {token : String} :
    key.signClaims claims = .ok token ↔ Jwt.sign key claims = .ok token := by
  simp [SigningKey.signClaims]

namespace JwtRefreshIssuer

/-- The claims of the token that is issued on an occasion for a subject of that id. -/
def claimsOn (issuer : JwtRefreshIssuer) (occasion : Occasion) (id : String) : RefreshClaims :=
  ⟨issuer.issuer, id, occasion.now.unixSeconds + issuer.lifetime, occasion.now.unixSeconds,
    occasion.now.unixSeconds, occasion.refreshTokenId, RefreshClaims.refreshUse⟩

/-- The issuer's own key accepts the signature of a token. -/
def HasSigned (issuer : JwtRefreshIssuer) (token : String) : Prop :=
  ∃ material, issuer.key.checking = some material ∧
    Jwt.IsSignedBy material issuer.key.algorithm token

variable {issuer : JwtRefreshIssuer} {occasion : Occasion} {subject : Subject} {now : Instant}
  {token : String}

@[simp]
theorem issuer_claimsOn (id : String) :
    (issuer.claimsOn occasion id).issuer = issuer.issuer := rfl

@[simp]
theorem subject_claimsOn (id : String) : (issuer.claimsOn occasion id).subject = id := rfl

@[simp]
theorem tokenUse_claimsOn (id : String) :
    (issuer.claimsOn occasion id).tokenUse = RefreshClaims.refreshUse := rfl

theorem issue_eq_ok_iff :
    issuer.issue occasion subject = .ok token ↔
      ((issuer.lifetime : Int) ≤ maxTime ∧
        occasion.now.unixSeconds + issuer.lifetime ≤ maxTime) ∧
      Jwt.sign issuer.key (issuer.claimsOn occasion subject.id).toJson = .ok token := by
  simp only [issue, Except.bind_eq_ok_iff, expiresAt_eq_ok_iff, SigningKey.signClaims_eq_ok_iff]
  constructor
  · rintro ⟨_, ⟨hl, rfl⟩, hs⟩
    exact ⟨hl, hs⟩
  · rintro ⟨hl, hs⟩
    exact ⟨_, ⟨hl, rfl⟩, hs⟩

theorem isClaimTime_claimsOn (hi : issuer.issue occasion subject = .ok token)
    (ht : -(2 ^ 63) ≤ occasion.now.unixSeconds) :
    IsClaimTime (issuer.claimsOn occasion subject.id).expires ∧
      IsClaimTime (issuer.claimsOn occasion subject.id).issued := by
  have hm := (issue_eq_ok_iff.mp hi).1.2
  simp only [IsClaimTime, claimsOn, maxTime] at hm ⊢
  omega

theorem open?_issued {material : KeyMaterial} (hi : issuer.issue occasion subject = .ok token)
    (hs : Jwt.IsSignedBy material issuer.key.algorithm token)
    (ht : -(2 ^ 63) ≤ occasion.now.unixSeconds) :
    Jwt.open? material issuer.key.algorithm token =
      some (issuer.claimsOn occasion subject.id).toJson := by
  obtain ⟨he, hn⟩ := isClaimTime_claimsOn hi ht
  rw [Jwt.open?_of_sign (issue_eq_ok_iff.mp hi).2 (RefreshClaims.isPlain_toJson _ _) hs]
  exact RefreshClaims.reread?_toJson he hn hn _

theorem verify_issued (hi : issuer.issue occasion subject = .ok token)
    (hs : issuer.HasSigned token) (ht : -(2 ^ 63) ≤ occasion.now.unixSeconds)
    (hid : subject.id ≠ "") (now : Instant) :
    issuer.verify now token =
      if (issuer.claimsOn occasion subject.id).holdAt now.unixSeconds then .ok subject.id
      else .error .authenticationFailed := by
  obtain ⟨material, hk, hs⟩ := hs
  obtain ⟨he, hn⟩ := isClaimTime_claimsOn hi ht
  have hc := RefreshClaims.ofJson?_toJson he hn hn
  have ha : issuer.accepts? material now token =
      if (issuer.claimsOn occasion subject.id).holdAt now.unixSeconds then some subject.id
      else none := by
    simp [accepts?, open?_issued hi hs ht, hc, hid]
  rw [verify_of_checking hk, ha]
  cases (issuer.claimsOn occasion subject.id).holdAt now.unixSeconds <;> rfl

/-- A token whose signature the issuer's own key does not accept is no token of any subject. -/
theorem verify_of_not_hasSigned (h : ¬ issuer.HasSigned token) (now : Instant) :
    issuer.verify now token = .error (if issuer.key.checking.isSome
      then .authenticationFailed else .noVerificationKey) := by
  refine issuer.verify_of_not_accepts now fun material hk => ?_
  rw [Option.eq_none_iff_forall_ne_some]
  intro id ha
  obtain ⟨payload, _, ho, -⟩ := accepts?_eq_some_iff.mp ha
  exact h ⟨material, hk, Jwt.isSignedBy_of_open? ho⟩

theorem holdAt_claimsOn (ht : 0 ≤ occasion.now.unixSeconds) {id : String} :
    (issuer.claimsOn occasion id).holdAt now.unixSeconds = true ↔
      occasion.now.unixSeconds ≤ now.unixSeconds ∧
        now.unixSeconds ≤ occasion.now.unixSeconds + issuer.lifetime := by
  simp only [RefreshClaims.holdAt_iff, claimsOn]
  omega

section SharedSecret

variable {algorithm : Algorithm} {secret : Bytes} {keyId : Option String}

theorem hasSigned_ofSecret (hk : issuer.key = SigningKey.ofSecret algorithm secret keyId)
    (ha : algorithm.family = .hmac) (hi : issuer.issue occasion subject = .ok token) :
    issuer.HasSigned token := by
  have hs := (issue_eq_ok_iff.mp hi).2
  rw [hk] at hs
  refine ⟨⟨.hmac, secret⟩, by rw [hk]; rfl, ?_⟩
  rw [hk]
  exact Jwt.isSignedBy_ofSecret ha hs

theorem exists_issue_ofSecret (hk : issuer.key = SigningKey.ofSecret algorithm secret keyId)
    (ha : algorithm.family = .hmac) (ht : 0 ≤ occasion.now.unixSeconds) :
    (∃ token, issuer.issue occasion subject = .ok token) ↔
      occasion.now.unixSeconds + issuer.lifetime ≤ maxTime := by
  constructor
  · rintro ⟨token, hi⟩
    exact (issue_eq_ok_iff.mp hi).1.2
  · intro hm
    obtain ⟨token, hs⟩ := Jwt.exists_sign_ofSecret ha secret keyId
      (issuer.claimsOn occasion subject.id).toJson
    exact ⟨token, issue_eq_ok_iff.mpr ⟨⟨by omega, hm⟩, by rw [hk]; exact hs⟩⟩

/-- An issuer with a shared secret issues a token whenever its end can be told, and the token
verifies as its subject from the second of its issue to the last of its lifetime, at no other
time. -/
theorem issued_token_verifies_while_valid (issuer : JwtRefreshIssuer) {algorithm : Algorithm}
    {secret : Bytes} {keyId : Option String}
    (hk : issuer.key = SigningKey.ofSecret algorithm secret keyId)
    (ha : algorithm.family = .hmac) (occasion : Occasion) (ht : 0 ≤ occasion.now.unixSeconds)
    (subject : Subject) (hid : subject.id ≠ "") :
    ((∃ token, issuer.issue occasion subject = .ok token) ↔
      occasion.now.unixSeconds + issuer.lifetime ≤ maxTime) ∧
    ∀ token, issuer.issue occasion subject = .ok token → ∀ now : Instant,
      issuer.verify now token =
        if occasion.now.unixSeconds ≤ now.unixSeconds ∧
            now.unixSeconds ≤ occasion.now.unixSeconds + issuer.lifetime then .ok subject.id
        else .error .authenticationFailed := by
  refine ⟨exists_issue_ofSecret hk ha ht, fun token hi now => ?_⟩
  rw [verify_issued hi (hasSigned_ofSecret hk ha hi) (by omega) hid]
  simp only [holdAt_claimsOn ht]

theorem quoted_id_verifies_while_valid :
    ∃ (issuer : JwtRefreshIssuer) (occasion : Occasion) (subject : Subject) (token : String),
      subject.id = "a\".b\\\n\u0000" ∧ issuer.issue occasion subject = .ok token ∧
      issuer.verify (Instant.ofSeconds 4) token = .error .authenticationFailed ∧
      issuer.verify (Instant.ofSeconds 5) token = .ok subject.id ∧
      issuer.verify (Instant.ofSeconds 8) token = .ok subject.id ∧
      issuer.verify (Instant.ofSeconds 9) token = .error .authenticationFailed := by
  let issuer : JwtRefreshIssuer := ⟨"i", 3, SigningKey.ofSecret .hs512 [1, 2] none⟩
  let occasion : Occasion := ⟨Instant.ofSeconds 5, "a", "r"⟩
  let subject : Subject := Subject.ofId "a\".b\\\n\u0000"
  obtain ⟨hm, hv⟩ := issued_token_verifies_while_valid issuer rfl rfl occasion (by decide) subject
    (by decide)
  obtain ⟨token, hi⟩ := hm.mpr (by decide)
  exact ⟨issuer, occasion, subject, token, rfl, hi, hv token hi _, hv token hi _, hv token hi _,
    hv token hi _⟩

end SharedSecret

end JwtRefreshIssuer

end RegistryAuth
