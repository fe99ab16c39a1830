import RegistryAuth.Proofs.Token.Validity

/-! # Access tokens are no refresh tokens

Access and refresh tokens may be signed with one key for one issuer name. A
verifier of refresh tokens refuses an access token all the same: the payload is
read back as it was written, whatever texts the client put into it, and names no
use.
-/

namespace RegistryAuth

variable {occasion : Occasion} {subject : Subject} {audience : Option String}
  {scopes : List Scope} {now : Instant}

namespace JwtAccessIssuer

/-- The claims of the token that is issued on an occasion. -/
def claimsOn (issuer : JwtAccessIssuer) (occasion : Occasion) (id : String)
    (audience : Option String) (scopes : List Scope) : AccessClaims :=
  ⟨issuer.issuer, id, audience.or issuer.audience, occasion.now.unixSeconds + issuer.lifetime,
    occasion.now.unixSeconds, occasion.now.unixSeconds, occasion.accessTokenId, scopes⟩

variable {issuer : JwtAccessIssuer} {token : AccessToken}

theorem issue_eq_ok_iff :
    issuer.issue occasion subject audience scopes = .ok token ↔
      ((issuer.lifetime : Int) ≤ maxTime ∧
        occasion.now.unixSeconds + issuer.lifetime ≤ maxTime) ∧
      Jwt.sign issuer.key (issuer.claimsOn occasion subject.id audience scopes).toJson =
        .ok token.token ∧
      token.expiresIn = issuer.lifetime ∧ token.issuedAt = occasion.now := by
  simp only [issue, Except.bind_eq_ok_iff, expiresAt_eq_ok_iff, SigningKey.signClaims_eq_ok_iff,
    Except.pure_eq_ok_iff]
  constructor
  · rintro ⟨_, ⟨hl, rfl⟩, signed, hs, rfl⟩
    exact ⟨hl, hs, rfl, rfl⟩
  · rintro ⟨hl, hs, he, ht⟩
    refine ⟨_, ⟨hl, rfl⟩, _, hs, ?_⟩
    rw [← he, ← ht]

theorem isClaimTime_claimsOn {id : String}
    (hi : issuer.issue occasion subject audience scopes = .ok token)
    (ht : IsClaimTime occasion.now.unixSeconds) :
    IsClaimTime (issuer.claimsOn occasion id audience scopes).expires := by
  have hm := (issue_eq_ok_iff.mp hi).1.2
  simp only [IsClaimTime, claimsOn, maxTime] at ht hm ⊢
  omega

/-- What an access token says is no claims of a refresh token. -/
theorem payload?_issued {json : Json}
    (hi : issuer.issue occasion subject audience scopes = .ok token)
    (hp : Jwt.payload? token.token = some json) : RefreshClaims.ofJson? json = none := by
  rw [Jwt.payload?_of_sign (issue_eq_ok_iff.mp hi).2.1 (AccessClaims.isPlain_toJson _ _)] at hp
  exact AccessClaims.ofJson?_reread hp

end JwtAccessIssuer

namespace JwtRefreshIssuer

variable {access : JwtAccessIssuer} {refresh : JwtRefreshIssuer} {token : AccessToken}

theorem accepts?_accessToken (hi : access.issue occasion subject audience scopes = .ok token)
    (material : KeyMaterial) : refresh.accepts? material now token.token = none := by
  cases ha : refresh.accepts? material now token.token with
  | none => rfl
  | some id =>
    obtain ⟨payload, claims, ho, hc, -⟩ := accepts?_eq_some_iff.mp ha
    have hn := JwtAccessIssuer.payload?_issued hi (Jwt.payload?_of_open? ho)
    cases hn.symm.trans hc

/-- An issuer that can check tokens at all refuses every access token as a refresh token, whoever
issued it, and however its audience and scopes are called. -/
theorem access_token_never_verifies (access : JwtAccessIssuer) (refresh : JwtRefreshIssuer)
    (occasion : Occasion) (subject : Subject) (audience : Option String) (scopes : List Scope)
    {token : AccessToken} (hi : access.issue occasion subject audience scopes = .ok token)
    (now : Instant) :
    refresh.verify now token.token =
      .error (if refresh.key.checking.isSome then .authenticationFailed else .noVerificationKey) ∧
    ∀ verifier, refresh.component.verifier? = some verifier →
      verifier.verify now token.token = .failure .authenticationFailed := by
  have hv := refresh.verify_of_not_accepts now fun material _ => accepts?_accessToken hi material
  refine ⟨hv, fun verifier hc => ?_⟩
  simp only [component] at hc
  split at hc
  next hk =>
    cases hc
    change Reply.ofExcept (refresh.verify now token.token) = _
    rw [hv, if_pos hk]
    rfl
  next => cases hc

theorem forged_use_never_verifies :
    ∃ (access : JwtAccessIssuer) (refresh : JwtRefreshIssuer) (occasion : Occasion)
      (forged : String) (token : AccessToken),
      access.key = refresh.key ∧ access.issuer = refresh.issuer ∧
      forged = "\"]\x7d],\"token_use\":\"refresh\",\"x\":[\x7b\"a\":[\"" ∧
      access.issue occasion (Subject.ofId "u") (some forged) [⟨forged, forged, [forged]⟩] =
        .ok token ∧
      refresh.verify occasion.now token.token = .error .authenticationFailed := by
  let key : SigningKey := SigningKey.ofSecret .hs256 [7] none
  let access : JwtAccessIssuer := ⟨"i", none, 60, key⟩
  let refresh : JwtRefreshIssuer := ⟨"i", 60, key⟩
  let occasion : Occasion := ⟨Instant.ofSeconds 5, "a", "r"⟩
  let forged : String := "\"]\x7d],\"token_use\":\"refresh\",\"x\":[\x7b\"a\":[\""
  let scopes : List Scope := [⟨forged, forged, [forged]⟩]
  have hf : Algorithm.hs256.family = .hmac := rfl
  obtain ⟨signed, hs⟩ := Jwt.exists_sign_ofSecret hf [7] none
    (access.claimsOn occasion "u" (some forged) scopes).toJson
  have hi : access.issue occasion (Subject.ofId "u") (some forged) scopes =
      .ok ⟨signed, 60, occasion.now⟩ :=
    JwtAccessIssuer.issue_eq_ok_iff.mpr ⟨by decide, hs, rfl, rfl⟩
  exact ⟨access, refresh, occasion, forged, _, rfl, rfl, rfl, hi,
    (access_token_never_verifies access refresh occasion _ _ scopes hi occasion.now).1⟩

end JwtRefreshIssuer

end RegistryAuth
