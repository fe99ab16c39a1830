import RegistryAuth.Proofs.Token.Claims
import RegistryAuth.Proofs.Token.Jwt
import RegistryAuth.Proofs.Token.Signing
import RegistryAuth.Token.Issuers

/-! # Verified refresh tokens

A refresh token stands for a subject only if its issuer's key has signed it and
its claims name the issuer, the use, the subject and a validity that includes the
present time. Every other text is refused in one and the same way.
-/

namespace RegistryAuth.JwtRefreshIssuer

/-- What a token with these contents and claims must satisfy for its issuer to accept it. -/
structure Accepts (issuer : JwtRefreshIssuer) (material : KeyMaterial) (now : Instant)
    (contents : Jwt.Contents) (claims : RefreshClaims) : Prop where
  named : ∃ header, Jwt.IsTextOf contents.header header ∧ Jwt.Names header issuer.key.algorithm
  checked : material.check issuer.key.algorithm (Jwt.textBytes contents.signedText)
    contents.signature = true
  claimed : ∃ members, Jwt.IsTextOf contents.payload (.object members) ∧ claims.WrittenIn members
  issuer_eq : claims.issuer = issuer.issuer
  tokenUse_eq : claims.tokenUse = "refresh"
  subject_ne : claims.subject ≠ ""
  expires_ge : now.unixSeconds ≤ claims.expires
  notBefore_le : claims.notBefore ≤ now.unixSeconds

variable {issuer : JwtRefreshIssuer} {material : KeyMaterial} {now : Instant} {token id : String}

theorem accepts?_eq_some_iff :
    issuer.accepts? material now token = some id ↔
      ∃ payload claims, Jwt.open? material issuer.key.algorithm token = some payload ∧
        RefreshClaims.ofJson? payload = some claims ∧
        (claims.holdAt now.unixSeconds = true ∧ claims.issuer = issuer.issuer ∧
          claims.tokenUse = RefreshClaims.refreshUse ∧ claims.subject ≠ "") ∧
        claims.subject = id := by
  simp [accepts?, Option.bind_eq_some_iff, and_assoc]

theorem accepts_of_accepts? (h : issuer.accepts? material now token = some id) :
    ∃ contents claims, token.toList = contents.text ∧
      issuer.Accepts material now contents claims ∧ claims.subject = id := by
  obtain ⟨payload, claims, ho, hj, ⟨hh, hi, hu, hs⟩, hid⟩ := accepts?_eq_some_iff.mp h
  obtain ⟨contents, ht, hsigned, hp⟩ := Jwt.open?_eq_some_iff.mp ho
  obtain ⟨members, rfl, hw, -⟩ := RefreshClaims.ofJson?_eq_some_iff.mp hj
  obtain ⟨-, he, hn⟩ := RefreshClaims.holdAt_iff.mp hh
  exact ⟨contents, claims, ht,
    ⟨hsigned.named, hsigned.checked, ⟨members, hp, hw⟩, hi, hu, hs, he, hn⟩, hid⟩

theorem verify_of_checking (hk : issuer.key.checking = some material) :
    issuer.verify now token = match issuer.accepts? material now token with
      | some subject => .ok subject
      | none => .error .authenticationFailed := by
  cases ha : issuer.accepts? material now token <;> simp [verify, hk, ha]

/-- A token that is not accepted is refused, unless the issuer cannot check tokens at all. -/
theorem verify_of_not_accepts (now : Instant)
    (h : ∀ material, issuer.key.checking = some material →
      issuer.accepts? material now token = none) :
    issuer.verify now token = .error (if issuer.key.checking.isSome
      then .authenticationFailed else .noVerificationKey) := by
  cases hk : issuer.key.checking with
  | none => simp [verify, hk]
  | some material =>
    rw [verify_of_checking hk, h material hk]
    rfl

/-- A token verifies only if it carries claims that the issuer's key has signed and that hold now.
All other tokens fail alike. -/
theorem only_signed_claims_verify (issuer : JwtRefreshIssuer) {material : KeyMaterial}
    (hk : issuer.key.checking = some material) (now : Instant) (token : String) :
    (∀ id, issuer.verify now token = .ok id →
      ∃ contents claims, token.toList = contents.text ∧
        issuer.Accepts material now contents claims ∧ claims.subject = id) ∧
    ∀ e, issuer.verify now token = .error e → e = .authenticationFailed := by
  rw [verify_of_checking hk]
  cases ha : issuer.accepts? material now token with
  | none => exact ⟨nofun, fun e he => (Except.error.inj he).symm⟩
  | some subject =>
    refine ⟨fun id hid => ?_, nofun⟩
    cases hid
    exact accepts_of_accepts? ha

theorem signed_claims_verify :
    ∃ (issuer : JwtRefreshIssuer) (material : KeyMaterial) (now : Instant) (token : String),
      issuer.key.checking = some material ∧ issuer.verify now token = .ok "u" ∧
      ∃ contents claims, token.toList = contents.text ∧
        issuer.Accepts material now contents claims ∧ claims.subject = "u" := by
  let issuer : JwtRefreshIssuer := ⟨"i", 1, SigningKey.ofSecret .hs256 [] none⟩
  let now : Instant := Instant.ofSeconds 2
  let claims : RefreshClaims := ⟨"i", "u", 2, 1, 1, "j", "refresh"⟩
  have hk : issuer.key.checking = some ⟨.hmac, []⟩ := rfl
  have hh : Json.parse? (Jwt.header issuer.key).render = some (Jwt.header issuer.key) :=
    (Json.parse?_render (Jwt.isPlain_header _)).trans (Jwt.reread?_header _)
  have hp : Json.parse? claims.toJson.render = some claims.toJson :=
    (Json.parse?_render (claims.isPlain_toJson 126)).trans
      (RefreshClaims.reread?_toJson ⟨by decide, by decide⟩ ⟨by decide, by decide⟩
        ⟨by decide, by decide⟩ 126)
  obtain ⟨contents, hc, hs⟩ := Jwt.exists_signed [] rfl ⟨_, ⟨_, rfl, hh⟩, rfl⟩
    (Bytes.ofText claims.toJson.render)
  have ho : Jwt.open? ⟨.hmac, []⟩ .hs256 (String.ofList contents.text) = some claims.toJson :=
    Jwt.open?_eq_some_iff.mpr ⟨contents, String.toList_ofList, hs, _, hc, hp⟩
  have ha : issuer.accepts? ⟨.hmac, []⟩ now (String.ofList contents.text) = some "u" :=
    accepts?_eq_some_iff.mpr ⟨_, claims, ho, rfl, ⟨by decide, rfl, rfl, by decide⟩, rfl⟩
  have hv : issuer.verify now (String.ofList contents.text) = .ok "u" := by
    rw [verify_of_checking hk, ha]
  exact ⟨issuer, _, now, _, hk, hv, (only_signed_claims_verify issuer hk now _).1 _ hv⟩

end RegistryAuth.JwtRefreshIssuer
