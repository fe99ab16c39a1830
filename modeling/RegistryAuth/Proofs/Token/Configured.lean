import RegistryAuth.Proofs.Token.Lifetime

/-! # Configured issuers

A valid configuration leaves open whether the key of an issuer can sign at all,
and whether the key for checking belongs to it. Neither is in doubt for a shared
secret. All that an issuer fails with is an internal error.
-/

namespace RegistryAuth

namespace SigningKey

/-- The key signs anything at all, and so everything. -/
def Signs (key : SigningKey) : Prop := ∃ payload token, Jwt.sign key payload = .ok token

theorem Signs.exists_sign {key : SigningKey} (h : key.Signs) (payload : Json) :
    ∃ token, Jwt.sign key payload = .ok token := by
  obtain ⟨_, _, hs⟩ := h
  exact Jwt.exists_sign hs payload

theorem signs_ofSecret {algorithm : Algorithm} (ha : algorithm.family = .hmac) (secret : Bytes)
    (keyId : Option String) : (ofSecret algorithm secret keyId).Signs :=
  ⟨.null, Jwt.exists_sign_ofSecret ha secret keyId .null⟩

end SigningKey

/-- The issuer stands for a valid configuration. -/
def JwtAccessIssuer.IsConfigured (issuer : JwtAccessIssuer) : Prop :=
  ∃ files config key, AccessIssuerConfig.validate config files = .ok () ∧
    config.signingKey.load files false = .ok key ∧ config.issuerWith key = issuer

@[inherit_doc JwtAccessIssuer.IsConfigured]
def JwtRefreshIssuer.IsConfigured (issuer : JwtRefreshIssuer) : Prop :=
  ∃ files config key, RefreshIssuerConfig.validate config files = .ok () ∧
    config.signingKey.load files true = .ok key ∧ config.issuerWith key = issuer

section Configured

variable {files : Files} {key : SigningKey}

theorem AccessIssuerConfig.isConfigured {config : AccessIssuerConfig} (hi : config.issuer ≠ "")
    (hl : 0 < config.lifetime ∧ config.lifetime ≤ 31536000)
    (hk : config.signingKey.load files false = .ok key) : (config.issuerWith key).IsConfigured :=
  ⟨files, config, key, validate_eq_ok_iff.mpr ⟨hi, hl, key, hk⟩, hk, rfl⟩

theorem RefreshIssuerConfig.isConfigured {config : RefreshIssuerConfig} (hi : config.issuer ≠ "")
    (hl : 0 < config.lifetime ∧ config.lifetime ≤ 31536000)
    (hk : config.signingKey.load files true = .ok key) : (config.issuerWith key).IsConfigured :=
  ⟨files, config, key, validate_eq_ok_iff.mpr ⟨hi, hl, key, hk⟩, hk, rfl⟩

end Configured

section Failures

variable {issued : Int} {lifetime : Nat} {occasion : Occasion} {subject : Subject} {e : AuthError}

theorem expiresAt_eq_error (h : expiresAt issued lifetime = .error e) :
    ∃ detail, e = .internal detail := by
  unfold expiresAt at h
  split at h <;> cases h
  exact ⟨_, rfl⟩

theorem SigningKey.signClaims_eq_error {key : SigningKey} {claims : Json}
    (h : key.signClaims claims = .error e) : ∃ detail, e = .internal detail := by
  obtain ⟨cause, -, rfl⟩ := Except.mapError_eq_error_iff.mp h
  exact ⟨_, rfl⟩

theorem JwtAccessIssuer.issue_eq_error {issuer : JwtAccessIssuer} {audience : Option String}
    {scopes : List Scope} (h : issuer.issue occasion subject audience scopes = .error e) :
    ∃ detail, e = .internal detail := by
  rcases Except.bind_eq_error_iff.mp h with h | ⟨_, -, h⟩
  · exact expiresAt_eq_error h
  · rcases Except.bind_eq_error_iff.mp h with h | ⟨_, -, h⟩
    · exact SigningKey.signClaims_eq_error h
    · cases h

theorem JwtRefreshIssuer.issue_eq_error {issuer : JwtRefreshIssuer}
    (h : issuer.issue occasion subject = .error e) : ∃ detail, e = .internal detail := by
  rcases Except.bind_eq_error_iff.mp h with h | ⟨_, -, h⟩
  · exact expiresAt_eq_error h
  · exact SigningKey.signClaims_eq_error h

end Failures

section Calendar

variable {t : Instant}

theorem Instant.InCalendar.exists_expiresAt {lifetime : Nat} (h : t.InCalendar)
    (hl : lifetime ≤ 31536000) : ∃ expires, expiresAt t.unixSeconds lifetime = .ok expires :=
  ⟨_, expiresAt_of_not_outOfRange (h.not_outOfRange hl)⟩

theorem JwtAccessIssuer.IsConfigured.exists_expiresAt {issuer : JwtAccessIssuer}
    (h : issuer.IsConfigured) (ht : t.InCalendar) :
    ∃ expires, expiresAt t.unixSeconds issuer.lifetime = .ok expires := by
  obtain ⟨files, config, key, hv, -, rfl⟩ := h
  exact ht.exists_expiresAt (AccessIssuerConfig.validate_eq_ok_iff.mp hv).2.1.2

theorem JwtRefreshIssuer.IsConfigured.exists_expiresAt {issuer : JwtRefreshIssuer}
    (h : issuer.IsConfigured) (ht : t.InCalendar) :
    ∃ expires, expiresAt t.unixSeconds issuer.lifetime = .ok expires := by
  obtain ⟨files, config, key, hv, -, rfl⟩ := h
  exact ht.exists_expiresAt (RefreshIssuerConfig.validate_eq_ok_iff.mp hv).2.1.2

end Calendar

theorem JwtRefreshIssuer.IsConfigured.checks {issuer : JwtRefreshIssuer}
    (h : issuer.IsConfigured) : issuer.key.checking.isSome = true := by
  obtain ⟨files, config, key, -, hl, rfl⟩ := h
  exact (SigningKeyConfig.load_true_eq_ok_iff.mp hl).2

section SharedSecret

theorem JwtAccessIssuer.IsConfigured.signs {issuer : JwtAccessIssuer} (h : issuer.IsConfigured)
    (hf : issuer.key.algorithm.family = .hmac) : issuer.key.Signs := by
  obtain ⟨files, config, key, -, hl, rfl⟩ := h
  obtain ⟨algorithm, secret, keyId, ha, rfl⟩ := SigningKeyConfig.exists_secret_of_load hl hf
  exact SigningKey.signs_ofSecret ha secret keyId

theorem JwtRefreshIssuer.IsConfigured.hasSigned {issuer : JwtRefreshIssuer} {occasion : Occasion}
    {subject : Subject} {token : String} (h : issuer.IsConfigured)
    (hf : issuer.key.algorithm.family = .hmac) (hi : issuer.issue occasion subject = .ok token) :
    issuer.HasSigned token := by
  obtain ⟨files, config, key, -, hl, rfl⟩ := h
  obtain ⟨algorithm, secret, keyId, ha, rfl⟩ := SigningKeyConfig.exists_secret_of_load hl hf
  exact hasSigned_ofSecret rfl ha hi

end SharedSecret

/-! Keys that load and do not work. -/

section Unsuitable

/-- The key signs a payload, and does not accept its own signature. -/
def SigningKey.refusesOwn (key : SigningKey) (payload : Json) : Bool :=
  let message := Jwt.textBytes (Jwt.signedText key payload)
  match key.signing.sign key.algorithm message, key.checking with
  | .ok signature, some material => !material.check key.algorithm message signature
  | _, _ => false

theorem SigningKey.signs_of_refusesOwn {key : SigningKey} {payload : Json}
    (h : key.refusesOwn payload = true) : key.Signs := by
  simp only [refusesOwn] at h
  split at h
  next signature _ hs _ => exact ⟨payload, _, Jwt.sign_eq_ok_iff.mpr ⟨signature, hs, rfl⟩⟩
  next => cases h

theorem JwtRefreshIssuer.not_hasSigned_of_refusesOwn {issuer : JwtRefreshIssuer}
    {occasion : Occasion} {subject : Subject} {token : String}
    (hi : issuer.issue occasion subject = .ok token)
    (hr : issuer.key.refusesOwn (issuer.claimsOn occasion subject.id).toJson = true) :
    ¬ issuer.HasSigned token := by
  rintro ⟨material, hk, hs⟩
  obtain ⟨signature, hs, hc⟩ := (Jwt.isSignedBy_iff_of_sign (issue_eq_ok_iff.mp hi).2).mp hs
  simp only [SigningKey.refusesOwn, hs, hk, hc] at hr
  cases hr

/-- The armour of a key whose data take one line. -/
def armoured (label data : String) : String :=
  s!"-----BEGIN {label}-----\n{data}\n-----END {label}-----\n"

/-- A private key and the public key of another one. -/
def mismatchedPair : SigningKeyConfig where
  algorithm := "EdDSA"
  secret := none
  privateKey := some <| armoured "PRIVATE KEY"
    "MC4CAQAwBQYDK2VwBCIEIAnNBkp84fz3+l3qg3HVdZdaFKHj6EbRMjmH+gDaGCrW"
  privateKeyFile := none
  publicKey := some <| armoured "PUBLIC KEY"
    "MCowBQYDK2VwAyEAfCjen1v1bFwDFqwFePmR9tOVEcPqkHk2PeOhajFWYLs="
  publicKeyFile := none
  keyId := none

def mismatchedKey : SigningKey where
  algorithm := .eddsa
  signing := ⟨.ed, Bytes.ofNatBig 16 0x302e020100300506032b657004220420 ++ Bytes.ofNatBig 32
    0x09cd064a7ce1fcf7fa5dea8371d575975a14a1e3e846d1323987fa00da182ad6⟩
  checking := some ⟨.ed, Bytes.ofNatBig 32
    0x7c28de9f5bf56c5c0316ac0578f991f6d39511c3ea9079363de3a16a315660bb⟩
  keyId := none

theorem load_mismatchedPair : mismatchedPair.load ⟨[]⟩ true = .ok mismatchedKey := by
  decide +kernel

def mismatchedIssuer : JwtRefreshIssuer :=
  RefreshIssuerConfig.issuerWith ⟨"i", 600, mismatchedPair⟩ mismatchedKey

theorem isConfigured_mismatchedIssuer : mismatchedIssuer.IsConfigured :=
  RefreshIssuerConfig.isConfigured (by decide) (by decide) load_mismatchedPair

-- The signature is computed with the one key and checked with the other.
theorem refusesOwn_mismatchedKey :
    mismatchedKey.refusesOwn
      (mismatchedIssuer.claimsOn ⟨Instant.ofSeconds 100, "a", "r"⟩ "u").toJson = true := by
  decide +kernel

/-- A private key that names its algorithm and holds no number. -/
def hollowKey : SigningKeyConfig where
  algorithm := "EdDSA"
  secret := none
  privateKey := some <| armoured "PRIVATE KEY" "BgMrZXA="
  privateKeyFile := none
  publicKey := none
  publicKeyFile := none
  keyId := none

theorem exists_load_hollowKey :
    ∃ key, hollowKey.load ⟨[]⟩ false = .ok key ∧ ¬ key.Signs := by
  have hf : ((hollowKey.load ⟨[]⟩ false).toOption.any fun key =>
      (key.signing.sign key.algorithm []).toOption.isNone) = true := by decide +kernel
  obtain ⟨key, hk, hn⟩ := Except.any_toOption_iff.mp hf
  refine ⟨key, hk, ?_⟩
  rintro ⟨_, _, hs⟩
  obtain ⟨_, hs, -⟩ := Jwt.sign_eq_ok_iff.mp hs
  obtain ⟨_, hs⟩ := KeyMaterial.exists_sign hs []
  rw [hs] at hn
  cases hn

end Unsuitable

end RegistryAuth
