import RegistryAuth.Proofs.Token.Separation

/-! # What an access token says

The payload of an access token has one member for each claim, and none for an
audience that nobody gave. The granted scopes are read from it as they are. With
a shared secret the token is signed under a header that names the algorithm and
the key.
-/

namespace RegistryAuth

variable {occasion : Occasion} {subject : Subject} {audience : Option String}
  {scopes : List Scope}

open RecordReader in
theorem Scope.reader_toJson (scope : Scope) : Scope.reader scope.toJson = .ok scope := by
  have ha : JsonReader.list JsonReader.text (Json.ofStrings scope.actions) = .ok scope.actions :=
    JsonReader.list_array_map fun _ _ => rfl
  simp only [Scope.reader, Scope.toJson, toReader_object_eq_ok_iff, seq_read_eq_ok_iff,
    map_read_eq_ok_iff, required_read_members_eq_ok_iff]
  exact ⟨_, _, ⟨_, _, ⟨_, ⟨_, rfl, rfl⟩, rfl⟩, ⟨_, rfl, rfl⟩, rfl⟩, ⟨_, rfl, ha⟩, rfl⟩

namespace AccessClaims

structure WrittenIn (claims : AccessClaims) (members : List (String × Json)) : Prop where
  issuer : Json.IsOnly members "iss" (.string claims.issuer)
  subject : Json.IsOnly members "sub" (.string claims.subject)
  audience : Json.IsOptional members "aud" (claims.audience.map Json.string)
  expires : Json.IsOnly members "exp" (.int claims.expires)
  notBefore : Json.IsOnly members "nbf" (.int claims.notBefore)
  issued : Json.IsOnly members "iat" (.int claims.issued)
  id : Json.IsOnly members "jti" (.string claims.id)
  access : ∃ json, Json.IsOnly members "access" json ∧
    JsonReader.list Scope.reader json = .ok claims.access

theorem exists_writtenIn (claims : AccessClaims) :
    ∃ members, claims.toJson = .object members ∧ claims.WrittenIn members := by
  have ha : JsonReader.list Scope.reader (.array (claims.access.map Scope.toJson)) =
      .ok claims.access :=
    JsonReader.list_array_map fun scope _ => scope.reader_toJson
  refine ⟨_, rfl, ?_⟩
  cases hc : claims.audience with
  | none => exact ⟨rfl, rfl, by rw [hc]; rfl, rfl, rfl, rfl, rfl, _, rfl, ha⟩
  | some audience => exact ⟨rfl, rfl, by rw [hc]; rfl, rfl, rfl, rfl, rfl, _, rfl, ha⟩

end AccessClaims

namespace Jwt

/-- The members of a header tell what a key signs with, and its name if it has one. -/
structure IsHeaderOf (key : SigningKey) (members : List (String × Json)) : Prop where
  algorithm : Json.IsOnly members "alg" (.string key.algorithm.name)
  keyId : Json.IsOptional members "kid" (key.keyId.map Json.string)

theorem exists_isHeaderOf (key : SigningKey) :
    ∃ members, header key = .object members ∧ IsHeaderOf key members := by
  refine ⟨_, rfl, ?_⟩
  cases hk : key.keyId <;> exact ⟨rfl, by rw [hk]; rfl⟩

/-- A header that names the key, claims of an access token, and a signature of both that the key
accepts. -/
structure Contents.Attests (contents : Contents) (key : SigningKey) (claims : AccessClaims) :
    Prop where
  header : ∃ members, IsTextOf contents.header (.object members) ∧ IsHeaderOf key members
  payload : ∃ members, IsTextOf contents.payload (.object members) ∧ claims.WrittenIn members
  checked : ∃ material, key.checking = some material ∧
    material.check key.algorithm (textBytes contents.signedText) contents.signature = true

variable {key : SigningKey} {payload : Json} {signature : Bytes} {token : String}

theorem isTextOf_render (hp : payload.IsPlain Json.depthLimit)
    (hr : payload.reread? Json.depthLimit = some payload) :
    IsTextOf (Bytes.ofText payload.render) payload :=
  ⟨_, rfl, (Json.parse?_render hp).trans hr⟩

/-- A signed payload that survives its own text is the payload of the token. -/
theorem exists_contents_of_sign (h : sign key payload = .ok token)
    (hp : payload.IsPlain Json.depthLimit)
    (hr : payload.reread? Json.depthLimit = some payload) :
    ∃ contents : Contents, token.toList = contents.text ∧ IsTextOf contents.header (header key) ∧
      IsTextOf contents.payload payload ∧
      key.signing.sign key.algorithm (textBytes contents.signedText) = .ok contents.signature := by
  obtain ⟨signature, hs, rfl⟩ := sign_eq_ok_iff.mp h
  exact ⟨_, String.toList_ofList, isTextOf_render (isPlain_header key) (reread?_header key),
    isTextOf_render hp hr, hs⟩

end Jwt

namespace JwtAccessIssuer

variable {issuer : JwtAccessIssuer} {token : AccessToken}

theorem exists_contents_of_issue
    (hi : issuer.issue occasion subject audience scopes = .ok token)
    (ht : IsClaimTime occasion.now.unixSeconds) :
    ∃ contents : Jwt.Contents, token.token.toList = contents.text ∧
      (∃ members, Jwt.IsTextOf contents.header (.object members) ∧
        Jwt.IsHeaderOf issuer.key members) ∧
      (∃ members, Jwt.IsTextOf contents.payload (.object members) ∧
        (issuer.claimsOn occasion subject.id audience scopes).WrittenIn members) ∧
      issuer.key.signing.sign issuer.key.algorithm (Jwt.textBytes contents.signedText) =
        .ok contents.signature := by
  obtain ⟨contents, hc, hh, hp, hs⟩ := Jwt.exists_contents_of_sign (issue_eq_ok_iff.mp hi).2.1
    (AccessClaims.isPlain_toJson _ _)
    (AccessClaims.reread?_toJson (isClaimTime_claimsOn hi ht) ht ht _)
  obtain ⟨named, hn, hk⟩ := Jwt.exists_isHeaderOf issuer.key
  obtain ⟨members, hj, hw⟩ :=
    (issuer.claimsOn occasion subject.id audience scopes).exists_writtenIn
  exact ⟨contents, hc, ⟨named, hn ▸ hh, hk⟩, ⟨members, hj ▸ hp, hw⟩, hs⟩

section SharedSecret

variable {algorithm : Algorithm} {secret : Bytes} {keyId : Option String}

theorem exists_issue_ofSecret (hk : issuer.key = SigningKey.ofSecret algorithm secret keyId)
    (ha : algorithm.family = .hmac) :
    (∃ token, issuer.issue occasion subject audience scopes = .ok token) ↔
      (issuer.lifetime : Int) ≤ maxTime ∧
        occasion.now.unixSeconds + issuer.lifetime ≤ maxTime := by
  constructor
  · rintro ⟨token, hi⟩
    exact (issue_eq_ok_iff.mp hi).1
  · intro hm
    obtain ⟨token, hs⟩ := Jwt.exists_sign_ofSecret ha secret keyId
      (issuer.claimsOn occasion subject.id audience scopes).toJson
    exact ⟨⟨token, issuer.lifetime, occasion.now⟩,
      issue_eq_ok_iff.mpr ⟨hm, by rw [hk]; exact hs, rfl, rfl⟩⟩

/-- An issuer with a shared secret issues a token whenever its end can be told, and the token
attests just what was granted, to whom, by whom, for which service and from when to when. -/
theorem access_token_attests_grant (issuer : JwtAccessIssuer) {algorithm : Algorithm}
    {secret : Bytes} {keyId : Option String}
    (hk : issuer.key = SigningKey.ofSecret algorithm secret keyId)
    (ha : algorithm.family = .hmac) (occasion : Occasion)
    (ht : IsClaimTime occasion.now.unixSeconds) (subject : Subject) (audience : Option String)
    (scopes : List Scope) :
    ((∃ token, issuer.issue occasion subject audience scopes = .ok token) ↔
      (issuer.lifetime : Int) ≤ maxTime ∧
        occasion.now.unixSeconds + issuer.lifetime ≤ maxTime) ∧
    ∀ token, issuer.issue occasion subject audience scopes = .ok token →
      token.issuedAt = occasion.now ∧ token.expiresIn = issuer.lifetime ∧
      ∃ (contents : Jwt.Contents) (claims : AccessClaims),
        token.token.toList = contents.text ∧ contents.Attests issuer.key claims ∧
        claims.subject = subject.id ∧ claims.issuer = issuer.issuer ∧
        claims.audience = audience.or issuer.audience ∧ claims.access = scopes ∧
        claims.notBefore = token.issuedAt.unixSeconds ∧
        claims.issued = token.issuedAt.unixSeconds ∧
        claims.expires - claims.issued = token.expiresIn := by
  refine ⟨exists_issue_ofSecret hk ha, fun token hi => ?_⟩
  obtain ⟨contents, hc, hh, hp, hs⟩ := exists_contents_of_issue hi ht
  obtain ⟨-, -, hl, hn⟩ := issue_eq_ok_iff.mp hi
  refine ⟨hn, hl, contents, _, hc, ⟨hh, hp, ?_⟩, rfl, rfl, rfl, rfl, ?_, ?_, ?_⟩
  · rw [hk] at hs ⊢
    have hc := Except.ok.inj ((KeyMaterial.sign_hmac ha secret _).symm.trans hs)
    exact ⟨_, rfl, hc ▸ KeyMaterial.check_hmac ha secret _⟩
  · rw [hn]
    rfl
  · rw [hn]
    rfl
  · rw [hl]
    simp only [claimsOn]
    omega

theorem quoted_grant_is_attested :
    ∃ (issuer : JwtAccessIssuer) (occasion : Occasion) (audience : String)
      (scopes : List Scope) (token : AccessToken),
      audience = "\"],\"access\":[\u0000" ∧ scopes = [⟨"a:b", "\\\n", ["", "\""]⟩, ⟨"", "é", []⟩] ∧
      issuer.audience = some "s" ∧ issuer.key.algorithm = .hs384 ∧ issuer.key.keyId = some "k" ∧
      issuer.issue occasion (Subject.ofId "u") (some audience) scopes = .ok token ∧
      token.expiresIn = 3 ∧
      ∃ (contents : Jwt.Contents) (claims : AccessClaims),
        token.token.toList = contents.text ∧ contents.Attests issuer.key claims ∧
        claims.subject = "u" ∧ claims.issuer = "i" ∧ claims.audience = some audience ∧
        claims.access = scopes ∧ claims.notBefore = 5 ∧ claims.issued = 5 ∧
        claims.expires - claims.issued = 3 := by
  let issuer : JwtAccessIssuer := ⟨"i", some "s", 3, SigningKey.ofSecret .hs384 [1, 2] (some "k")⟩
  let occasion : Occasion := ⟨Instant.ofSeconds 5, "a", "r"⟩
  let audience : String := "\"],\"access\":[\u0000"
  let scopes : List Scope := [⟨"a:b", "\\\n", ["", "\""]⟩, ⟨"", "é", []⟩]
  obtain ⟨hm, hv⟩ := access_token_attests_grant issuer rfl rfl occasion ⟨by decide, by decide⟩
    (Subject.ofId "u") (some audience) scopes
  obtain ⟨token, hi⟩ := hm.mpr ⟨by decide, by decide⟩
  obtain ⟨hn, hl, contents, claims, hc, ha, hs, hw, hu, hg, hb, ht, he⟩ := hv token hi
  rw [hn] at hb ht
  rw [hl] at he
  exact ⟨issuer, occasion, audience, scopes, token, rfl, rfl, rfl, rfl, rfl, hi, hl, contents,
    claims, hc, ha, hs, hw, hu, hg, hb, ht, he⟩

end SharedSecret

end JwtAccessIssuer

end RegistryAuth
