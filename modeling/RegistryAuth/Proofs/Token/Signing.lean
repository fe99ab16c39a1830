import RegistryAuth.Proofs.Except
import RegistryAuth.Proofs.Json.RoundTrip
import RegistryAuth.Proofs.Token.Jwt

/-! # What a signed token says

A token that was signed carries the payload it was signed for, and a key that
accepts its signature opens it to that payload. A shared secret accepts what it
has signed.
-/

namespace RegistryAuth

/-- Whether a key can sign does not depend on what it signs. -/
theorem KeyMaterial.exists_sign {material : KeyMaterial} {algorithm : Algorithm}
    {message signature : Bytes} (h : material.sign algorithm message = .ok signature)
    (other : Bytes) : ∃ signature, material.sign algorithm other = .ok signature := by
  unfold sign at h ⊢
  split at h
  next => cases h
  next hf =>
    rw [if_neg hf]
    cases hm : material.family with
    | hmac => exact ⟨_, rfl⟩
    | rsa =>
      cases hr : Rsa.PrivateKey.ofBytes material.bytes with
      | ok rsa => exact ⟨_, rfl⟩
      | error reason => simp [hm, hr] at h
    | ec =>
      cases hs : Ecdsa.secret? algorithm.curve material.bytes with
      | some secret => exact ⟨_, rfl⟩
      | none => simp [hm, hs] at h
    | ed =>
      cases hs : Ed25519.seed? material.bytes with
      | some seed => exact ⟨_, rfl⟩
      | none => simp [hm, hs] at h

namespace Jwt

/-- The payload that a token carries, whoever signed it. -/
def payload? (token : String) : Option Json := do
  let parts ← parts? token
  decodeJson? parts.payload

/-- A key accepts the signature of a token. -/
def IsSignedBy (material : KeyMaterial) (algorithm : Algorithm) (token : String) : Prop :=
  ∃ parts, parts? token = some parts ∧ hasSignature material algorithm parts = true

/-- The contents of the token that carries a payload under a signature. -/
def contentsOf (key : SigningKey) (payload : Json) (signature : Bytes) : Contents :=
  ⟨Bytes.ofText (header key).render, Bytes.ofText payload.render, signature⟩

variable {key : SigningKey} {payload : Json} {signature bytes : Bytes} {token : String}
  {material : KeyMaterial} {algorithm : Algorithm} {contents : Contents} {json : Json}

theorem sign_eq_ok_iff :
    sign key payload = .ok token ↔
      ∃ signature, key.signing.sign key.algorithm (textBytes (signedText key payload)) =
          .ok signature ∧
        token = String.ofList (contentsOf key payload signature).text := by
  simp only [sign, Except.bind_eq_ok_iff, Except.pure_eq_ok_iff]
  exact exists_congr fun signature => and_congr_right fun _ => eq_comm

theorem exists_sign (h : sign key payload = .ok token) (other : Json) :
    ∃ token, sign key other = .ok token := by
  obtain ⟨_, hs, -⟩ := sign_eq_ok_iff.mp h
  obtain ⟨signature, hs⟩ := KeyMaterial.exists_sign hs (textBytes (signedText key other))
  exact ⟨_, sign_eq_ok_iff.mpr ⟨signature, hs, rfl⟩⟩

theorem parts?_text (contents : Contents) :
    parts? (String.ofList contents.text) = some ⟨encodePart contents.header,
      encodePart contents.payload, encodePart contents.signature⟩ :=
  parts?_eq_some_iff.mpr ⟨String.toList_ofList, dot_not_mem_encodePart, dot_not_mem_encodePart⟩

theorem isSignedBy_iff_of_sign (h : sign key payload = .ok token) :
    IsSignedBy material algorithm token ↔
      ∃ signature, key.signing.sign key.algorithm (textBytes (signedText key payload)) =
          .ok signature ∧
        material.check algorithm (textBytes (signedText key payload)) signature = true := by
  obtain ⟨signature, hs, rfl⟩ := sign_eq_ok_iff.mp h
  constructor
  · rintro ⟨parts, hp, hc⟩
    rw [parts?_text] at hp
    cases hp
    obtain ⟨other, he, hc⟩ := hasSignature_iff.mp hc
    obtain rfl : signature = other := Option.some.inj
      ((decodePart?_eq_some_iff.mpr rfl).symm.trans (decodePart?_eq_some_iff.mpr he))
    exact ⟨signature, hs, hc⟩
  · rintro ⟨other, ho, hc⟩
    cases hs.symm.trans ho
    exact ⟨_, parts?_text _, hasSignature_iff.mpr ⟨signature, rfl, hc⟩⟩

theorem isSignedBy_of_open? (h : open? material algorithm token = some payload) :
    IsSignedBy material algorithm token := by
  simp only [open?, Option.bind_eq_bind, Option.bind_eq_some_iff] at h
  obtain ⟨parts, hp, named, -, h⟩ := h
  split at h
  next hc => exact ⟨parts, hp, (Bool.and_eq_true_iff.mp hc).2⟩
  next => cases h

theorem decodeJson?_encodeJson (hp : payload.IsPlain Json.depthLimit) :
    decodeJson? (encodeJson payload) = payload.reread? Json.depthLimit := by
  have hd : decodePart? (encodeJson payload) = some (Bytes.ofText payload.render) :=
    decodePart?_eq_some_iff.mpr rfl
  have ht : Bytes.toText? (Bytes.ofText payload.render) = some payload.render :=
    Bytes.toText?_eq_some_iff.mpr rfl
  simp only [decodeJson?, hd, ht, Option.bind_eq_bind, Option.bind_some]
  exact Json.parse?_render hp

theorem payload?_of_sign (h : sign key payload = .ok token)
    (hp : payload.IsPlain Json.depthLimit) :
    payload? token = payload.reread? Json.depthLimit := by
  obtain ⟨signature, -, rfl⟩ := sign_eq_ok_iff.mp h
  simp only [payload?, parts?_text, Option.bind_eq_bind, Option.bind_some]
  exact decodeJson?_encodeJson hp

theorem payload?_of_open? (h : open? material algorithm token = some payload) :
    payload? token = some payload := by
  obtain ⟨contents, ht, hs, hp⟩ := open?_eq_some_iff.mp h
  have hc : token = String.ofList contents.text := by rw [← ht, String.ofList_toList]
  subst hc
  simp only [payload?, parts?_text, Option.bind_eq_bind, Option.bind_some]
  exact decodeJson?_eq_some_iff.mpr ⟨_, rfl, hp⟩

section Header

theorem isPlain_header (key : SigningKey) : (header key).IsPlain Json.depthLimit := by
  change (header key).IsPlain (126 + 1)
  cases hk : key.keyId <;> simp [header, hk, Json.IsPlain]

theorem reread?_header (key : SigningKey) :
    (header key).reread? Json.depthLimit = some (header key) := by
  apply Json.reread?_object
  cases key.keyId <;> simp [Json.reread?_string]

theorem headerReader_header (key : SigningKey) : headerReader (header key) = .ok key.algorithm := by
  obtain ⟨algorithm, signing, checking, keyId⟩ := key
  cases keyId <;> cases algorithm <;> rfl

theorem headerAlgorithm?_encodeJson_header (key : SigningKey) :
    headerAlgorithm? (encodeJson (header key)) = some key.algorithm := by
  simp only [headerAlgorithm?, decodeJson?_encodeJson (isPlain_header key), reread?_header,
    Option.bind_eq_bind, Option.bind_some, headerReader_header]
  rfl

end Header

theorem open?_of_sign (h : sign key payload = .ok token)
    (hp : payload.IsPlain Json.depthLimit) (hs : IsSignedBy material key.algorithm token) :
    open? material key.algorithm token = payload.reread? Json.depthLimit := by
  obtain ⟨signature, -, rfl⟩ := sign_eq_ok_iff.mp h
  obtain ⟨parts, ht, hc⟩ := hs
  rw [parts?_text] at ht
  cases ht
  have hh : headerAlgorithm? (encodePart (contentsOf key payload signature).header) =
    some key.algorithm := headerAlgorithm?_encodeJson_header key
  simp only [open?, parts?_text, hh, hc, Option.bind_eq_bind, Option.bind_some, decide_true,
    Bool.true_and, if_true]
  exact decodeJson?_encodeJson hp

section SharedSecret

variable {secret : Bytes} {keyId : Option String}

theorem exists_sign_ofSecret (ha : algorithm.family = .hmac) (secret : Bytes)
    (keyId : Option String) (payload : Json) :
    ∃ token, sign (SigningKey.ofSecret algorithm secret keyId) payload = .ok token :=
  ⟨_, sign_eq_ok_iff.mpr ⟨_, KeyMaterial.sign_hmac ha secret _, rfl⟩⟩

theorem isSignedBy_ofSecret (ha : algorithm.family = .hmac)
    (h : sign (SigningKey.ofSecret algorithm secret keyId) payload = .ok token) :
    IsSignedBy ⟨.hmac, secret⟩ algorithm token :=
  (isSignedBy_iff_of_sign h).mpr
    ⟨_, KeyMaterial.sign_hmac ha secret _, KeyMaterial.check_hmac ha secret _⟩

end SharedSecret

end Jwt

end RegistryAuth
