import RegistryAuth.Proofs.Codec.Base64
import RegistryAuth.Proofs.Codec.Bytes
import RegistryAuth.Proofs.Json.Record
import RegistryAuth.Proofs.Text.Split
import RegistryAuth.Token.Jwt

/-! # What an opened token holds

A token that a key opens is the base64 text of three parts. Its header names the
key's own algorithm, its signature is one that the key accepts for the first two
parts as they are written, and its payload is the one it is opened to.
-/

namespace RegistryAuth

theorem Algorithm.name_of_ofName? {name : String} {algorithm : Algorithm}
    (h : ofName? name = some algorithm) : algorithm.name = name := by
  simpa using List.find?_some h

section SharedSecret

variable {algorithm : Algorithm}

theorem KeyMaterial.sign_hmac (ha : algorithm.family = .hmac) (secret message : Bytes) :
    sign ⟨.hmac, secret⟩ algorithm message =
      .ok (Hmac.code algorithm.hashFunction secret message) := by
  simp [sign, ha]

theorem KeyMaterial.check_hmac (ha : algorithm.family = .hmac) (secret message : Bytes) :
    check ⟨.hmac, secret⟩ algorithm message (Hmac.code algorithm.hashFunction secret message) =
      true := by
  simp [check, ha]

end SharedSecret

namespace Jwt

/-- The bytes of a token's parts. -/
structure Contents where
  header : Bytes
  payload : Bytes
  signature : Bytes

namespace Contents

def signedText (contents : Contents) : List Char :=
  encodePart contents.header ++ '.' :: encodePart contents.payload

def text (contents : Contents) : List Char :=
  contents.signedText ++ '.' :: encodePart contents.signature

end Contents

/-- The bytes are the text of a JSON value. -/
def IsTextOf (bytes : Bytes) (json : Json) : Prop :=
  ∃ text, bytes = Bytes.ofText text ∧ Json.parse? text = some json

/-- A header names an algorithm, by the only member for it or by its second item. -/
def Names : Json → Algorithm → Prop
  | .object members, algorithm => Json.IsOnly members "alg" (.string algorithm.name)
  | .array items, algorithm => items[1]? = some (.string algorithm.name)
  | _, _ => False

/-- A key accepts a token for its algorithm. -/
structure Signed (material : KeyMaterial) (algorithm : Algorithm) (contents : Contents) : Prop where
  read : ∃ header, IsTextOf contents.header header ∧ headerReader header = .ok algorithm
  checked : material.check algorithm (textBytes contents.signedText) contents.signature = true

variable {material : KeyMaterial} {algorithm : Algorithm} {part : List Char} {bytes : Bytes}
  {json payload : Json} {token : String} {parts : Parts} {contents : Contents}

section Headers

theorem algorithmReader_eq_ok (h : algorithmReader json = .ok algorithm) :
    json = .string algorithm.name := by
  cases json with
  | string name =>
    simp only [algorithmReader] at h
    cases hn : Algorithm.ofName? name with
    | none => simp [hn] at h
    | some found =>
      simp only [hn, Except.ok.injEq] at h
      rw [← h, Algorithm.name_of_ofName? hn]
  | _ => cases h

open RecordReader in
theorem headerReader_eq_ok (h : headerReader json = .ok algorithm) : Names json algorithm := by
  obtain ⟨source, hr, hs⟩ := toReader_eq_ok h
  simp only [seq_read_eq_ok_iff, map_read_eq_ok_iff] at hr
  -- Of the ten fields only the second one matters.
  obtain ⟨_, _, ⟨_, _, ⟨_, _, ⟨_, _, ⟨_, _, ⟨_, _, ⟨_, _, ⟨_, _, ⟨_, _, ⟨_, -, rfl⟩, ha, rfl⟩,
    -, rfl⟩, -, rfl⟩, -, rfl⟩, -, rfl⟩, -, rfl⟩, -, rfl⟩, -, rfl⟩, -, rfl⟩ := hr
  rcases hs with ⟨members, rfl, rfl⟩ | ⟨items, expected, rfl, rfl⟩
  · obtain ⟨json, ho, hj⟩ := required_read_members_eq_ok_iff.mp ha
    obtain rfl := algorithmReader_eq_ok hj
    exact ho
  · obtain ⟨json, hi, hj⟩ := required_read_items_eq_ok_iff.mp ha
    obtain rfl := algorithmReader_eq_ok hj
    exact hi

theorem Signed.named (h : Signed material algorithm contents) :
    ∃ header, IsTextOf contents.header header ∧ Names header algorithm := by
  obtain ⟨header, ht, hr⟩ := h.read
  exact ⟨header, ht, headerReader_eq_ok hr⟩

end Headers

section Parts

theorem decodePart?_eq_some_iff : decodePart? part = some bytes ↔ part = encodePart bytes :=
  Base64.decode?_eq_some_iff Base64.urlSafe_isProper

theorem dot_not_mem_encodePart : '.' ∉ encodePart bytes :=
  Base64.not_mem_encode Base64.urlSafe_isProper (by decide)

theorem decodeJson?_eq_some_iff :
    decodeJson? part = some json ↔ ∃ bytes, part = encodePart bytes ∧ IsTextOf bytes json := by
  simp only [decodeJson?, Option.bind_eq_bind, Option.bind_eq_some_iff, decodePart?_eq_some_iff,
    Bytes.toText?_eq_some_iff, IsTextOf]

theorem headerAlgorithm?_eq_some_iff :
    headerAlgorithm? part = some algorithm ↔
      ∃ bytes header, part = encodePart bytes ∧ IsTextOf bytes header ∧
        headerReader header = .ok algorithm := by
  have hr : ∀ header, (headerReader header).toOption = some algorithm ↔
      headerReader header = .ok algorithm := by
    intro header
    cases headerReader header <;> simp [Except.toOption]
  simp only [headerAlgorithm?, Option.bind_eq_bind, Option.bind_eq_some_iff,
    decodeJson?_eq_some_iff, hr]
  constructor
  · rintro ⟨header, ⟨bytes, hb, ht⟩, hr⟩
    exact ⟨bytes, header, hb, ht, hr⟩
  · rintro ⟨bytes, header, hb, ht, hr⟩
    exact ⟨header, ⟨bytes, hb, ht⟩, hr⟩

theorem parts?_eq_some_iff :
    parts? token = some parts ↔ token.toList = parts.signedText ++ '.' :: parts.signature ∧
      '.' ∉ parts.payload ∧ '.' ∉ parts.signature := by
  simp only [parts?, Option.bind_eq_bind, Option.bind_eq_some_iff]
  constructor
  · rintro ⟨⟨message, signature⟩, ht, ⟨header, payload⟩, hm, hp⟩
    cases hp
    obtain ⟨ht, hs⟩ := Text.splitLast?_eq_some_iff.mp ht
    obtain ⟨rfl, hp⟩ := Text.splitLast?_eq_some_iff.mp hm
    exact ⟨ht, hp, hs⟩
  · rintro ⟨ht, hp, hs⟩
    exact ⟨_, Text.splitLast?_eq_some_iff.mpr ⟨ht, hs⟩, _,
      Text.splitLast?_eq_some_iff.mpr ⟨rfl, hp⟩, rfl⟩

theorem hasSignature_iff :
    hasSignature material algorithm parts = true ↔
      ∃ signature, parts.signature = encodePart signature ∧
        material.check algorithm (textBytes parts.signedText) signature = true := by
  simp only [← decodePart?_eq_some_iff]
  cases hs : decodePart? parts.signature <;> simp [hasSignature, hs]

theorem open?_eq_some_iff :
    open? material algorithm token = some payload ↔
      ∃ contents : Contents, token.toList = contents.text ∧ Signed material algorithm contents ∧
        IsTextOf contents.payload payload := by
  simp only [open?, Option.bind_eq_bind, Option.bind_eq_some_iff]
  constructor
  · rintro ⟨⟨headerPart, payloadPart, signaturePart⟩, hp, named, hn, h⟩
    split at h
    next hc =>
      rw [Bool.and_eq_true, decide_eq_true_eq] at hc
      obtain ⟨rfl, hc⟩ := hc
      obtain ⟨header, json, rfl, ht, hj⟩ := headerAlgorithm?_eq_some_iff.mp hn
      obtain ⟨payload, rfl, hb⟩ := decodeJson?_eq_some_iff.mp h
      obtain ⟨signature, rfl, hs⟩ := hasSignature_iff.mp hc
      exact ⟨⟨header, payload, signature⟩, (parts?_eq_some_iff.mp hp).1, ⟨⟨json, ht, hj⟩, hs⟩, hb⟩
    next => cases h
  · rintro ⟨⟨header, payload, signature⟩, ht, ⟨⟨json, hj, hr⟩, hs⟩, hp⟩
    refine ⟨⟨encodePart header, encodePart payload, encodePart signature⟩,
      parts?_eq_some_iff.mpr ⟨ht, dot_not_mem_encodePart, dot_not_mem_encodePart⟩, algorithm,
      headerAlgorithm?_eq_some_iff.mpr ⟨header, json, rfl, hj, hr⟩, ?_⟩
    rw [if_pos, decodeJson?_eq_some_iff]
    · exact ⟨payload, rfl, hp⟩
    · rw [Bool.and_eq_true, decide_eq_true_eq]
      exact ⟨rfl, hasSignature_iff.mpr ⟨signature, rfl, hs⟩⟩

end Parts

/-- A secret signs any payload under a header that names a keyed hash. -/
theorem exists_signed (secret : Bytes) (ha : algorithm.family = .hmac) {header : Bytes}
    (hr : ∃ json, IsTextOf header json ∧ headerReader json = .ok algorithm) (payload : Bytes) :
    ∃ contents : Contents, contents.payload = payload ∧
      Signed ⟨.hmac, secret⟩ algorithm contents := by
  let message := textBytes (encodePart header ++ '.' :: encodePart payload)
  exact ⟨⟨header, payload, Hmac.code algorithm.hashFunction secret message⟩, rfl, hr,
    KeyMaterial.check_hmac ha secret message⟩

end Jwt

end RegistryAuth
