import RegistryAuth.Password.Hash
import RegistryAuth.Proofs.Codec.Base64
import RegistryAuth.Proofs.Crypto.Argon2
import RegistryAuth.Proofs.Text.Split

/-! # New password hashes

The text of a new hash is read back as it was made, and accepts the password
that it was made for.
-/

namespace RegistryAuth

theorem Phc.isValueChar_of_mem_encode {c : Char} {bytes : Bytes}
    (h : c ∈ Base64.encode Base64.standard false bytes) : isValueChar c = true := by
  have hd : ∀ n < 64, isValueChar (Base64.digit Base64.standard n) = true := by decide
  obtain ⟨n, hn, rfl⟩ := Base64.mem_encode h
  exact hd n hn

namespace Password

variable {salt : Bytes}

theorem isSalt_encode (hs : 8 ≤ salt.length) (hl : salt.length ≤ 48) :
    Phc.isSalt (Base64.encode Base64.standard false salt) = true := by
  have hv : (Base64.encode Base64.standard false salt).all Phc.isValueChar = true :=
    List.all_eq_true.mpr fun c hc => Phc.isValueChar_of_mem_encode hc
  simp only [Phc.isSalt, Phc.isValue, hv, Base64.length_encode, Bool.and_eq_true,
    decide_eq_true_eq, Bool.and_true]
  omega

theorem hash?_encode {bytes : Bytes} (hs : 10 ≤ bytes.length) (hl : bytes.length ≤ 64) :
    Phc.hash? (Base64.encode Base64.standard false bytes) = some bytes := by
  have hd : Base64.decode? Base64.standard false (Base64.encode Base64.standard false bytes) =
      some bytes := (Base64.decode?_eq_some_iff Base64.standard_isProper).mpr rfl
  simp [Phc.hash?, hd, hs, hl]

/-- A hash that was made in the way of new ones. -/
def written (salt tag : Bytes) : Phc where
  algorithm := "argon2id"
  version := some 0x13
  parameters := [("m", "19456"), ("t", "2"), ("p", "1")]
  salt := some (String.ofList (Base64.encode Base64.standard false salt))
  hash := some tag

theorem hash_eq_written (salt : Bytes) (password : String) :
    hash salt password =
      written salt (tag ⟨.hybrid, .v13, defaultCost, []⟩ salt hashSize password) := by
  have hm : toString defaultCost.memory = "19456" := by rfl
  have ht : toString defaultCost.passes = "2" := by rfl
  have hp : toString defaultCost.lanes = "1" := by rfl
  simp only [hash, written, hm, ht, hp]

/-- The fields of a written hash, in their order. -/
def fields (salt tag : Bytes) : List (List Char) :=
  ["argon2id".toList, "v=19".toList, "m=19456,t=2,p=1".toList,
    Base64.encode Base64.standard false salt, Base64.encode Base64.standard false tag]

theorem toText_written (salt tag : Bytes) :
    (written salt tag).toText = (fields salt tag).flatMap ('$' :: ·) := by
  simp only [Phc.toText, written, String.toList_ofList]
  rfl

theorem not_mem_fields {c : Char} (salt tag : Bytes)
    (hf : ∀ field ∈ ["argon2id".toList, "v=19".toList, "m=19456,t=2,p=1".toList], c ∉ field)
    (hc : Base64.value? Base64.standard c = none) : ∀ field ∈ fields salt tag, c ∉ field := by
  have hd : ∀ bytes, c ∉ Base64.encode Base64.standard false bytes := fun bytes =>
    Base64.not_mem_encode Base64.standard_isProper hc
  simp only [fields, List.forall_mem_cons] at hf ⊢
  exact ⟨hf.1, hf.2.1, hf.2.2.1, hd salt, hd tag, nofun⟩

theorem splitOn_toText_written (salt tag : Bytes) :
    Text.splitOn '$' (written salt tag).toText = [] :: fields salt tag := by
  have hf : ∀ field ∈ fields salt tag, '$' ∉ field := not_mem_fields salt tag (by decide) (by rfl)
  have hn : '$' ∉ ([] : List Char) := List.not_mem_nil
  rw [toText_written]
  simpa using Text.splitOn_flatMap_cons hn hf

theorem parse?_render_written {tag : Bytes} (hs : 8 ≤ salt.length) (hl : salt.length ≤ 48)
    (ht : 10 ≤ tag.length) (hm : tag.length ≤ 64) :
    Phc.parse? (written salt tag).render = some (written salt tag) := by
  have hn : Phc.isName "argon2id".toList = true := by decide
  have hv : ∀ rest, Phc.takeVersion ("v=19".toList :: rest) = some (some 19, rest) := fun _ => rfl
  have hp : ∀ rest, Phc.takeParameters ("m=19456,t=2,p=1".toList :: rest) =
      some ([("m", "19456"), ("t", "2"), ("p", "1")], rest) := fun _ => rfl
  simp only [Phc.parse?, Phc.render, String.toList_ofList, Phc.ofText?, splitOn_toText_written,
    fields, hn, hv, hp, Phc.takeSalt, isSalt_encode hs hl, Phc.takeHash, hash?_encode ht hm,
    Bool.not_true, Bool.false_eq_true, if_false, if_true, Option.bind_eq_bind, Option.bind_some,
    Option.map_some]
  rfl

theorem recipe?_written (salt tag : Bytes) :
    recipe? (written salt tag) = some ⟨.hybrid, .v13, defaultCost, []⟩ := rfl

theorem saltBytes?_encode (hs : 8 ≤ salt.length) :
    saltBytes? (String.ofList (Base64.encode Base64.standard false salt)) = some salt := by
  have hd : Base64.decode? Base64.standard false (Base64.encode Base64.standard false salt) =
      some salt := (Base64.decode?_eq_some_iff Base64.standard_isProper).mpr rfl
  simp [saltBytes?, hd, hs]

theorem verify_of_parse? {text saltText : String} {phc : Phc} {expected : Bytes} {recipe : Recipe}
    (hp : Phc.parse? text = some phc) (hs : phc.salt = some saltText)
    (hh : phc.hash = some expected) (hr : recipe? phc = some recipe)
    (hb : saltBytes? saltText = some salt) (password : String) :
    verify password text = (tag recipe salt expected.length password == expected) := by
  simp [verify, hp, hs, hh, hr, hb]

theorem length_tag (recipe : Recipe) (salt : Bytes) (password : String) :
    (tag recipe salt hashSize password).length = hashSize :=
  Argon2.length_tag (by decide) ..

theorem parse?_render_hash (hs : 8 ≤ salt.length) (hl : salt.length ≤ 48) (password : String) :
    Phc.parse? (hash salt password).render = some (hash salt password) := by
  rw [hash_eq_written]
  apply parse?_render_written hs hl <;> rw [length_tag] <;> decide

/-- A new hash is of one line. -/
theorem newline_not_mem_render_hash (salt : Bytes) (password : String) :
    '\n' ∉ (hash salt password).render.toList := by
  rw [hash_eq_written, Phc.render, String.toList_ofList, toText_written]
  intro h
  obtain ⟨field, hf, hm⟩ := List.mem_flatMap.mp h
  rcases List.mem_cons.mp hm with hd | hm
  · cases hd
  · exact not_mem_fields _ _ (by decide) (by rfl) field hf hm

/-- A new hash accepts just what has the same hash under its salt. -/
theorem verify_hash_iff (hs : 8 ≤ salt.length) (hl : salt.length ≤ 48) {guess password : String} :
    verify guess (hash salt password).render = true ↔ hash salt guess = hash salt password := by
  have hp := parse?_render_hash hs hl password
  simp only [hash_eq_written] at hp ⊢
  rw [verify_of_parse? hp rfl rfl (recipe?_written _ _) (saltBytes?_encode hs), length_tag,
    beq_iff_eq]
  simp [written]

/-- A new hash accepts its password. -/
theorem verify_hash (hs : 8 ≤ salt.length) (hl : salt.length ≤ 48) (password : String) :
    verify password (hash salt password).render = true :=
  (verify_hash_iff hs hl).mpr rfl

end Password

end RegistryAuth
