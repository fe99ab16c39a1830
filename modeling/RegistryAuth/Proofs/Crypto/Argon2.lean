import RegistryAuth.Crypto.Argon2

/-! # The size of a tag

A digest has the size that is asked for, and so has the tag of a password that
is not longer than a digest.
-/

namespace RegistryAuth

theorem Bytes.length_ofNatLittle (count n : Nat) : (ofNatLittle count n).length = count := by
  induction count generalizing n with
  | zero => rfl
  | succ count ih => simp [ofNatLittle, ih]

theorem length_bytesOfWords (words : List UInt64) :
    (bytesOfWords words).length = 8 * words.length := by
  induction words with
  | nil => rfl
  | cons word rest ih =>
    simp only [bytesOfWords, List.flatMap_cons, List.length_append, Bytes.length_ofNatLittle,
      List.length_cons] at ih ⊢
    omega

namespace Blake2b

variable {state : List UInt64}

theorem length_compress (hs : state.length = 8) (block : Bytes) (count : Nat) (last : Bool) :
    (compress state block count last).length = 8 := by
  simp [compress, Words.toList, hs]

theorem length_absorb (hs : state.length = 8) (taken : Nat) (blocks : List Bytes) :
    (absorb state taken blocks).length = 8 := by
  induction blocks generalizing state taken with
  | nil => exact length_compress hs _ _ _
  | cons block rest ih =>
    cases rest with
    | nil => exact length_compress hs _ _ _
    | cons _ _ => exact ih (length_compress hs _ _ _) _

theorem length_digest {size : Nat} (h : size ≤ 64) (message : Bytes) :
    (digest size message).length = size := by
  simp only [digest, initial, List.length_take, length_bytesOfWords]
  rw [length_absorb rfl]
  omega

end Blake2b

theorem Argon2.length_tag {size : Nat} (h : size ≤ 64) (variant : Variant) (version : Version)
    (cost : Cost) (input : Input) : (tag variant version cost size input).length = size := by
  simp only [tag, longHash, if_pos h]
  exact Blake2b.length_digest h _

end RegistryAuth
