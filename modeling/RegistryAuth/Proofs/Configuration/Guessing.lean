import Mathlib
import RegistryAuth.Configuration.Layer
import RegistryAuth.Configuration.Reading
import RegistryAuth.Proofs.Json.Scalar

/-! # What a variable is taken for

The value of a variable that looks like a truth value or a number is taken for
one, and is written anew where a text is asked for. It stays as it is only if it
was written in that way. A value with a character that stands in no number and in
no word is always taken for its text.
-/

namespace RegistryAuth

namespace Decimal

/-- The letters, digits and marks that words and numbers are made of. -/
def IsScalarChar (c : Char) : Prop := c.isAlphanum = true ∨ c ∈ ['+', '-', '.']

instance (c : Char) : Decidable (IsScalarChar c) :=
  inferInstanceAs (Decidable (c.isAlphanum = true ∨ c ∈ ['+', '-', '.']))

variable {c : Char} {text word : List Char}

theorem not_isAlpha_of_isDigit (h : isDigit c = true) : ¬ c.isAlpha = true := by
  simp only [isDigit, Char.isAlpha, Char.isUpper, Char.isLower, Char.le_def, ge_iff_le,
    UInt32.le_iff_toNat_le, Bool.and_eq_true, Bool.or_eq_true, decide_eq_true_eq] at h ⊢
  have hn : c.val.toNat ≤ 57 := h.2
  rintro (⟨hl, -⟩ | ⟨hl, -⟩)
  · have hu : 65 ≤ c.val.toNat := hl
    omega
  · have hu : 97 ≤ c.val.toNat := hl
    omega

theorem isScalarChar_of_isDigit (h : isDigit c = true) : IsScalarChar c := by
  refine .inl ?_
  have hd : c.isDigit = true := by simpa [Char.isDigit, isDigit, Char.le_def] using h
  rw [Char.isAlphanum, hd, Bool.or_true]

theorem isScalarChar_of_isAlpha (h : c.isAlpha = true) : IsScalarChar c := by
  refine .inl ?_
  rw [Char.isAlphanum, h, Bool.true_or]

theorem isAlpha_of_lowerAscii (hw : word.all Char.isAlpha = true) (h : lowerAscii text = word) :
    ∀ c ∈ text, c.isAlpha = true := by
  intro c hc
  rw [← Char.isAlpha_toLower_eq_isAlpha]
  exact List.all_eq_true.mp hw _ (h ▸ List.mem_map_of_mem hc)

theorem isScalarChar_of_lowerAscii (hw : word.all Char.isAlpha = true)
    (h : lowerAscii text = word) : ∀ c ∈ text, IsScalarChar c := fun c hc =>
  isScalarChar_of_isAlpha (isAlpha_of_lowerAscii hw h c hc)

theorem natural?_eq_some_iff {n : Nat} :
    natural? text = some n ↔ (text ≠ [] ∧ ∀ c ∈ text, isDigit c = true) ∧ value text = n := by
  simp [natural?]

theorem isScalarChar_of_natural? {n : Nat} (h : natural? text = some n) :
    ∀ c ∈ text, IsScalarChar c := fun c hc =>
  isScalarChar_of_isDigit ((natural?_eq_some_iff.mp h).1.2 c hc)

theorem isScalarChar_of_integer? {n : Int} (h : integer? text = some n) :
    ∀ c ∈ text, IsScalarChar c := by
  unfold integer? at h
  split at h
  all_goals
    obtain ⟨_, hm, -⟩ := Option.map_eq_some_iff.mp h
    obtain ⟨_, hn, -⟩ := Option.bind_eq_some_iff.mp hm
  · exact List.forall_mem_cons.mpr ⟨.inr (by decide), isScalarChar_of_natural? hn⟩
  · exact List.forall_mem_cons.mpr ⟨.inr (by decide), isScalarChar_of_natural? hn⟩
  · exact isScalarChar_of_natural? hn

theorem isScalarChar_of_exponent? {n : Int} (h : exponent? text = some n) :
    ∀ c ∈ text, IsScalarChar c := by
  cases text with
  | nil => exact nofun
  | cons c rest =>
    simp only [exponent?] at h
    split at h
    next hc =>
      refine List.forall_mem_cons.mpr ⟨isScalarChar_of_isAlpha ?_, isScalarChar_of_integer? h⟩
      simp only [Bool.or_eq_true, decide_eq_true_eq] at hc
      rcases hc with rfl | rfl <;> rfl
    next => cases h

/-- Digits stand before anything else in a number. -/
theorem isScalarChar_of_dropWhile (h : ∀ c ∈ text.dropWhile isDigit, IsScalarChar c) :
    ∀ c ∈ text, IsScalarChar c := by
  intro c hc
  rw [← List.takeWhile_append_dropWhile (p := isDigit) (l := text), List.mem_append] at hc
  exact hc.elim (fun hd => isScalarChar_of_isDigit (List.mem_takeWhile_imp hd)) (h c)

theorem isScalarChar_of_unsignedNumber? {negative : Bool} {x : Binary64}
    (h : unsignedNumber? negative text = some x) : ∀ c ∈ text, IsScalarChar c := by
  refine isScalarChar_of_dropWhile ?_
  simp only [unsignedNumber?] at h
  split at h
  next more hd =>
    split at h
    next => cases h
    next =>
      obtain ⟨_, he, -⟩ := Option.map_eq_some_iff.mp h
      rw [hd]
      exact List.forall_mem_cons.mpr
        ⟨.inr (by decide), isScalarChar_of_dropWhile (isScalarChar_of_exponent? he)⟩
  next =>
    split at h
    next => cases h
    next =>
      obtain ⟨_, he, -⟩ := Option.map_eq_some_iff.mp h
      exact isScalarChar_of_exponent? he

theorem isScalarChar_of_number? {x : Binary64} (h : number? text = some x) :
    ∀ c ∈ text, IsScalarChar c := by
  unfold number? at h
  -- A sign is set aside first. What follows it is a word or a number.
  split at h
  next negative rest hs =>
    have hrest : ∀ c ∈ rest, IsScalarChar c := by
      simp only [Bool.or_eq_true, beq_iff_eq, String.ofList_eq] at h
      split_ifs at h with hi hn
      · exact hi.elim (isScalarChar_of_lowerAscii (by decide))
          (isScalarChar_of_lowerAscii (by decide))
      · exact isScalarChar_of_lowerAscii (by decide) hn
      · exact isScalarChar_of_unsignedNumber? h
    split at hs <;> cases hs
    · exact List.forall_mem_cons.mpr ⟨.inr (by decide), hrest⟩
    · exact List.forall_mem_cons.mpr ⟨.inr (by decide), hrest⟩
    · exact hrest

theorem natural?_toDigits (n : Nat) : natural? (Nat.toDigits 10 n) = some n :=
  natural?_eq_some_iff.mpr ⟨⟨Nat.toDigits_ne_nil, fun _ hc => Json.isDigit_of_mem_toDigits hc⟩,
    Json.value_toDigits n⟩

theorem toList_toString (n : Int) :
    (toString n).toList = (if n < 0 then ['-'] else []) ++ Nat.toDigits 10 n.natAbs :=
  Json.text_int n

theorem integer?_toString (n : Int) : integer? (toString n).toList = some n := by
  have hdigits := natural?_toDigits n.natAbs
  rw [toList_toString]
  split
  next hn =>
    change ((natural? (Nat.toDigits 10 n.natAbs)).bind fun n => some (n : Int)).map _ = _
    rw [hdigits]
    change some (-(n.natAbs : Int)) = some n
    rw [Option.some.injEq]
    omega
  next hn =>
    obtain ⟨c, more, hd, hc⟩ := Json.toDigits_eq_cons n.natAbs
    rw [List.nil_append]
    unfold integer?
    split
    next heq =>
      cases hd.symm.trans heq
      cases hc
    next heq =>
      cases hd.symm.trans heq
      cases hc
    next =>
      rw [hdigits]
      change some (n.natAbs : Int) = some n
      rw [Option.some.injEq]
      omega

theorem int64?_toString {n : Int} (hl : -(2 ^ 63) ≤ n) (hu : n < 2 ^ 63) :
    int64? (toString n).toList = some n := by
  rw [int64?, integer?_toString, Option.filter_some, if_pos]
  simp only [fitsInt64, Bool.and_eq_true, decide_eq_true_eq]
  exact ⟨hl, hu⟩

end Decimal

namespace Binary64

theorem toPositional_ne_empty (x : Binary64) : x.toPositional ≠ "" := by
  rw [ne_eq, ← String.toList_eq_nil_iff]
  unfold toPositional
  dsimp only
  split_ifs <;> simp
  -- A whole number keeps the digits before the point, of which there is one at least.
  omega

end Binary64

namespace Layer

open Decimal

variable {value : String}

/-- What the value of a variable becomes where a text is asked for. -/
def rewritten (value : String) : String :=
  match readVariable value with
  | .unit => ""
  | .bool b => toString b
  | .int n => toString n
  | .real x => x.toPositional
  | .text text => text

theorem readVariable_cases (value : String) :
    (∃ b : Bool, readVariable value = .bool b ∧ lowerAscii value.toList = (toString b).toList) ∨
    (∃ n, readVariable value = .int n ∧ int64? value.toList = some n) ∨
    (∃ x, readVariable value = .real x ∧ number? value.toList = some x) ∨
    readVariable value = .text value := by
  unfold readVariable
  dsimp only
  split_ifs with ht hf
  · exact .inl ⟨true, rfl, ht⟩
  · exact .inl ⟨false, rfl, hf⟩
  · cases hi : int64? value.toList with
    | some n => exact .inr (.inl ⟨n, rfl, rfl⟩)
    | none =>
      cases hx : number? value.toList with
      | some x => exact .inr (.inr (.inl ⟨x, rfl, rfl⟩))
      | none => exact .inr (.inr (.inr rfl))

theorem toText_readVariable (value : String) (origin : Origin) :
    Setting.toText (.scalar (readVariable value) origin) = .ok (rewritten value) := by
  rcases readVariable_cases value with ⟨b, h, -⟩ | ⟨n, h, -⟩ | ⟨x, h, -⟩ | h <;>
    simp only [rewritten, h, Setting.toText]

theorem isScalarChar_of_readVariable_ne (h : readVariable value ≠ .text value) :
    ∀ c ∈ value.toList, IsScalarChar c := by
  rcases readVariable_cases value with ⟨b, -, hb⟩ | ⟨n, -, hn⟩ | ⟨x, -, hx⟩ | ht
  · exact isScalarChar_of_lowerAscii (by cases b <;> decide) hb
  · exact isScalarChar_of_integer? (Option.filter_eq_some_iff.mp hn).1
  · exact isScalarChar_of_number? hx
  · exact absurd ht h

/-- A value with a character that stands in no scalar is left alone. -/
theorem rewritten_of_not_isScalarChar (h : ∃ c ∈ value.toList, ¬ IsScalarChar c) :
    rewritten value = value := by
  have ht : readVariable value = .text value := Classical.byContradiction fun hn =>
    have ⟨c, hc, hs⟩ := h
    hs (isScalarChar_of_readVariable_ne hn c hc)
  rw [rewritten, ht]

theorem rewritten_eq_empty_iff : rewritten value = "" ↔ value = "" := by
  constructor
  · intro h
    rcases readVariable_cases value with ⟨b, hr, -⟩ | ⟨n, hr, -⟩ | ⟨x, hr, -⟩ | hr <;>
      simp only [rewritten, hr] at h
    · exact absurd h (by cases b <;> decide)
    · have hn := integer?_toString n
      rw [h] at hn
      cases hn
    · exact absurd h x.toPositional_ne_empty
    · exact h
  · rintro rfl
    rfl

/-- The values that a variable keeps: texts that look like nothing else, and scalars in the form
that they are written in. -/
inductive IsKept : String → Prop where
  | text {value : String} : readVariable value = .text value → IsKept value
  | bool (b : Bool) : IsKept (toString b)
  | int {n : Int} : -(2 ^ 63) ≤ n → n < 2 ^ 63 → IsKept (toString n)
  | real {x : Binary64} : readVariable x.toPositional = .real x → IsKept x.toPositional

theorem readVariable_toString {n : Int} (hl : -(2 ^ 63) ≤ n) (hu : n < 2 ^ 63) :
    readVariable (toString n) = .int n := by
  obtain ⟨c, more, hd, hc⟩ := Json.toDigits_eq_cons n.natAbs
  have hm : c ∈ (toString n).toList := by
    rw [toList_toString, hd]
    exact List.mem_append_right _ List.mem_cons_self
  have hw (word : List Char) (ha : word.all Char.isAlpha = true) :
      lowerAscii (toString n).toList ≠ word := fun h =>
    not_isAlpha_of_isDigit hc (isAlpha_of_lowerAscii ha h c hm)
  unfold readVariable
  dsimp only
  rw [if_neg (hw _ (by decide)), if_neg (hw _ (by decide)), int64?_toString hl hu]

theorem rewritten_eq_self_iff : rewritten value = value ↔ IsKept value := by
  constructor
  · intro h
    rcases readVariable_cases value with ⟨b, hr, -⟩ | ⟨n, hr, hn⟩ | ⟨x, hr, -⟩ | hr
    · rw [← h, rewritten, hr]
      exact .bool b
    · obtain ⟨-, hf⟩ := Option.filter_eq_some_iff.mp hn
      simp only [fitsInt64, Bool.and_eq_true, decide_eq_true_eq] at hf
      rw [← h, rewritten, hr]
      exact .int hf.1 hf.2
    · simp only [rewritten, hr] at h
      rw [← h] at hr ⊢
      exact .real hr
    · exact .text hr
  · rintro (ht | b | ⟨hl, hu⟩ | hx)
    · rw [rewritten, ht]
    · cases b <;> rfl
    · rw [rewritten, readVariable_toString hl hu]
    · rw [rewritten, hx]

end Layer

end RegistryAuth
