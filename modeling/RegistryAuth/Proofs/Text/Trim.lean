import Mathlib.Data.List.DropRight
import RegistryAuth.Text.Blank

/-! # Trimmed texts

Trimming takes the blanks from both ends of a text and nothing else. What is left
neither begins nor ends with a blank, and there is no other such rest.
-/

namespace RegistryAuth.Text

variable {text inner before after : List Char} {c : Char}

/-- The text neither begins nor ends with a blank. -/
structure IsTrimmed (text : List Char) : Prop where
  head : ∀ c ∈ text.head?, isBlank c = false
  last : ∀ c ∈ text.getLast?, isBlank c = false

/-- What a text holds between the blanks at its ends. -/
structure IsInner (inner text : List Char) : Prop where
  isTrimmed : IsTrimmed inner
  surrounded : ∃ before after, text = before ++ inner ++ after ∧
    (∀ c ∈ before, isBlank c = true) ∧ ∀ c ∈ after, isBlank c = true

theorem trim_eq_rdropWhile (text : List Char) :
    trim text = (text.dropWhile isBlank).rdropWhile isBlank := rfl

/-- What is left of a text without the characters of a kind at its end. -/
theorem rdropWhile_eq_iff {p : Char → Bool} :
    text.rdropWhile p = inner ↔ (∀ c ∈ inner.getLast?, p c = false) ∧
      ∃ after, text = inner ++ after ∧ ∀ c ∈ after, p c = true := by
  constructor
  · rintro rfl
    refine ⟨fun c hc => ?_, text.rtakeWhile p, List.rdropWhile_append_rtakeWhile.symm,
      fun c => List.mem_rtakeWhile_imp⟩
    obtain ⟨hn, rfl⟩ := List.mem_getLast?_eq_getLast hc
    exact Bool.eq_false_iff.mpr (List.rdropWhile_last_not p _ hn)
  · rintro ⟨hl, after, rfl, ha⟩
    have hr : ∀ c ∈ after.reverse, p c = true := fun c hc => ha c (List.mem_reverse.mp hc)
    rw [List.rdropWhile, List.reverse_append, List.dropWhile_append_of_pos hr]
    refine List.rdropWhile_eq_self_iff.mpr fun hn => ?_
    simp [hl _ (List.getLast?_eq_some_getLast hn)]

theorem isTrimmed_trim (text : List Char) : IsTrimmed (trim text) where
  head c hc := by
    obtain ⟨after, ha⟩ := List.rdropWhile_prefix isBlank (l := text.dropWhile isBlank)
    have hd := List.head?_dropWhile_not isBlank text
    rw [← ha, ← trim_eq_rdropWhile, List.head?_append, Option.mem_def.mp hc] at hd
    exact hd
  last := (rdropWhile_eq_iff.mp (trim_eq_rdropWhile text).symm).1

theorem isInner_trim (text : List Char) : IsInner (trim text) text := by
  obtain ⟨-, after, he, ha⟩ := rdropWhile_eq_iff.mp (trim_eq_rdropWhile text).symm
  refine ⟨isTrimmed_trim text, text.takeWhile isBlank, after, ?_,
    fun c => List.mem_takeWhile_imp, ha⟩
  rw [List.append_assoc, ← he, List.takeWhile_append_dropWhile]

theorem trim_append (hi : IsTrimmed inner) (hb : ∀ c ∈ before, isBlank c = true)
    (ha : ∀ c ∈ after, isBlank c = true) : trim (before ++ inner ++ after) = inner := by
  rw [trim_eq_rdropWhile, List.append_assoc, List.dropWhile_append_of_pos hb]
  cases inner with
  | nil =>
    rw [List.nil_append, List.dropWhile_eq_nil_iff.mpr ha]
    rfl
  | cons c rest =>
    rw [List.cons_append, List.dropWhile_cons_of_neg (by simp [hi.head c rfl])]
    exact rdropWhile_eq_iff.mpr ⟨hi.last, after, rfl, ha⟩

theorem isInner_iff : IsInner inner text ↔ trim text = inner := by
  constructor
  · rintro ⟨hi, before, after, rfl, hb, ha⟩
    exact trim_append hi hb ha
  · rintro rfl
    exact isInner_trim text

theorem trim_of_isTrimmed (h : IsTrimmed text) : trim text = text :=
  isInner_iff.mp ⟨h, [], [], by simp, nofun, nofun⟩

theorem mem_of_mem_trim (h : c ∈ trim text) : c ∈ text := by
  obtain ⟨-, before, after, ht, -, -⟩ := isInner_trim text
  rw [ht]
  exact List.mem_append_left _ (List.mem_append_right _ h)

end RegistryAuth.Text
