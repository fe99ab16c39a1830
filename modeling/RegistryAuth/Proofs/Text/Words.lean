import RegistryAuth.Proofs.Text.Split
import RegistryAuth.Proofs.Text.Trim

/-! # Words

The words of texts joined by spaces are those of the texts, one after another. A
word has no blanks, and a text without blanks is its own and only word.
-/

namespace RegistryAuth.Text

variable {text after word : List Char} {c : Char}

/-- The text has no blanks. -/
def IsUnbroken (text : List Char) : Prop :=
  ∀ c ∈ text, isBlank c = false

theorem isUnbroken_append : IsUnbroken (text ++ after) ↔ IsUnbroken text ∧ IsUnbroken after :=
  List.forall_mem_append

theorem isUnbroken_cons : IsUnbroken (c :: text) ↔ isBlank c = false ∧ IsUnbroken text :=
  List.forall_mem_cons

theorem isTrimmed_of_isUnbroken (h : IsUnbroken text) : IsTrimmed text :=
  ⟨fun c hc => h c (List.mem_of_mem_head? hc), fun c hc => h c (List.mem_of_mem_getLast? hc)⟩

section Words

theorem words_append (hc : isBlank c = true) (text after : List Char) :
    words (text ++ c :: after) = words text ++ words after := by
  rw [words, splitWhere_append hc, List.filter_append]
  rfl

theorem words_of_isUnbroken (hn : text ≠ []) (h : IsUnbroken text) : words text = [text] := by
  rw [words, splitWhere_of_forall h]
  simp [hn]

theorem isUnbroken_of_mem_words (h : word ∈ words text) : IsUnbroken word :=
  fun _ hc => (of_mem_splitWhere (List.mem_filter.mp h).1 hc).2

theorem words_intercalate (texts : List (List Char)) :
    words ([' '].intercalate texts) = texts.flatMap words := by
  induction texts with
  | nil => rfl
  | cons first rest ih =>
    cases rest with
    | nil => rw [List.intercalate_singleton, List.flatMap_singleton]
    | cons second rest =>
      rw [List.intercalate_cons_cons, List.append_assoc, List.singleton_append,
        words_append (by decide), ih]
      rfl

end Words

end RegistryAuth.Text
