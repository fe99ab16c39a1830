import RegistryAuth.Text.Split

/-! # Where texts are split

A text is split at the first separator if none stands before the cut, and at the
last one if none stands behind it. Pieces without separators are found again.
-/

namespace RegistryAuth.Text

variable {α : Type} [BEq α] [LawfulBEq α] {c separator : α} {text before after : List α}

theorem splitFirst?_cons_self : splitFirst? separator (separator :: text) = some ([], text) := by
  simp [splitFirst?]

theorem splitFirst?_cons_of_ne (h : c ≠ separator) :
    splitFirst? separator (c :: text) =
      (splitFirst? separator text).map fun (before, after) => (c :: before, after) := by
  simp only [splitFirst?, List.dropWhile_cons, List.takeWhile_cons, bne_iff_ne.mpr h, if_true]
  cases text.dropWhile (· != separator) <;> rfl

theorem splitFirst?_eq_some_iff :
    splitFirst? separator text = some (before, after) ↔
      text = before ++ separator :: after ∧ separator ∉ before := by
  induction text generalizing before with
  | nil => simp [splitFirst?]
  | cons c rest ih =>
    by_cases hc : c = separator
    · subst hc
      rw [splitFirst?_cons_self]
      cases before <;> simp +contextual [eq_comm]
    · rw [splitFirst?_cons_of_ne hc]
      cases before with
      | nil => simp [hc]
      | cons b before =>
        simp only [Option.map_eq_some_iff, Prod.exists, Prod.mk.injEq, List.cons.injEq]
        constructor
        · rintro ⟨_, _, h, ⟨rfl, rfl⟩, rfl⟩
          obtain ⟨rfl, hn⟩ := ih.mp h
          exact ⟨by simp, by simp [hn, Ne.symm hc]⟩
        · rintro ⟨h, hn⟩
          obtain ⟨rfl, rfl⟩ := List.cons.inj h
          rw [List.mem_cons, not_or] at hn
          exact ⟨before, after, ih.mpr ⟨rfl, hn.2⟩, ⟨rfl, rfl⟩, rfl⟩

theorem splitLast?_eq_some_iff :
    splitLast? separator text = some (before, after) ↔
      text = before ++ separator :: after ∧ separator ∉ after := by
  have hr : text.reverse = after.reverse ++ separator :: before.reverse ↔
      text = before ++ separator :: after := by
    rw [← List.reverse_inj]
    simp
  rw [← hr, ← List.mem_reverse, ← splitFirst?_eq_some_iff]
  simp only [splitLast?, Option.map_eq_some_iff, Prod.exists, Prod.mk.injEq]
  constructor
  · rintro ⟨_, _, h, rfl, rfl⟩
    simpa using h
  · intro h
    exact ⟨_, _, h, by simp⟩

section SplitWhere

variable {p : Char → Bool} {c : Char} {text after piece : List Char}

theorem splitWhere_of_forall (h : ∀ c ∈ text, p c = false) : splitWhere p text = [text] := by
  induction text with
  | nil => rfl
  | cons c rest ih =>
    obtain ⟨hc, hr⟩ := List.forall_mem_cons.mp h
    exact splitWhere_cons_of_neg p hc (ih hr)

theorem splitWhere_append (hc : p c = true) (text after : List Char) :
    splitWhere p (text ++ c :: after) = splitWhere p text ++ splitWhere p after := by
  induction text with
  | nil => exact splitWhere_cons_of_pos p after hc
  | cons t rest ih =>
    cases ht : p t with
    | true =>
      rw [List.cons_append, splitWhere_cons_of_pos p _ ht, splitWhere_cons_of_pos p _ ht, ih]
      rfl
    | false =>
      obtain ⟨piece, others, hr⟩ := List.exists_cons_of_ne_nil (splitWhere_ne_nil p rest)
      rw [hr] at ih
      rw [List.cons_append, splitWhere_cons_of_neg p ht ih, splitWhere_cons_of_neg p ht hr]
      rfl

/-- The pieces hold characters of the text, but none at which it is split. -/
theorem of_mem_splitWhere (hp : piece ∈ splitWhere p text) (hc : c ∈ piece) :
    c ∈ text ∧ p c = false := by
  induction text generalizing piece with
  | nil =>
    obtain rfl := List.mem_singleton.mp hp
    cases hc
  | cons t rest ih =>
    obtain ⟨first, others, hr⟩ := List.exists_cons_of_ne_nil (splitWhere_ne_nil p rest)
    have hm : ∀ piece ∈ first :: others, c ∈ piece → c ∈ t :: rest ∧ p c = false :=
      fun piece hm hc => (ih (hr ▸ hm) hc).imp_left (List.mem_cons_of_mem t)
    cases ht : p t with
    | true =>
      rw [splitWhere_cons_of_pos p rest ht, hr] at hp
      rcases List.mem_cons.mp hp with rfl | hp
      · cases hc
      · exact hm piece hp hc
    | false =>
      rw [splitWhere_cons_of_neg p ht hr] at hp
      rcases List.mem_cons.mp hp with rfl | hp
      · rcases List.mem_cons.mp hc with rfl | hc
        · exact ⟨List.mem_cons_self, ht⟩
        · exact hm first List.mem_cons_self hc
      · exact hm piece (List.mem_cons_of_mem _ hp) hc

end SplitWhere

section SplitOn

variable {separator : Char} {text after : List Char}

theorem splitOn_of_not_mem (h : separator ∉ text) : splitOn separator text = [text] :=
  splitWhere_of_forall fun _ hc => beq_false_of_ne fun he => h (he ▸ hc)

theorem exists_splitOn (separator : Char) (text : List Char) :
    ∃ piece others, splitOn separator text = piece :: others :=
  List.exists_cons_of_ne_nil (splitWhere_ne_nil (· == separator) text)

theorem splitOn_cons_self : splitOn separator (separator :: text) = [] :: splitOn separator text :=
  splitWhere_cons_of_pos _ _ (by simp)

theorem splitOn_cons_of_ne {c : Char} {piece : List Char} {others : List (List Char)}
    (hc : c ≠ separator) (h : splitOn separator text = piece :: others) :
    splitOn separator (c :: text) = (c :: piece) :: others :=
  splitWhere_cons_of_neg _ (by simpa using hc) h

theorem splitOn_append (text after : List Char) :
    splitOn separator (text ++ separator :: after) =
      splitOn separator text ++ splitOn separator after :=
  splitWhere_append (by simp) text after

theorem splitOn_append_cons (h : separator ∉ text) :
    splitOn separator (text ++ separator :: after) = text :: splitOn separator after := by
  rw [splitOn_append, splitOn_of_not_mem h]
  rfl

theorem mem_of_mem_splitOn {c : Char} {piece : List Char} (hp : piece ∈ splitOn separator text)
    (hc : c ∈ piece) : c ∈ text :=
  (of_mem_splitWhere hp hc).1

theorem not_mem_of_mem_splitOn {piece : List Char} (hp : piece ∈ splitOn separator text) :
    separator ∉ piece := by
  intro hm
  have hs := (of_mem_splitWhere hp hm).2
  simp at hs

theorem splitOn_inj : splitOn separator text = splitOn separator after ↔ text = after := by
  refine ⟨fun h => ?_, fun h => h ▸ rfl⟩
  rw [← intercalate_splitOn separator text, h, intercalate_splitOn]

theorem intercalate_append {pieces others : List (List Char)} {piece : List Char}
    (hp : pieces ≠ []) :
    [separator].intercalate (pieces ++ piece :: others) =
      [separator].intercalate pieces ++ separator :: [separator].intercalate (piece :: others) := by
  induction pieces with
  | nil => exact absurd rfl hp
  | cons first rest ih =>
    cases rest with
    | nil => simp [List.intercalate]
    | cons second rest =>
      have ih := ih (List.cons_ne_nil _ _)
      simp only [List.intercalate, List.cons_append, List.intersperse_cons_cons,
        List.flatten_cons, List.append_assoc] at ih ⊢
      rw [ih]

theorem eq_or_mem_of_mem_intercalate {c : Char} {pieces : List (List Char)}
    (h : c ∈ [separator].intercalate pieces) : c = separator ∨ ∃ piece ∈ pieces, c ∈ piece := by
  induction pieces with
  | nil => cases h
  | cons first rest ih =>
    cases rest with
    | nil => exact .inr ⟨first, List.mem_cons_self, by simpa using h⟩
    | cons second rest =>
      rw [List.intercalate_cons_cons, List.mem_append, List.mem_append] at h
      rcases h with (h | h) | h
      · exact .inr ⟨first, List.mem_cons_self, h⟩
      · exact .inl (List.mem_singleton.mp h)
      · exact (ih h).imp_right fun ⟨piece, hm, hc⟩ => ⟨piece, List.mem_cons_of_mem _ hm, hc⟩

theorem splitOn_intercalate {pieces : List (List Char)} (hn : pieces ≠ [])
    (h : ∀ piece ∈ pieces, separator ∉ piece) :
    splitOn separator ([separator].intercalate pieces) = pieces := by
  induction pieces with
  | nil => exact absurd rfl hn
  | cons first rest ih =>
    obtain ⟨hf, hr⟩ := List.forall_mem_cons.mp h
    cases rest with
    | nil => simpa using splitOn_of_not_mem hf
    | cons second rest =>
      rw [List.intercalate_cons_cons, List.append_assoc, List.singleton_append,
        splitOn_append_cons hf, ih (List.cons_ne_nil _ _) hr]

/-- A map that keeps the separators where they are works piece by piece. -/
theorem splitOn_map {f : Char → Char} (hf : ∀ c, f c = separator ↔ c = separator)
    (text : List Char) :
    splitOn separator (text.map f) = (splitOn separator text).map (List.map f) := by
  induction text with
  | nil => rfl
  | cons c rest ih =>
    by_cases hc : c = separator
    · subst hc
      rw [List.map_cons, (hf c).mpr rfl, splitOn_cons_self, splitOn_cons_self, ih]
      rfl
    · obtain ⟨piece, others, hr⟩ := exists_splitOn separator rest
      rw [hr] at ih
      rw [List.map_cons, splitOn_cons_of_ne (mt (hf c).mp hc) ih, splitOn_cons_of_ne hc hr]
      rfl

/-- Fields behind separators are found again. -/
theorem splitOn_flatMap_cons {first : List Char} {fields : List (List Char)}
    (hf : separator ∉ first) (h : ∀ field ∈ fields, separator ∉ field) :
    splitOn separator (first ++ fields.flatMap (separator :: ·)) = first :: fields := by
  induction fields generalizing first with
  | nil => simpa using splitOn_of_not_mem hf
  | cons field rest ih =>
    rw [List.flatMap_cons, List.cons_append, splitOn_append_cons hf,
      ih (h field List.mem_cons_self) fun other hm => h other (List.mem_cons_of_mem _ hm)]

end SplitOn

end RegistryAuth.Text
