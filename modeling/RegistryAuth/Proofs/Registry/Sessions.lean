import RegistryAuth.Registry

/-! # Sessions with a registry

However registrations and questions follow one another, the first registration of
a name decides what it stands for from then on. Names stay in ascending order, a
refused registration and a question change nothing, and every answer is the one
that the registrations before it call for.
-/

namespace RegistryAuth.Registry

variable {α : Type} {registry : Registry α} {name other kind : String} {decoder : Decoder α}
  {entries : List (String × Decoder α)} {step : Step α} {before rest steps : List (Step α)}

/-! Entries -/

theorem mem_insertEntry_iff {entry : String × Decoder α} :
    entry ∈ insertEntry name decoder entries ↔ entry = (name, decoder) ∨ entry ∈ entries := by
  induction entries with
  | nil => simp [insertEntry]
  | cons first rest ih =>
    simp only [insertEntry]
    split
    next => simp
    next =>
      simp only [List.mem_cons, ih]
      exact or_left_comm

theorem insertEntry_ascending (h : entries.Pairwise fun a b => a.1 < b.1)
    (hn : name ∉ entries.map (·.1)) :
    (insertEntry name decoder entries).Pairwise fun a b => a.1 < b.1 := by
  induction entries with
  | nil => exact List.pairwise_singleton _ _
  | cons first rest ih =>
    obtain ⟨hf, hr⟩ := List.pairwise_cons.mp h
    rw [List.map_cons, List.mem_cons, not_or] at hn
    obtain ⟨hne, hn⟩ := hn
    simp only [insertEntry]
    split
    next hl =>
      refine List.pairwise_cons.mpr ⟨fun entry hm => ?_, h⟩
      rcases List.mem_cons.mp hm with rfl | hm
      · exact hl
      · exact String.lt_trans hl (hf entry hm)
    next hl =>
      refine List.pairwise_cons.mpr ⟨fun entry hm => ?_, ih hr hn⟩
      rcases mem_insertEntry_iff.mp hm with rfl | hm
      · by_cases hg : first.1 < name
        · exact hg
        · exact absurd (String.le_antisymm (String.not_lt.mp hg) (String.not_lt.mp hl)) hne
      · exact hf entry hm

theorem mem_map_fst_iff : name ∈ entries.map (·.1) ↔ (entries.lookup name).isSome = true := by
  rw [List.lookup_isSome_iff, List.mem_map]
  constructor
  · rintro ⟨entry, hm, rfl⟩
    exact ⟨entry, hm, BEq.rfl⟩
  · rintro ⟨entry, hm, he⟩
    exact ⟨entry, hm, (eq_of_beq he).symm⟩

theorem lookup_insertEntry (hn : name ∉ entries.map (·.1)) :
    (insertEntry name decoder entries).lookup other =
      (entries.lookup other).or (if name = other then some decoder else none) := by
  induction entries with
  | nil =>
    by_cases ho : name = other
    · simp [insertEntry, ho]
    · simp [insertEntry, List.lookup_cons, ho, beq_false_of_ne (Ne.symm ho)]
  | cons first rest ih =>
    have hl : (first :: rest).lookup name = none := by
      rwa [mem_map_fst_iff, Bool.not_eq_true, Option.isSome_eq_false_iff, Option.isNone_iff_eq_none]
        at hn
    rw [List.map_cons, List.mem_cons, not_or] at hn
    simp only [insertEntry]
    split
    next =>
      rw [List.lookup_cons]
      by_cases ho : name = other
      · subst ho
        simp [hl]
      · simp [ho, Ne.symm ho, beq_false_of_ne]
    next =>
      rw [List.lookup_cons, List.lookup_cons]
      cases other == first.1
      · exact ih hn.2
      · rfl

/-! Registration -/

theorem mem_names_iff : name ∈ registry.names ↔ (registry.resolve? name).isSome = true :=
  mem_map_fst_iff

/-- A registration is refused for an empty name, and for a name that is taken. -/
theorem register_eq (registry : Registry α) (name : String) (decoder : Decoder α) :
    (name = "" ∧ registry.register name decoder = .error (.emptyName registry.kind)) ∨
    (name ≠ "" ∧ name ∈ registry.names ∧
      registry.register name decoder = .error (.nameTaken registry.kind name)) ∨
    (name ≠ "" ∧ name ∉ registry.names ∧
      registry.register name decoder =
        .ok { registry with entries := insertEntry name decoder registry.entries }) := by
  unfold register
  by_cases he : name = "" <;> by_cases hm : name ∈ registry.names <;> simp [he, hm]

/-- What a step registers under a name, if the name is still free. -/
def Step.registers? (name : String) : Step α → Option (Decoder α)
  | .register other decoder => if other = name ∧ name ≠ "" then some decoder else none
  | _ => none

theorem resolve?_perform :
    (registry.perform step).2.resolve? name =
      (registry.resolve? name).or (step.registers? name) := by
  cases step with
  | register other decoder =>
    simp only [perform, Step.registers?]
    rcases registry.register_eq other decoder with ⟨rfl, h⟩ | ⟨ho, hm, h⟩ | ⟨ho, hm, h⟩ <;>
      simp only [h]
    · rw [if_neg fun hc => hc.2 hc.1.symm, Option.or_none]
    · by_cases hn : other = name
      · subst hn
        obtain ⟨found, hf⟩ := Option.isSome_iff_exists.mp (mem_names_iff.mp hm)
        rw [hf, Option.some_or]
      · rw [if_neg fun hc => hn hc.1, Option.or_none]
    · have hc : (other = name ∧ name ≠ "") ↔ other = name :=
        ⟨And.left, fun hn => ⟨hn, hn ▸ ho⟩⟩
      simp only [hc]
      exact lookup_insertEntry hm
  | resolve => exact (Option.or_none).symm
  | names => exact (Option.or_none).symm
  | instantiate => exact (Option.or_none).symm

theorem isSome_registers?_iff :
    (step.registers? name).isSome = true ↔
      name ≠ "" ∧ ∃ decoder, .register name decoder = step := by
  cases step with
  | register other decoder =>
    by_cases hn : other = name
    · subst hn
      by_cases he : other = "" <;> simp [Step.registers?, he]
    · simp [Step.registers?, hn, Ne.symm hn]
  | _ => simp [Step.registers?]

theorem perform_register_refused_iff :
    (∃ e, (registry.perform (.register name decoder)).1 = .refused e) ↔
      name = "" ∨ name ∈ registry.names := by
  simp only [perform]
  rcases registry.register_eq name decoder with ⟨rfl, h⟩ | ⟨hn, hm, h⟩ | ⟨hn, hm, h⟩
  · simp [h]
  · simp [h, hm]
  · simp [h, hn, hm]

/-- Only a registration that is accepted changes the registry. -/
theorem perform_eq_self (h : (registry.perform step).1 ≠ .registered) :
    (registry.perform step).2 = registry := by
  cases step with
  | register name decoder =>
    simp only [perform] at h ⊢
    rcases registry.register_eq name decoder with ⟨-, hr⟩ | ⟨-, -, hr⟩ | ⟨-, -, hr⟩ <;>
      simp [hr] at h ⊢
  | _ => rfl

theorem names_ascending_perform (h : registry.names.Pairwise (· < ·)) :
    (registry.perform step).2.names.Pairwise (· < ·) := by
  cases step with
  | register name decoder =>
    simp only [perform]
    rcases registry.register_eq name decoder with ⟨-, hr⟩ | ⟨-, -, hr⟩ | ⟨-, hm, hr⟩ <;>
      simp only [hr]
    · exact h
    · exact h
    · exact List.pairwise_map.mpr (insertEntry_ascending (List.pairwise_map.mp h) hm)
  | _ => exact h

theorem mem_names_perform_iff :
    name ∈ (registry.perform step).2.names ↔ name ∈ registry.names ∨
      ∃ decoder, (.register name decoder, .registered) = (step, (registry.perform step).1) := by
  by_cases h : (registry.perform step).1 = .registered
  · cases step with
    | register other decoder =>
      rcases registry.register_eq other decoder with ⟨-, hr⟩ | ⟨-, -, hr⟩ | ⟨-, -, hr⟩
      · simp [perform, hr] at h
      · simp [perform, hr] at h
      · simp only [perform, hr, names, List.mem_map, mem_insertEntry_iff]
        grind
    | _ => cases h
  · rw [perform_eq_self h]
    simp [Ne.symm h]

@[simp]
theorem kind_perform : (registry.perform step).2.kind = registry.kind := by
  cases step with
  | register name decoder =>
    simp only [perform]
    rcases registry.register_eq name decoder with ⟨-, hr⟩ | ⟨-, -, hr⟩ | ⟨-, -, hr⟩ <;>
      simp only [hr]
  | _ => rfl

/-! Sessions -/

theorem after_append : registry.after (before ++ rest) = (registry.after before).after rest := by
  induction before generalizing registry with
  | nil => rfl
  | cons step before ih => exact ih

theorem answers_append :
    registry.answers (before ++ rest) =
      registry.answers before ++ (registry.after before).answers rest := by
  induction before generalizing registry with
  | nil => rfl
  | cons step before ih => exact congrArg _ ih

@[simp]
theorem length_answers (registry : Registry α) (steps : List (Step α)) :
    (registry.answers steps).length = steps.length := by
  induction steps generalizing registry with
  | nil => rfl
  | cons step rest ih => exact congrArg _ (ih _)

theorem getElem?_answers :
    (registry.answers (before ++ step :: rest))[before.length]? =
      some ((registry.after before).perform step).1 := by
  rw [answers_append, List.getElem?_append_right (Nat.le_of_eq (length_answers _ _)),
    length_answers, Nat.sub_self]
  rfl

@[simp]
theorem kind_after : (registry.after steps).kind = registry.kind := by
  induction steps generalizing registry with
  | nil => rfl
  | cons step rest ih => exact ih.trans kind_perform

theorem names_ascending_after (h : registry.names.Pairwise (· < ·)) :
    (registry.after steps).names.Pairwise (· < ·) := by
  induction steps generalizing registry with
  | nil => exact h
  | cons step rest ih => exact ih (names_ascending_perform h)

/-- A name stands for what it stood for before the session, else for what was first registered
under it. -/
theorem resolve?_after :
    (registry.after steps).resolve? name =
      (registry.resolve? name).or (steps.findSome? (Step.registers? name)) := by
  induction steps generalizing registry with
  | nil => exact (Option.or_none).symm
  | cons step rest ih =>
    rw [after, ih, resolve?_perform, Option.or_assoc, List.findSome?_cons]
    cases step.registers? name <;> rfl

theorem mem_names_after_iff :
    name ∈ (registry.after steps).names ↔ name ∈ registry.names ∨
      ∃ decoder, (.register name decoder, .registered) ∈ steps.zip (registry.answers steps) := by
  induction steps generalizing registry with
  | nil => simp [after, answers]
  | cons step rest ih =>
    rw [after, ih, mem_names_perform_iff, answers, List.zip_cons_cons]
    simp only [List.mem_cons, exists_or, or_assoc]

theorem zip_answers_append :
    before.zip (registry.answers (before ++ rest)) = before.zip (registry.answers before) := by
  have h : (before ++ []).zip (registry.answers before ++ (registry.after before).answers rest) =
      _ := List.zip_append (length_answers registry before).symm
  rwa [List.append_nil, ← answers_append, List.zip_nil_left, List.append_nil] at h

/-- A step that changes nothing can be left out. All other answers stay as they are. -/
theorem after_of_unchanged (h : ((registry.after before).perform step).2 = registry.after before) :
    registry.after (before ++ step :: rest) = registry.after (before ++ rest) := by
  rw [after_append, after, h, after_append]

theorem answers_of_unchanged
    (h : ((registry.after before).perform step).2 = registry.after before) :
    registry.answers (before ++ rest) =
      (registry.answers (before ++ step :: rest)).eraseIdx before.length := by
  rw [answers_append, answers_append, answers, h,
    List.eraseIdx_append_of_length_le (Nat.le_of_eq (length_answers _ _)), length_answers, Nat.sub_self]
  rfl

/-- In a session with a new registry, a registration is refused exactly if its name is empty or was
registered before. What is refused or only asked changes nothing, neither the registry nor any other
answer. In the end each name stands for what was first registered under it, and all other names are
unknown. -/
theorem first_registration_counts (kind : String) (steps : List (Step α)) :
    (∀ before name decoder rest, steps = before ++ .register name decoder :: rest →
      ((∃ e, ((empty kind).answers steps)[before.length]? = some (.refused e)) ↔
        name = "" ∨ ∃ earlier,
          (.register name earlier, .registered) ∈ before.zip ((empty kind).answers steps))) ∧
    (∀ before step rest, steps = before ++ step :: rest →
      (∃ e, ((empty kind).answers steps)[before.length]? = some (.refused e)) ∨
        (∀ name decoder, step ≠ .register name decoder) →
      (empty kind).after (before ++ [step]) = (empty kind).after before ∧
        (empty kind).after steps = (empty kind).after (before ++ rest) ∧
        (empty kind).answers (before ++ rest) =
          ((empty kind).answers steps).eraseIdx before.length) ∧
    (∀ name, ((empty kind).after steps).resolve? name =
      steps.findSome? (Step.registers? name)) ∧
    ((empty kind).after steps).names.Pairwise (· < ·) ∧
    (∀ name, name ∈ ((empty kind).after steps).names ↔
      name ≠ "" ∧ ∃ decoder, .register name decoder ∈ steps) ∧
    ∀ name settings,
      (name ∉ ((empty kind).after steps).names →
        ∃ e, ((empty kind).after steps).instantiate name settings = .error e ∧
          e = .unknownComponentType kind name ((empty kind).after steps).names ∧
          e.message = "unknown " ++ kind ++ " type " ++ Text.quoted name ++ " (available: " ++
            ", ".intercalate ((empty kind).after steps).names ++ ")") ∧
      ∀ decoder, steps.findSome? (Step.registers? name) = some decoder →
        ((empty kind).after steps).instantiate name settings =
          (decoder settings).mapError fun e =>
            .invalidComponent kind (name ++ ": " ++ e.message) := by
  have hr : ∀ name, ((empty kind).after steps).resolve? name =
      steps.findSome? (Step.registers? name) := fun name => resolve?_after.trans (Option.none_or)
  refine ⟨?_, ?_, hr, names_ascending_after .nil, fun name => ?_, fun name settings => ⟨?_, ?_⟩⟩
  · rintro before name decoder rest rfl
    rw [getElem?_answers, zip_answers_append]
    simp only [Option.some.injEq, perform_register_refused_iff, mem_names_after_iff]
    simp [empty, names]
  · rintro before step rest rfl h
    rw [getElem?_answers] at h
    have hs : (((empty kind).after before).perform step).2 = (empty kind).after before := by
      apply perform_eq_self
      rcases h with ⟨e, he⟩ | hn
      · rw [Option.some.inj he]
        exact nofun
      · cases step with
        | register name decoder => exact absurd rfl (hn name decoder)
        | _ => exact nofun
    refine ⟨?_, after_of_unchanged hs, answers_of_unchanged hs⟩
    rw [after_append]
    exact hs
  · rw [mem_names_iff, hr, List.findSome?_isSome_iff]
    simp only [isSome_registers?_iff]
    grind
  · intro hn
    rw [mem_names_iff, Bool.not_eq_true, Option.isSome_eq_false_iff, Option.isNone_iff_eq_none] at hn
    refine ⟨_, ?_, rfl, rfl⟩
    simp only [instantiate, hn, kind_after]
    rfl
  · intro decoder hd
    simp only [instantiate, hr, hd, kind_after]
    rfl

end RegistryAuth.Registry
