import Mathlib.Data.List.Forall2
import RegistryAuth.Proofs.Scope.Inclusion
import RegistryAuth.Proofs.Text.Words

/-! # Merged scopes

Reading a list of values reads its words and merges the scopes one after another.
Merging neither adds nor loses a right, so that the rights of a list are those of
its words.
-/

namespace RegistryAuth.Scope

variable {scope : Scope} {scopes others held : List Scope} {text : String}
  {words values more : List String} {resourceType resourceName action : String}

/-- The scope names the action on the resource. -/
def Names (scope : Scope) (resourceType resourceName action : String) : Prop :=
  scope.resourceType = resourceType ∧ scope.resourceName = resourceName ∧ action ∈ scope.actions

theorem not_allows_nil : ¬ Allows [] resourceType resourceName action := by
  simp [Allows]

theorem allows_cons_iff :
    Allows (scope :: scopes) resourceType resourceName action ↔
      scope.Names resourceType resourceName action ∨
        Allows scopes resourceType resourceName action := by
  simp [Allows, Names]

theorem allows_append_iff :
    Allows (scopes ++ others) resourceType resourceName action ↔
      Allows scopes resourceType resourceName action ∨
        Allows others resourceType resourceName action := by
  simp only [Allows, List.mem_append, or_and_right, exists_or]

theorem mergeActions_cons (held : List String) (next : String) (more : List String) :
    mergeActions held (next :: more) =
      mergeActions (if next.isEmpty || held.contains next then held else held ++ [next]) more :=
  rfl

theorem mem_mergeActions_iff {actions : List String} :
    action ∈ mergeActions actions more ↔ action ∈ actions ∨ (action ∈ more ∧ action ≠ "") := by
  induction more generalizing actions with
  | nil => simp [mergeActions]
  | cons next more ih =>
    rw [mergeActions_cons, ih]
    simp only [Bool.or_eq_true, String.isEmpty_iff, List.contains_iff_mem]
    split <;> grind

theorem parse_eq_ok_iff : parse text = .ok scope ↔ ofText? text.toList = some scope := by
  cases h : ofText? text.toList <;> simp [parse, h]

/-- The type ends at the first colon and the actions begin behind the last one. -/
theorem ofText?_eq_some_iff {text : List Char} :
    ofText? text = some scope ↔ ∃ type name actions,
      text = type ++ ':' :: (name ++ ':' :: actions) ∧ ':' ∉ type ∧ ':' ∉ actions ∧
        type ≠ [] ∧ name ≠ [] ∧
        ofActions (String.ofList type) (String.ofList name)
          ((Text.splitOn ',' actions).map fun action => String.ofList (Text.trim action)) =
            scope := by
  simp only [ofText?, Option.bind_eq_bind, Option.bind_eq_some_iff]
  constructor
  · rintro ⟨⟨type, rest⟩, ht, ⟨name, actions⟩, hn, hs⟩
    obtain ⟨rfl, hc⟩ := Text.splitFirst?_eq_some_iff.mp ht
    obtain ⟨rfl, ha⟩ := Text.splitLast?_eq_some_iff.mp hn
    split at hs
    next => cases hs
    next he =>
      cases hs
      obtain ⟨hte, hne⟩ : type ≠ [] ∧ name ≠ [] := by simpa using he
      exact ⟨type, name, actions, rfl, hc, ha, hte, hne, rfl⟩
  · rintro ⟨type, name, actions, rfl, hc, ha, hte, hne, hs⟩
    refine ⟨_, Text.splitFirst?_eq_some_iff.mpr ⟨rfl, hc⟩, _,
      Text.splitLast?_eq_some_iff.mpr ⟨rfl, ha⟩, ?_⟩
    rw [if_neg (by simp [hte, hne]), hs]

theorem not_mem_actions_of_parse (h : parse text = .ok scope) : "" ∉ scope.actions := by
  obtain ⟨type, name, actions, -, -, -, -, -, rfl⟩ := ofText?_eq_some_iff.mp (parse_eq_ok_iff.mp h)
  simp [ofActions, mem_mergeActions_iff]

/-- A merge adds the rights of the new scope and changes no other. -/
theorem allows_insertMerged_iff (h : "" ∉ scope.actions) :
    Allows (insertMerged scopes scope) resourceType resourceName action ↔
      Allows scopes resourceType resourceName action ∨
        scope.Names resourceType resourceName action := by
  induction scopes with
  | nil => simp [insertMerged, allows_cons_iff, not_allows_nil]
  | cons held others ih =>
    by_cases hs : held.sameResource scope = true
    · obtain ⟨ht, hn⟩ : held.resourceType = scope.resourceType ∧
          held.resourceName = scope.resourceName := by simpa [sameResource] using hs
      have hm : action ∈ mergeActions held.actions scope.actions ↔
          action ∈ held.actions ∨ action ∈ scope.actions := by
        rw [mem_mergeActions_iff]
        grind
      rw [insertMerged, if_pos hs, allows_cons_iff, allows_cons_iff, Names, Names, Names, hm,
        ht, hn]
      grind
    · rw [insertMerged, if_neg hs, allows_cons_iff, ih, allows_cons_iff, or_assoc]

theorem allows_foldl_insertMerged_iff (h : ∀ scope ∈ others, "" ∉ scope.actions) :
    Allows (others.foldl insertMerged scopes) resourceType resourceName action ↔
      Allows scopes resourceType resourceName action ∨
        Allows others resourceType resourceName action := by
  induction others generalizing scopes with
  | nil => simp [not_allows_nil]
  | cons scope others ih =>
    rw [List.foldl_cons, ih fun other hm => h other (List.mem_cons_of_mem _ hm),
      allows_insertMerged_iff (h scope List.mem_cons_self), allows_cons_iff, or_assoc]

/-- The scopes that words stand for. -/
def Reads (words : List String) (read : List Scope) : Prop :=
  List.Forall₂ (fun word scope => parse word = .ok scope) words read

theorem parseWords_eq_ok_iff :
    parseWords held words = .ok scopes ↔
      ∃ read, Reads words read ∧ read.foldl insertMerged held = scopes := by
  induction words generalizing held with
  | nil => simp [parseWords, Reads]
  | cons word words ih =>
    unfold Reads at ih ⊢
    cases hp : parse word with
    | error e => simp [parseWords, hp, List.forall₂_cons_left_iff]
    | ok scope => simp [parseWords, hp, List.forall₂_cons_left_iff, ih]

theorem parse_eq_error {e : AuthError} (h : parse text = .error e) : e = .malformedScope text := by
  unfold parse at h
  split at h <;> cases h
  rfl

/-- The first malformed word keeps a list from being read. -/
theorem parseWords_eq_error_iff {e : AuthError} :
    parseWords held words = .error e ↔
      ∃ before word after, words = before ++ word :: after ∧
        (∀ earlier ∈ before, ∃ scope, parse earlier = .ok scope) ∧ parse word = .error e := by
  induction words generalizing held with
  | nil => simp [parseWords]
  | cons word rest ih =>
    rw [parseWords]
    constructor
    · intro h
      cases hp : parse word with
      | error cause =>
        rw [hp] at h
        cases h
        exact ⟨[], word, rest, rfl, nofun, hp⟩
      | ok scope =>
        rw [hp] at h
        obtain ⟨before, other, after, rfl, hb, he⟩ := ih.mp h
        exact ⟨word :: before, other, after, rfl, List.forall_mem_cons.mpr ⟨⟨scope, hp⟩, hb⟩, he⟩
    · rintro ⟨before, other, after, hw, hb, he⟩
      cases before with
      | nil =>
        obtain ⟨rfl, rfl⟩ := List.cons.inj hw
        rw [he]
      | cons first before =>
        obtain ⟨rfl, rfl⟩ := List.cons.inj hw
        obtain ⟨⟨scope, hp⟩, hb⟩ := List.forall_mem_cons.mp hb
        rw [hp]
        exact ih.mpr ⟨before, other, after, rfl, hb, he⟩

theorem parseWords_eq_error {e : AuthError} (h : parseWords held words = .error e) :
    ∃ word ∈ words, e = .malformedScope word := by
  obtain ⟨before, word, after, rfl, -, he⟩ := parseWords_eq_error_iff.mp h
  exact ⟨word, by simp, parse_eq_error he⟩

/-- The words of several values, in order. -/
def wordsOf (values : List String) : List String :=
  values.flatMap fun value => (Text.words value.toList).map String.ofList

theorem parseAll_eq_ok_iff :
    parseAll values = .ok scopes ↔
      ∃ read, Reads (wordsOf values) read ∧ read.foldl insertMerged [] = scopes :=
  parseWords_eq_ok_iff

theorem wordsOf_intercalate (texts : List String) :
    wordsOf [" ".intercalate texts] = wordsOf texts := by
  have ht : (" ".intercalate texts).toList = [' '].intercalate (texts.map String.toList) := by
    rw [String.toList_intercalate]
    rfl
  rw [wordsOf, List.flatMap_singleton, ht, Text.words_intercalate, List.flatMap_map,
    List.map_flatMap]
  rfl

/-- Joined by single spaces, several values are read like the values themselves. -/
theorem parseAll_intercalate (texts : List String) :
    parseAll [" ".intercalate texts] = parseAll texts := by
  change parseWords [] (wordsOf [" ".intercalate texts]) = parseWords [] (wordsOf texts)
  rw [wordsOf_intercalate]

theorem Reads.not_mem_actions {read : List Scope} (h : Reads words read) :
    ∀ scope ∈ read, "" ∉ scope.actions := by
  induction h with
  | nil => exact nofun
  | cons hp _ ih => exact List.forall_mem_cons.mpr ⟨not_mem_actions_of_parse hp, ih⟩

/-- Values read together give the rights of both. -/
theorem parseAll_append (hv : parseAll values = .ok scopes) (hm : parseAll more = .ok others) :
    ∃ merged, parseAll (values ++ more) = .ok merged ∧
      ∀ resourceType resourceName action,
        Allows merged resourceType resourceName action ↔
          Allows scopes resourceType resourceName action ∨
            Allows others resourceType resourceName action := by
  obtain ⟨first, hf, rfl⟩ := parseAll_eq_ok_iff.mp hv
  obtain ⟨second, hs, rfl⟩ := parseAll_eq_ok_iff.mp hm
  have hr : Reads (wordsOf (values ++ more)) (first ++ second) := by
    rw [wordsOf, List.flatMap_append]
    exact List.rel_append hf hs
  refine ⟨_, parseAll_eq_ok_iff.mpr ⟨_, hr, rfl⟩, fun resourceType resourceName action => ?_⟩
  simp only [allows_foldl_insertMerged_iff hr.not_mem_actions,
    allows_foldl_insertMerged_iff hf.not_mem_actions,
    allows_foldl_insertMerged_iff hs.not_mem_actions, allows_append_iff,
    not_allows_nil, false_or]

end RegistryAuth.Scope
