import RegistryAuth.Proofs.Scope.Grammar

/-! # Gathered scopes

Merging scopes one after another gathers them by resource. Each resource stands
where it was first named, with all actions that were named on it.
-/

namespace RegistryAuth.Scope

variable {scope other : Scope} {scopes read : List Scope} {words values : List String}

def resource (scope : Scope) : String × String :=
  (scope.resourceType, scope.resourceName)

theorem sameResource_iff :
    scope.sameResource other = true ↔ scope.resource = other.resource := by
  simp [sameResource, resource]

/-- All that the scopes name on one resource. -/
def gatheredAt (scopes : List Scope) (place : String × String) : Scope :=
  ⟨place.1, place.2,
    firstSeen ((scopes.filter fun scope => scope.resource = place).flatMap Scope.actions)⟩

/-- One scope for each resource, in the order of first appearance. -/
def gathered (scopes : List Scope) : List Scope :=
  (scopes.map resource).eraseDups.map (gatheredAt scopes)

section Insertion

theorem insertMerged_of_not_mem (h : scope.resource ∉ scopes.map resource) :
    insertMerged scopes scope = scopes ++ [scope] := by
  induction scopes with
  | nil => rfl
  | cons first rest ih =>
    rw [List.map_cons, List.mem_cons, not_or] at h
    rw [insertMerged, if_neg fun hs => h.1 (sameResource_iff.mp hs).symm, ih h.2]
    rfl

/-- Where resources are named once, a merge changes the scope on its own resource only. -/
theorem insertMerged_of_mem (hn : (scopes.map resource).Nodup)
    (hm : scope.resource ∈ scopes.map resource) :
    insertMerged scopes scope = scopes.map fun held =>
      if held.resource = scope.resource then
        { held with actions := mergeActions held.actions scope.actions }
      else held := by
  induction scopes with
  | nil => cases hm
  | cons first rest ih =>
    obtain ⟨hf, hr⟩ := List.nodup_cons.mp hn
    rw [insertMerged, List.map_cons]
    by_cases hs : first.resource = scope.resource
    · have hk : ∀ held ∈ rest, held.resource ≠ scope.resource :=
        fun held hh he => hf (hs ▸ he ▸ List.mem_map_of_mem hh)
      rw [if_pos (sameResource_iff.mpr hs), if_pos hs,
        List.map_congr_left fun held hh => if_neg (hk held hh), List.map_id']
    · have hm : scope.resource ∈ rest.map resource :=
        (List.mem_cons.mp hm).resolve_left (Ne.symm hs)
      rw [if_neg (mt sameResource_iff.mp hs), if_neg hs, ih hr hm]

end Insertion

section Gathered

theorem map_resource_gathered (scopes : List Scope) :
    (gathered scopes).map resource = (scopes.map resource).eraseDups := by
  rw [gathered, List.map_map]
  exact List.map_id _

theorem nodup_map_resource_gathered (scopes : List Scope) :
    ((gathered scopes).map resource).Nodup := by
  rw [map_resource_gathered]
  exact nodup_eraseDups _

/-- One more scope adds to what is gathered on its own resource only. -/
theorem gatheredAt_concat (scopes : List Scope) (scope : Scope) (place : String × String) :
    gatheredAt (scopes ++ [scope]) place =
      if place = scope.resource then
        { gatheredAt scopes place with
          actions := mergeActions (gatheredAt scopes place).actions scope.actions }
      else gatheredAt scopes place := by
  by_cases h : place = scope.resource
  · simp [gatheredAt, h, mergeActions_firstSeen]
  · simp [gatheredAt, h, Ne.symm h]

theorem gatheredAt_concat_of_not_mem (h : scope.resource ∉ scopes.map resource)
    (hs : firstSeen scope.actions = scope.actions) :
    gatheredAt (scopes ++ [scope]) scope.resource = scope := by
  have hf : scopes.filter (fun held => held.resource = scope.resource) = [] := by
    rw [List.filter_eq_nil_iff]
    exact fun held hh he => h (of_decide_eq_true he ▸ List.mem_map_of_mem hh)
  rw [gatheredAt_concat, if_pos rfl, gatheredAt, hf, List.flatMap_nil, mergeActions_firstSeen,
    List.nil_append, hs]
  rfl

theorem insertMerged_gathered (hs : firstSeen scope.actions = scope.actions) :
    insertMerged (gathered scopes) scope = gathered (scopes ++ [scope]) := by
  have hr : scope.resource ∈ (gathered scopes).map resource ↔
      scope.resource ∈ scopes.map resource := by
    rw [map_resource_gathered, List.mem_eraseDups]
  -- A scope joins its resource where that stands, or else it begins a new one at the end.
  by_cases h : scope.resource ∈ scopes.map resource
  · rw [insertMerged_of_mem (nodup_map_resource_gathered scopes) (hr.mpr h), gathered, gathered,
      List.map_append, List.map_singleton, eraseDups_concat,
      if_pos (List.contains_iff_mem.mpr h), List.map_map]
    exact List.map_congr_left fun place _ => (gatheredAt_concat scopes scope place).symm
  · rw [insertMerged_of_not_mem (mt hr.mp h), gathered, gathered, List.map_append,
      List.map_singleton, eraseDups_concat, if_neg (mt List.contains_iff_mem.mp h),
      List.map_append, List.map_singleton, gatheredAt_concat_of_not_mem h hs]
    refine congrArg (· ++ [scope]) (List.map_congr_left fun place hp => ?_)
    have hn : place ≠ scope.resource := fun he => h (he ▸ List.mem_eraseDups.mp hp)
    rw [gatheredAt_concat, if_neg hn]

/-- Merged one after another, scopes are gathered. -/
theorem foldl_insertMerged (h : ∀ scope ∈ scopes, firstSeen scope.actions = scope.actions) :
    scopes.foldl insertMerged [] = gathered scopes := by
  -- From the right, so that what is gathered so far is the induction hypothesis.
  induction scopes using List.reverseRecOn with
  | nil => rfl
  | append_singleton scopes scope ih =>
    obtain ⟨hs, hl⟩ := List.forall_mem_append.mp h
    rw [List.foldl_append, ih hs]
    exact insertMerged_gathered (hl scope List.mem_cons_self)

theorem gathered_eq_self (hn : (scopes.map resource).Nodup)
    (h : ∀ scope ∈ scopes, firstSeen scope.actions = scope.actions) :
    gathered scopes = scopes := by
  induction scopes using List.reverseRecOn with
  | nil => rfl
  | append_singleton scopes scope ih =>
    obtain ⟨hs, hl⟩ := List.forall_mem_append.mp h
    rw [List.map_append, List.nodup_append] at hn
    rw [← insertMerged_gathered (hl scope List.mem_cons_self), ih hn.1 hs, insertMerged_of_not_mem]
    exact fun hm => hn.2.2 _ hm _ List.mem_cons_self rfl

/-- The resources come in the order in which they were first named, and each with the actions named
on it in the order in which these were first named. -/
structure Gathers (scopes read : List Scope) : Prop where
  resources : scopes.map resource = (read.map resource).eraseDups
  actions : ∀ scope ∈ scopes, scope.actions =
    ((read.filter fun part => part.resource = scope.resource).flatMap Scope.actions).eraseDups

theorem gathers_iff (h : ∀ scope ∈ read, "" ∉ scope.actions) :
    Gathers scopes read ↔ gathered read = scopes := by
  have hf (place : String × String) : (gatheredAt read place).actions =
      ((read.filter fun part => part.resource = place).flatMap Scope.actions).eraseDups := by
    refine firstSeen_eq_eraseDups fun hm => ?_
    obtain ⟨scope, hs, ha⟩ := List.mem_flatMap.mp hm
    exact h scope (List.mem_filter.mp hs).1 ha
  constructor
  · intro hg
    rw [gathered, ← hg.resources, List.map_map]
    refine (List.map_congr_left fun scope hm => ?_).trans (List.map_id' scopes)
    change ⟨scope.resourceType, scope.resourceName, (gatheredAt read scope.resource).actions⟩ = scope
    rw [hf, ← hg.actions scope hm]
  · rintro rfl
    refine ⟨map_resource_gathered read, fun scope hm => ?_⟩
    obtain ⟨place, -, rfl⟩ := List.mem_map.mp hm
    exact hf place

end Gathered

section Values

theorem Reads.isReadable (h : Reads words read) : ∀ scope ∈ read, scope.IsReadable := by
  induction h with
  | nil => exact nofun
  | cons hp _ ih => exact List.forall_mem_cons.mpr ⟨.of_parse hp, ih⟩

theorem Reads.exists_of_mem (h : Reads words read) :
    ∀ word ∈ words, ∃ scope, parse word = .ok scope := by
  induction h with
  | nil => exact nofun
  | cons hp _ ih => exact List.forall_mem_cons.mpr ⟨⟨_, hp⟩, ih⟩

theorem parseAll_eq_ok_iff_gathered :
    parseAll values = .ok scopes ↔ ∃ read, Reads (wordsOf values) read ∧ gathered read = scopes := by
  rw [parseAll_eq_ok_iff]
  refine exists_congr fun read => and_congr_right fun hr => ?_
  rw [foldl_insertMerged fun scope hm => (hr.isReadable scope hm).firstSeen_actions]

theorem parseAll_eq_error_iff {e : AuthError} :
    parseAll values = .error e ↔
      ∃ before word after, wordsOf values = before ++ word :: after ∧
        (∀ earlier ∈ before, ∃ scope, parse earlier = .ok scope) ∧ parse word = .error e :=
  parseWords_eq_error_iff

theorem exists_parseAll_eq_error_iff :
    (∃ e, parseAll values = .error e) ↔
      ∃ word ∈ wordsOf values, ∀ scope, parse word ≠ .ok scope := by
  constructor
  · rintro ⟨e, h⟩
    obtain ⟨before, word, after, hw, -, he⟩ := parseAll_eq_error_iff.mp h
    exact ⟨word, by simp [hw], fun scope hp => by simp [hp] at he⟩
  · rintro ⟨word, hm, hn⟩
    cases h : parseAll values with
    | error e => exact ⟨e, rfl⟩
    | ok scopes =>
      obtain ⟨read, hr, -⟩ := parseAll_eq_ok_iff.mp h
      obtain ⟨scope, hp⟩ := hr.exists_of_mem word hm
      exact absurd hp (hn scope)

/-- The words of several values are read together. The first malformed one is the error, and else
the scopes are gathered from what the words say. How the words are spread over values does not
matter. -/
theorem parseAll_gathers_words (values : List String) :
    ((∃ e, parseAll values = .error e) ↔
      ∃ word ∈ wordsOf values, ∀ scope, parse word ≠ .ok scope) ∧
    (∀ e, parseAll values = .error e ↔
      ∃ before word after, wordsOf values = before ++ word :: after ∧
        (∀ earlier ∈ before, ∃ scope, parse earlier = .ok scope) ∧ parse word = .error e) ∧
    (∀ scopes, parseAll values = .ok scopes ↔
      ∃ read, Reads (wordsOf values) read ∧ Gathers scopes read) ∧
    (∀ scopes, parseAll values = .ok scopes → (scopes.map resource).Nodup ∧
      ∀ scope ∈ scopes, "" ∉ scope.actions ∧ scope.actions.Nodup) ∧
    parseAll values = parseAll [" ".intercalate values] ∧
    ∀ others, wordsOf others = wordsOf values → parseAll others = parseAll values := by
  have hg : ∀ scopes, parseAll values = .ok scopes ↔
      ∃ read, Reads (wordsOf values) read ∧ Gathers scopes read := by
    intro scopes
    rw [parseAll_eq_ok_iff_gathered]
    refine exists_congr fun read => and_congr_right fun hr => ?_
    exact (gathers_iff hr.not_mem_actions).symm
  refine ⟨exists_parseAll_eq_error_iff, fun e => parseAll_eq_error_iff, hg, ?_,
    (parseAll_intercalate values).symm, fun others h => congrArg (parseWords []) h⟩
  intro scopes h
  obtain ⟨read, hr, hs⟩ := (hg scopes).mp h
  refine ⟨hs.resources ▸ nodup_eraseDups _, fun scope hm => ?_⟩
  rw [hs.actions scope hm]
  refine ⟨fun he => ?_, nodup_eraseDups _⟩
  obtain ⟨part, hp, ha⟩ := List.mem_flatMap.mp (List.mem_eraseDups.mp he)
  exact hr.not_mem_actions part (List.mem_filter.mp hp).1 ha

/-- Three words in two values, two of them on one resource, and the same words spread otherwise. -/
theorem words_of_one_resource_gathered :
    parseAll ["repository:a:pull x:y:z", " repository:a:push,pull "] =
      .ok [⟨"repository", "a", ["pull", "push"]⟩, ⟨"x", "y", ["z"]⟩] ∧
    [("repository", "a"), ("x", "y")].Nodup ∧ ("" ∉ ["pull", "push"] ∧ ["pull", "push"].Nodup) ∧
    parseAll ["", "repository:a:pull", "x:y:z\trepository:a:push,pull"] =
      .ok [⟨"repository", "a", ["pull", "push"]⟩, ⟨"x", "y", ["z"]⟩] := by
  have h : parseAll ["repository:a:pull x:y:z", " repository:a:push,pull "] =
    .ok [⟨"repository", "a", ["pull", "push"]⟩, ⟨"x", "y", ["z"]⟩] := by decide +kernel
  have hw : wordsOf ["", "repository:a:pull", "x:y:z\trepository:a:push,pull"] =
    wordsOf ["repository:a:pull x:y:z", " repository:a:push,pull "] := by decide +kernel
  obtain ⟨-, -, -, distinct, -, spread⟩ :=
    parseAll_gathers_words ["repository:a:pull x:y:z", " repository:a:push,pull "]
  obtain ⟨hn, ha⟩ := distinct _ h
  exact ⟨h, hn, ha _ List.mem_cons_self, (spread _ hw).trans h⟩

end Values

end RegistryAuth.Scope
