import RegistryAuth.Proofs.Scope.Gathering

/-! # Canonical scopes

Reading makes canonical scopes: each is written as one word, which lists its
actions once, and no two name the same resource. Just such lists are read back
from their own text. What is left of a canonical list is canonical as well.
-/

namespace RegistryAuth.Scope

variable {scope other : Scope} {scopes requested granted : List Scope} {text : String}
  {values : List String}

/-- An action that can stand in the list of a scope. -/
structure IsAction (action : String) : Prop where
  action_ne : action ≠ ""
  unbroken : Text.IsUnbroken action.toList
  colon_not_mem : ':' ∉ action.toList
  comma_not_mem : ',' ∉ action.toList

structure IsCanonical (scope : Scope) : Prop where
  type_ne : scope.resourceType ≠ ""
  type_unbroken : Text.IsUnbroken scope.resourceType.toList
  colon_not_mem : ':' ∉ scope.resourceType.toList
  name_ne : scope.resourceName ≠ ""
  name_unbroken : Text.IsUnbroken scope.resourceName.toList
  actions : ∀ action ∈ scope.actions, IsAction action
  nodup : scope.actions.Nodup

structure AreCanonical (scopes : List Scope) : Prop where
  each : ∀ scope ∈ scopes, scope.IsCanonical
  distinct : (scopes.map resource).Nodup

section Words

theorem IsAction.isEntry {action : String} (h : IsAction action) : IsEntry action :=
  ⟨h.action_ne, Text.isTrimmed_of_isUnbroken h.unbroken, h.colon_not_mem, h.comma_not_mem⟩

theorem IsCanonical.isReadable (h : scope.IsCanonical) : scope.IsReadable :=
  ⟨h.type_ne, h.colon_not_mem, h.name_ne, fun action hm => (h.actions action hm).isEntry, h.nodup⟩

theorem IsCanonical.parse_render (h : scope.IsCanonical) : parse scope.render = .ok scope :=
  parse_render_iff.mpr h.isReadable

theorem IsCanonical.of_parse (h : parse text = .ok scope) (hu : Text.IsUnbroken text.toList) :
    scope.IsCanonical := by
  have hr := IsReadable.of_parse h
  obtain ⟨type, name, list, hw, rfl⟩ := parse_eq_ok_iff_isWritten.mp h
  rw [hw.toList_eq, Text.isUnbroken_append, Text.isUnbroken_cons, Text.isUnbroken_append,
    Text.isUnbroken_cons] at hu
  obtain ⟨hut, -, hun, -, hul⟩ := hu
  refine ⟨hr.type_ne, hut, hr.colon_not_mem, hr.name_ne, hun, fun action hm => ?_, hr.nodup⟩
  have he := hr.actions action hm
  exact ⟨he.action_ne, fun c hc => hul c (mem_of_mem_listedActions hm hc), he.colon_not_mem,
    he.comma_not_mem⟩

theorem toText_ne (scope : Scope) : scope.toText ≠ [] := by
  simp [toText]

theorem IsCanonical.isUnbroken_toText (h : scope.IsCanonical) : Text.IsUnbroken scope.toText := by
  have ha : Text.IsUnbroken ([','].intercalate (scope.actions.map String.toList)) := by
    intro c hc
    rcases Text.eq_or_mem_of_mem_intercalate hc with rfl | ⟨piece, hp, hc⟩
    · decide
    · obtain ⟨action, hm, rfl⟩ := List.mem_map.mp hp
      exact (h.actions action hm).unbroken c hc
  have hb : Text.isBlank ':' = false := by decide
  simp only [toText, Text.isUnbroken_append, Text.isUnbroken_cons]
  exact ⟨⟨h.type_unbroken, hb, h.name_unbroken⟩, hb, ha⟩

end Words

section Lists

theorem Reads.isCanonical {words : List String} (h : Reads words scopes)
    (hu : ∀ word ∈ words, Text.IsUnbroken word.toList) : ∀ scope ∈ scopes, scope.IsCanonical := by
  induction h with
  | nil => exact nofun
  | cons hp _ ih =>
    obtain ⟨hf, hr⟩ := List.forall_mem_cons.mp hu
    exact List.forall_mem_cons.mpr ⟨.of_parse hp hf, ih hr⟩

theorem isCanonical_gatheredAt {place : String × String}
    (h : ∀ scope ∈ scopes, scope.IsCanonical) (hp : place ∈ scopes.map resource) :
    (gatheredAt scopes place).IsCanonical := by
  obtain ⟨scope, hs, rfl⟩ := List.mem_map.mp hp
  have hc := h scope hs
  refine ⟨hc.type_ne, hc.type_unbroken, hc.colon_not_mem, hc.name_ne, hc.name_unbroken, ?_,
    nodup_firstSeen _⟩
  intro action hm
  obtain ⟨held, hh, ha⟩ := List.mem_flatMap.mp (mem_firstSeen_iff.mp hm).1
  exact (h held (List.mem_filter.mp hh).1).actions action ha

theorem areCanonical_gathered (h : ∀ scope ∈ scopes, scope.IsCanonical) :
    AreCanonical (gathered scopes) where
  each scope hm := by
    obtain ⟨place, hp, rfl⟩ := List.mem_map.mp hm
    exact isCanonical_gatheredAt h (List.mem_eraseDups.mp hp)
  distinct := nodup_map_resource_gathered scopes

theorem areCanonical_of_parseAll (h : parseAll values = .ok scopes) : AreCanonical scopes := by
  obtain ⟨read, hr, rfl⟩ := parseAll_eq_ok_iff_gathered.mp h
  refine areCanonical_gathered (hr.isCanonical ?_)
  intro word hw
  obtain ⟨value, -, hw⟩ := List.mem_flatMap.mp hw
  obtain ⟨piece, hp, rfl⟩ := List.mem_map.mp hw
  rw [String.toList_ofList]
  exact Text.isUnbroken_of_mem_words hp

theorem wordsOf_renderAll (h : ∀ scope ∈ scopes, scope.IsCanonical) :
    wordsOf [renderAll scopes] = scopes.map render := by
  have hw : ∀ scope ∈ scopes, (Text.words scope.render.toList).map String.ofList =
      [scope.render] := by
    intro scope hm
    rw [render, String.toList_ofList,
      Text.words_of_isUnbroken scope.toText_ne (h scope hm).isUnbroken_toText]
    rfl
  rw [renderAll, wordsOf_intercalate, wordsOf, List.flatMap_map, List.flatMap_congr hw,
    ← List.map_eq_flatMap]

/-- Canonical scopes, and no others, are read back from their own text. -/
theorem parseAll_renderAll_iff :
    parseAll [renderAll scopes] = .ok scopes ↔ AreCanonical scopes := by
  refine ⟨areCanonical_of_parseAll, fun h => parseAll_eq_ok_iff_gathered.mpr ⟨scopes, ?_, ?_⟩⟩
  · rw [wordsOf_renderAll h.each, Reads, List.forall₂_map_left_iff, List.forall₂_same]
    exact fun scope hm => (h.each scope hm).parse_render
  · exact gathered_eq_self h.distinct fun scope hm => (h.each scope hm).isReadable.firstSeen_actions

end Lists

section Parts

theorem IsCanonical.of_isPartOf (h : scope.IsCanonical) (hp : other.IsPartOf scope) :
    other.IsCanonical := by
  obtain ⟨ht, hn, ha⟩ := hp
  constructor
  case actions => exact fun action hm => h.actions action (ha.subset hm)
  case nodup => exact h.nodup.sublist ha
  all_goals simp only [ht, hn]
  · exact h.type_ne
  · exact h.type_unbroken
  · exact h.colon_not_mem
  · exact h.name_ne
  · exact h.name_unbroken

theorem isCanonical_of_forall₂ (hp : List.Forall₂ IsPartOf granted requested)
    (h : ∀ scope ∈ requested, scope.IsCanonical) : ∀ scope ∈ granted, scope.IsCanonical := by
  induction hp with
  | nil => exact nofun
  | cons hf _ ih =>
    obtain ⟨hc, hr⟩ := List.forall_mem_cons.mp h
    exact List.forall_mem_cons.mpr ⟨hc.of_isPartOf hf, ih hr⟩

theorem AreCanonical.of_isPartOf (h : AreCanonical requested)
    (hp : List.SublistForall₂ IsPartOf granted requested) : AreCanonical granted := by
  obtain ⟨wanted, hf, hs⟩ := List.sublistForall₂_iff.mp hp
  have hr : granted.map resource = wanted.map resource := by
    rw [← List.forall₂_eq_eq_eq, List.forall₂_map_left_iff, List.forall₂_map_right_iff]
    exact hf.imp fun _ _ hp => Prod.ext hp.1 hp.2.1
  exact ⟨isCanonical_of_forall₂ hf fun scope hm => h.each scope (hs.subset hm),
    hr ▸ h.distinct.sublist (hs.map resource)⟩

end Parts

end RegistryAuth.Scope
