import RegistryAuth.Scope

/-! # Inclusion of scopes

One list of scopes is within another if each of its scopes has a scope of the
other on the same resource that names all its actions. Then every action that the
first allows is allowed by the second.
-/

namespace RegistryAuth.Scope

theorem covers_iff {a b : Scope} :
    a.covers b = true ↔ a.resourceType = b.resourceType ∧ a.resourceName = b.resourceName ∧
      ∀ action ∈ b.actions, action ∈ a.actions := by
  simp [covers, sameResource, hasAction, and_assoc]

theorem covers_trans {a b c : Scope} (hab : a.covers b = true) (hbc : b.covers c = true) :
    a.covers c = true := by
  obtain ⟨ht, hn, ha⟩ := covers_iff.mp hab
  obtain ⟨ht', hn', ha'⟩ := covers_iff.mp hbc
  exact covers_iff.mpr ⟨ht.trans ht', hn.trans hn', fun action hm => ha action (ha' action hm)⟩

theorem isSubset_iff {granted requested : List Scope} :
    isSubset granted requested = true ↔
      ∀ scope ∈ granted, ∃ wanted ∈ requested, wanted.covers scope = true := by
  simp [isSubset]

theorem isSubset_refl (scopes : List Scope) : isSubset scopes scopes = true :=
  isSubset_iff.mpr fun scope hm => ⟨scope, hm, covers_iff.mpr ⟨rfl, rfl, fun _ h => h⟩⟩

theorem isSubset_trans {first second third : List Scope} (h : isSubset first second = true)
    (h' : isSubset second third = true) : isSubset first third = true := by
  refine isSubset_iff.mpr fun scope hm => ?_
  obtain ⟨middle, hs, hc⟩ := isSubset_iff.mp h scope hm
  obtain ⟨wanted, ht, hw⟩ := isSubset_iff.mp h' middle hs
  exact ⟨wanted, ht, covers_trans hw hc⟩

theorem narrow?_eq_some_iff {scope narrowed : Scope} {allowed : String → Bool} :
    scope.narrow? allowed = some narrowed ↔
      { scope with actions := scope.actions.filter allowed } = narrowed ∧
        narrowed.actions ≠ [] := by
  unfold narrow?
  constructor
  · intro h
    split at h
    next => cases h
    next hn =>
      cases h
      exact ⟨rfl, hn⟩
  · rintro ⟨rfl, hn⟩
    split
    next he => exact absurd he hn
    next => rfl

theorem covers_of_narrow? {scope narrowed : Scope} {allowed : String → Bool}
    (h : scope.narrow? allowed = some narrowed) : scope.covers narrowed = true := by
  obtain ⟨rfl, -⟩ := narrow?_eq_some_iff.mp h
  exact covers_iff.mpr ⟨rfl, rfl, fun action ha => (List.mem_filter.mp ha).1⟩

/-- A scope on the same resource with some of the actions, in their order. -/
def IsPartOf (part scope : Scope) : Prop :=
  part.resourceType = scope.resourceType ∧ part.resourceName = scope.resourceName ∧
    part.actions.Sublist scope.actions

/-- The scopes of the list allow an action on a resource. -/
def Allows (scopes : List Scope) (resourceType resourceName action : String) : Prop :=
  ∃ scope ∈ scopes, scope.resourceType = resourceType ∧ scope.resourceName = resourceName ∧
    action ∈ scope.actions

theorem Allows.of_isSubset {granted requested : List Scope}
    {resourceType resourceName action : String}
    (h : Allows granted resourceType resourceName action)
    (hs : isSubset granted requested = true) :
    Allows requested resourceType resourceName action := by
  obtain ⟨scope, hm, rfl, rfl, ha⟩ := h
  obtain ⟨wanted, hw, hc⟩ := isSubset_iff.mp hs scope hm
  obtain ⟨ht, hn, hi⟩ := covers_iff.mp hc
  exact ⟨wanted, hw, ht, hn, hi action ha⟩

end RegistryAuth.Scope
