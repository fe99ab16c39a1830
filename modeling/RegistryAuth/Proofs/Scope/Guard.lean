import Mathlib.Data.List.Nodup
import RegistryAuth.Proofs.Attempt
import RegistryAuth.Proofs.Scope.Gathering
import RegistryAuth.TokenService

/-! # The guard against widening

A grant is within a request if it names no other resource and allows no other
action. Comparing scope by scope never accepts more than that. It accepts just
that if the requested scopes are of distinct resources, as scopes that were read
are, since then one of them alone holds all that is requested on a resource.
-/

namespace RegistryAuth.Scope

variable {scope wanted : Scope} {granted requested : List Scope}
  {action : String}

/-- Each action and each resource of the grant is requested, wherever it stands in the lists. -/
structure IsWithin (granted requested : List Scope) : Prop where
  allows : ∀ resourceType resourceName action, Allows granted resourceType resourceName action →
    Allows requested resourceType resourceName action
  resources : ∀ place ∈ granted.map resource, place ∈ requested.map resource

theorem covers_iff_of_resource :
    wanted.covers scope = true ↔
      wanted.resource = scope.resource ∧ ∀ action ∈ scope.actions, action ∈ wanted.actions := by
  rw [covers_iff, resource, resource, Prod.mk.injEq, and_assoc]

theorem isWithin_of_isSubset (h : isSubset granted requested = true) :
    IsWithin granted requested where
  allows _ _ _ ha := ha.of_isSubset h
  resources place hp := by
    obtain ⟨scope, hm, rfl⟩ := List.mem_map.mp hp
    obtain ⟨wanted, hw, hc⟩ := isSubset_iff.mp h scope hm
    rw [← (covers_iff_of_resource.mp hc).1]
    exact List.mem_map_of_mem hw

/-- Among distinct resources, what is allowed on one is what its only scope says. -/
theorem mem_actions_of_allows (hd : (requested.map resource).Nodup) (hw : wanted ∈ requested)
    (ha : Allows requested wanted.resourceType wanted.resourceName action) :
    action ∈ wanted.actions := by
  obtain ⟨other, ho, ht, hn, hm⟩ := ha
  have hr : other.resource = wanted.resource := Prod.ext ht hn
  rwa [List.inj_on_of_nodup_map hd ho hw hr] at hm

theorem IsWithin.isSubset (h : IsWithin granted requested)
    (hd : (requested.map resource).Nodup) : isSubset granted requested = true := by
  refine isSubset_iff.mpr fun scope hm => ?_
  obtain ⟨wanted, hw, hr⟩ := List.mem_map.mp (h.resources _ (List.mem_map_of_mem hm))
  refine ⟨wanted, hw, covers_iff_of_resource.mpr ⟨hr, fun action ha => ?_⟩⟩
  obtain ⟨ht, hn⟩ := Prod.mk.inj hr
  refine mem_actions_of_allows hd hw (h.allows _ _ _ ⟨scope, hm, ht.symm, hn.symm, ha⟩)

theorem isSubset_iff_isWithin (hd : (requested.map resource).Nodup) :
    isSubset granted requested = true ↔ IsWithin granted requested :=
  ⟨isWithin_of_isSubset, fun h => h.isSubset hd⟩

/-- Where a resource is requested twice, a grant may be within the request and yet not be covered. -/
example : isSubset [⟨"x", "y", ["a", "b"]⟩] [⟨"x", "y", ["a"]⟩, ⟨"x", "y", ["b"]⟩] = false := by
  decide

theorem nodup_map_resource_of_parseAll {values : List String} (h : parseAll values = .ok requested) :
    (requested.map resource).Nodup := by
  obtain ⟨read, -, rfl⟩ := parseAll_eq_ok_iff_gathered.mp h
  exact nodup_map_resource_gathered read

end Scope

namespace TokenPipeline

variable {pipeline : TokenPipeline} {subject : Subject} {granted requested : List Scope}
  {progress : Progress}

theorem authorized_of_value (hc : progress.cancelled = false)
    (h : (pipeline.authorizer.authorize subject requested).outcome = .value granted) :
    (pipeline.authorized subject requested progress).1 =
      if Scope.isSubset granted requested then .ok granted
      else .error (.failed (.widened granted requested)) := by
  have hr := Attempt.call_apply (.authorize subject requested)
    (pipeline.authorizer.authorize subject requested) progress
  rw [h] at hr
  rw [TokenPipeline.authorized, Attempt.fst_bind,
    Attempt.guarded_apply_of_ok hc (congrArg Prod.fst hr), hr]
  change ((if Scope.isSubset granted requested then Attempt.pure granted
    else Attempt.fail (.widened granted requested)) _).1 = _
  split <;> rfl

end TokenPipeline

namespace Scope

/-- Comparing scope by scope decides whether a grant is within a request whose scopes are of
distinct resources, and so the guard of the pipeline lets pass just the grants that are. -/
theorem isSubset_decides_inclusion :
    (∀ scopes, isSubset scopes scopes = true) ∧
    (∀ first second third, isSubset first second = true → isSubset second third = true →
      isSubset first third = true) ∧
    (∀ granted requested, isSubset granted requested = true → IsWithin granted requested) ∧
    (∀ granted requested, (requested.map resource).Nodup →
      (isSubset granted requested = true ↔ IsWithin granted requested)) ∧
    (∀ values requested, parseAll values = .ok requested → (requested.map resource).Nodup) ∧
    ∀ (pipeline : TokenPipeline) (subject : Subject) (granted requested : List Scope)
      (progress : Progress), progress.cancelled = false → (requested.map resource).Nodup →
      (pipeline.authorizer.authorize subject requested).outcome = .value granted →
      ((pipeline.authorized subject requested progress).1 = .ok granted ↔
        IsWithin granted requested) ∧
      ((pipeline.authorized subject requested progress).1 =
        .error (.failed (.widened granted requested)) ↔ ¬ IsWithin granted requested) := by
  refine ⟨isSubset_refl, fun _ _ _ h h' => isSubset_trans h h', fun _ _ => isWithin_of_isSubset,
    fun _ _ => isSubset_iff_isWithin, fun _ _ => nodup_map_resource_of_parseAll, ?_⟩
  intro pipeline subject granted requested progress hc hd ha
  rw [TokenPipeline.authorized_of_value hc ha, ← isSubset_iff_isWithin hd]
  by_cases hs : isSubset granted requested = true <;> simp [hs]

/-- A grant that repeats a resource, turns its actions round and names a resource without any
action passes the guard. One action that was not requested makes it fail. -/
theorem scattered_grant_passes :
    ∃ (pipeline : TokenPipeline) (requested granted widened : List Scope),
      parseAll ["repository:a:pull,push x:y:z"] = .ok requested ∧
      granted = [⟨"repository", "a", ["push", "pull", "push"]⟩, ⟨"x", "y", []⟩,
        ⟨"repository", "a", ["pull"]⟩] ∧
      IsWithin granted requested ∧
      (pipeline.authorized Subject.anonymous requested ⟨[], false⟩).1 = .ok granted ∧
      widened = [⟨"repository", "a", ["pull"]⟩, ⟨"x", "y", ["pull"]⟩] ∧
      ¬ IsWithin widened requested := by
  let requested : List Scope := [⟨"repository", "a", ["pull", "push"]⟩, ⟨"x", "y", ["z"]⟩]
  let granted : List Scope := [⟨"repository", "a", ["push", "pull", "push"]⟩, ⟨"x", "y", []⟩,
    ⟨"repository", "a", ["pull"]⟩]
  let pipeline : TokenPipeline := ⟨⟨⟨fun _ _ => .failure .authenticationFailed, none⟩,
      ⟨⟨fun _ _ => .failure .authenticationFailed⟩, ⟨fun _ => .value none⟩⟩⟩,
    ⟨fun _ _ => .value granted⟩, ⟨fun occasion _ _ _ => .value ⟨"access", 60, occasion.now⟩⟩,
    ⟨fun _ _ => .value "refresh", none⟩⟩
  have hp : parseAll ["repository:a:pull,push x:y:z"] = .ok requested := by decide +kernel
  obtain ⟨-, -, -, decides, distinct, guards⟩ := isSubset_decides_inclusion
  have hd := distinct _ _ hp
  have hg : IsWithin granted requested := (decides _ _ hd).mp (by decide)
  refine ⟨pipeline, requested, granted, _, hp, rfl, hg,
    ((guards pipeline Subject.anonymous granted requested ⟨[], false⟩ rfl hd rfl).1).mpr hg, rfl,
    fun hw => ?_⟩
  have hs := (decides _ _ hd).mpr hw
  revert hs
  decide

end Scope

end RegistryAuth
