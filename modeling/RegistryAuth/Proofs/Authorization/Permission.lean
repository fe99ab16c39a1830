import RegistryAuth.Authorization
import RegistryAuth.Proofs.Glob.Language
import RegistryAuth.Proofs.Scope.Inclusion

/-! # What rules permit

A rule permits an action on a resource if it applies to the subject, names the
resource and lists the action. The static authoriser leaves of every requested
scope just the actions that some rule permits, in their order, and drops a scope
of which nothing is left.
-/

namespace RegistryAuth

namespace Rule

variable {rule : Rule} {subject : Subject} {scope : Scope} {action : String}

/-- An anonymous rule is about the anonymous subject only. Another rule is about authenticated
subjects, those that it lists or all if it lists none, as far as they have its attributes. -/
def AppliesTo (rule : Rule) (subject : Subject) : Prop :=
  (rule.anonymous = true ∧ subject.id = "") ∨
    (rule.anonymous = false ∧ subject.id ≠ "" ∧
      (subject.id ∈ rule.subjects ∨ rule.subjects = []) ∧
      ∀ name value, (name, value) ∈ rule.attributes → subject.attribute? name = some value)

structure Permits (rule : Rule) (subject : Subject) (resourceType resourceName action : String) :
    Prop where
  appliesTo : rule.AppliesTo subject
  resourceType_eq : rule.resourceType = resourceType
  matches_name : ∃ pattern ∈ rule.names,
    Glob.Matches (expandPattern pattern subject) resourceName
  allows_action : action ∈ rule.actions ∨ "*" ∈ rule.actions

theorem matchesSubject_iff : rule.matchesSubject subject = true ↔ rule.AppliesTo subject := by
  cases ha : rule.anonymous <;>
    simp [matchesSubject, AppliesTo, Subject.isAnonymous, ha, and_assoc, or_comm]

theorem matchesResource_iff :
    rule.matchesResource subject scope = true ↔
      rule.resourceType = scope.resourceType ∧
        ∃ pattern ∈ rule.names, Glob.Matches (expandPattern pattern subject) scope.resourceName := by
  simp [matchesResource, Glob.matchesName_iff, eq_comm (a := rule.resourceType)]

theorem allows_iff : rule.allows action = true ↔ action ∈ rule.actions ∨ "*" ∈ rule.actions := by
  simp only [allows, List.any_eq_true, Bool.or_eq_true, beq_iff_eq]
  constructor
  · rintro ⟨allowed, hm, rfl | rfl⟩
    · exact .inr hm
    · exact .inl hm
  · rintro (hm | hm)
    · exact ⟨action, hm, .inr rfl⟩
    · exact ⟨"*", hm, .inl rfl⟩

end Rule

namespace RuleSet

variable {ruleSet other : RuleSet} {subject : Subject} {requested : List Scope}
  {scope granted : Scope} {resourceType resourceName action : String}

/-- Some rule permits the subject the action on the resource. -/
def Permits (ruleSet : RuleSet) (subject : Subject)
    (resourceType resourceName action : String) : Prop :=
  ∃ rule ∈ ruleSet.rules, rule.Permits subject resourceType resourceName action

theorem any_allows_iff :
    ((ruleSet.rules.filter fun rule =>
        rule.matchesSubject subject && rule.matchesResource subject scope).any fun rule =>
          rule.allows action) = true ↔
      ruleSet.Permits subject scope.resourceType scope.resourceName action := by
  simp only [List.any_eq_true, List.mem_filter, Bool.and_eq_true, Rule.matchesSubject_iff,
    Rule.matchesResource_iff, Rule.allows_iff]
  constructor
  · rintro ⟨rule, ⟨hm, hs, ht, hn⟩, ha⟩
    exact ⟨rule, hm, hs, ht, hn, ha⟩
  · rintro ⟨rule, hm, hs, ht, hn, ha⟩
    exact ⟨rule, ⟨hm, hs, ht, hn⟩, ha⟩

instance : Decidable (ruleSet.Permits subject resourceType resourceName action) :=
  decidable_of_iff _ (@any_allows_iff ruleSet subject ⟨resourceType, resourceName, []⟩ action)

/-- The scope with only those of its actions that the subject is permitted. -/
def permittedPart (ruleSet : RuleSet) (subject : Subject) (scope : Scope) : Scope :=
  { scope with
    actions := scope.actions.filter fun action =>
      ruleSet.Permits subject scope.resourceType scope.resourceName action }

theorem mem_permittedPart_iff :
    action ∈ (ruleSet.permittedPart subject scope).actions ↔
      action ∈ scope.actions ∧
        ruleSet.Permits subject scope.resourceType scope.resourceName action := by
  simp only [permittedPart, List.mem_filter, decide_eq_true_iff]

theorem authorizeScope?_eq_some_iff :
    ruleSet.authorizeScope? subject scope = some granted ↔
      ruleSet.permittedPart subject scope = granted ∧ granted.actions ≠ [] := by
  have hp : (fun action => (ruleSet.rules.filter fun rule =>
        rule.matchesSubject subject && rule.matchesResource subject scope).any fun rule =>
          rule.allows action) =
      fun action => decide
        (ruleSet.Permits subject scope.resourceType scope.resourceName action) :=
    funext fun action => Bool.eq_iff_iff.mpr (any_allows_iff.trans decide_eq_true_iff.symm)
  unfold authorizeScope?
  simp only [hp]
  exact Scope.narrow?_eq_some_iff

theorem grant_eq :
    ruleSet.grant subject requested =
      (requested.map (ruleSet.permittedPart subject)).filter fun scope => scope.actions ≠ [] := by
  have hf : ruleSet.authorizeScope? subject =
      Option.guard (fun scope => decide (scope.actions ≠ [])) ∘ ruleSet.permittedPart subject := by
    funext scope
    ext granted
    rw [authorizeScope?_eq_some_iff, Function.comp_apply, Option.guard_eq_some_iff,
      decide_eq_true_iff]
    constructor <;>
      · rintro ⟨rfl, hn⟩
        exact ⟨rfl, hn⟩
  unfold grant
  rw [hf, ← List.filterMap_map, List.filterMap_eq_filter]

theorem mem_grant_iff :
    granted ∈ ruleSet.grant subject requested ↔
      ∃ scope ∈ requested, ruleSet.permittedPart subject scope = granted ∧
        granted.actions ≠ [] := by
  simp only [grant, List.mem_filterMap, authorizeScope?_eq_some_iff]

theorem isSubset_grant (ruleSet : RuleSet) (subject : Subject) (requested : List Scope) :
    Scope.isSubset (ruleSet.grant subject requested) requested = true := by
  refine Scope.isSubset_iff.mpr fun scope hm => ?_
  obtain ⟨wanted, hw, hs⟩ := List.mem_filterMap.mp hm
  exact ⟨wanted, hw, Scope.covers_of_narrow? hs⟩

theorem grant_inOrder :
    List.SublistForall₂ Scope.IsPartOf (ruleSet.grant subject requested) requested := by
  rw [grant_eq, List.filter_map, List.sublistForall₂_map_left_iff]
  have hp (scopes : List Scope) :
      List.Forall₂ (fun a b => (ruleSet.permittedPart subject a).IsPartOf b) scopes scopes :=
    List.forall₂_same.mpr fun scope _ => ⟨rfl, rfl, List.filter_sublist⟩
  exact List.sublistForall₂_iff.mpr ⟨_, hp _, List.filter_sublist⟩

/-- Of the requested rights those are granted that some rule permits. -/
theorem allows_grant_iff :
    Scope.Allows (ruleSet.grant subject requested) resourceType resourceName action ↔
      Scope.Allows requested resourceType resourceName action ∧
        ruleSet.Permits subject resourceType resourceName action := by
  constructor
  · rintro ⟨_, hm, rfl, rfl, ha⟩
    obtain ⟨scope, hs, rfl, -⟩ := mem_grant_iff.mp hm
    obtain ⟨ha, hp⟩ := mem_permittedPart_iff.mp ha
    exact ⟨⟨scope, hs, rfl, rfl, ha⟩, hp⟩
  · rintro ⟨⟨scope, hs, rfl, rfl, ha⟩, hp⟩
    have hm : action ∈ (ruleSet.permittedPart subject scope).actions :=
      mem_permittedPart_iff.mpr ⟨ha, hp⟩
    exact ⟨_, mem_grant_iff.mpr ⟨scope, hs, rfl, List.ne_nil_of_mem hm⟩, rfl, rfl, hm⟩

theorem permittedPart_eq_self
    (h : ∀ action ∈ scope.actions,
      ruleSet.Permits subject scope.resourceType scope.resourceName action) :
    ruleSet.permittedPart subject scope = scope := by
  unfold permittedPart
  rw [List.filter_eq_self.mpr fun action ha => decide_eq_true (h action ha)]

/-- What was granted once is granted again. -/
theorem grant_grant :
    ruleSet.grant subject (ruleSet.grant subject requested) = ruleSet.grant subject requested := by
  have hp : ∀ scope ∈ ruleSet.grant subject requested,
      ruleSet.permittedPart subject scope = scope := by
    intro scope hm
    obtain ⟨wanted, -, rfl, -⟩ := mem_grant_iff.mp hm
    exact permittedPart_eq_self fun action ha => (mem_permittedPart_iff.mp ha).2
  rw [grant_eq, List.map_congr_left hp, List.map_id']
  refine List.filter_eq_self.mpr fun scope hm => ?_
  obtain ⟨-, -, -, hn⟩ := mem_grant_iff.mp hm
  exact decide_eq_true hn

/-- The answer holds what is left of each requested scope, in the order of the request. -/
theorem authorize_grants_permitted (ruleSet : RuleSet) (subject : Subject)
    (requested : List Scope) :
    ∃ granted, ruleSet.authorizer.authorize subject requested = Reply.value granted ∧
      Scope.isSubset granted requested = true ∧
      List.SublistForall₂ Scope.IsPartOf granted requested ∧
      (∀ scope ∈ granted, scope.actions ≠ []) ∧
      (granted = (requested.map (ruleSet.permittedPart subject)).filter
        fun scope => scope.actions ≠ []) ∧
      ∀ scope ∈ requested, ∀ action ∈ scope.actions,
        (Scope.Allows granted scope.resourceType scope.resourceName action ↔
          ∃ rule ∈ ruleSet.rules,
            rule.Permits subject scope.resourceType scope.resourceName action) := by
  refine ⟨ruleSet.grant subject requested, rfl, ruleSet.isSubset_grant subject requested,
    grant_inOrder, ?_, grant_eq, ?_⟩
  · intro scope hm
    obtain ⟨_, -, -, hn⟩ := mem_grant_iff.mp hm
    exact hn
  · intro scope hs action ha
    rw [allows_grant_iff]
    constructor
    · exact And.right
    · exact fun hp => ⟨⟨scope, hs, rfl, rfl, ha⟩, hp⟩

end RuleSet

end RegistryAuth
