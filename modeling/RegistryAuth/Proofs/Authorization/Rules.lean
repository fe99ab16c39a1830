import RegistryAuth.Proofs.Authorization.Permission

/-! # Lists of rules

What rules grant does not depend on their order and number, and more rules grant
no less. A rule stands for the rules that have one of its names, actions and
subjects each. Rules for the anonymous subject and rules for the others do not
meet.
-/

namespace RegistryAuth

namespace Rule

variable {rule atom : Rule} {subject : Subject} {subjects names actions : List String}
  {resourceType resourceName action : String}

/-- A list for each subject of the rule. A rule that lists none is left with the empty list. -/
def subjectChoices (rule : Rule) : List (List String) :=
  if rule.subjects = [] then [[]] else rule.subjects.map fun id => [id]

/-- The rules with one name and one action of the rule, and one subject if it lists any. -/
def atoms (rule : Rule) : List Rule :=
  rule.names.flatMap fun name =>
    rule.actions.flatMap fun action =>
      rule.subjectChoices.map fun subjects =>
        { rule with subjects, names := [name], actions := [action] }

theorem mem_atoms_iff :
    atom ∈ rule.atoms ↔ ∃ name ∈ rule.names, ∃ action ∈ rule.actions,
      ∃ subjects ∈ rule.subjectChoices,
        { rule with subjects, names := [name], actions := [action] } = atom := by
  simp only [atoms, List.mem_flatMap, List.mem_map]

theorem AppliesTo.of_choice (hs : subjects ∈ rule.subjectChoices)
    (h : AppliesTo { rule with subjects, names, actions } subject) : rule.AppliesTo subject := by
  rcases h with h | ⟨ha, hid, hl, hv⟩
  · exact .inl h
  · refine .inr ⟨ha, hid, ?_, hv⟩
    by_cases hn : rule.subjects = []
    · exact .inr hn
    · rw [subjectChoices, if_neg hn] at hs
      obtain ⟨id, hm, rfl⟩ := List.mem_map.mp hs
      obtain rfl : subject.id = id := by simpa using hl
      exact .inl hm

theorem AppliesTo.exists_choice (h : rule.AppliesTo subject) :
    ∃ subjects ∈ rule.subjectChoices,
      ∀ names actions, AppliesTo { rule with subjects, names, actions } subject := by
  by_cases hn : rule.subjects = []
  · refine ⟨[], by simp [subjectChoices, hn], fun names actions => ?_⟩
    rcases h with h | ⟨ha, hid, -, hv⟩
    · exact .inl h
    · exact .inr ⟨ha, hid, .inr rfl, hv⟩
  · simp only [subjectChoices, if_neg hn, List.mem_map]
    rcases h with h | ⟨ha, hid, hl, hv⟩
    · obtain ⟨id, hm⟩ := List.exists_mem_of_ne_nil _ hn
      exact ⟨[id], ⟨id, hm, rfl⟩, fun _ _ => .inl h⟩
    · have hm : subject.id ∈ rule.subjects := hl.resolve_right hn
      exact ⟨[subject.id], ⟨subject.id, hm, rfl⟩,
        fun _ _ => .inr ⟨ha, hid, .inl List.mem_cons_self, hv⟩⟩

theorem exists_atom_permits_iff :
    (∃ atom ∈ rule.atoms, atom.Permits subject resourceType resourceName action) ↔
      rule.Permits subject resourceType resourceName action := by
  constructor
  · rintro ⟨_, hm, h⟩
    obtain ⟨name, hn, allowed, ha, subjects, hs, rfl⟩ := mem_atoms_iff.mp hm
    obtain ⟨happ, ht, ⟨pattern, hp, hg⟩, hl⟩ := h
    obtain rfl := List.mem_singleton.mp hp
    refine ⟨happ.of_choice hs, ht, ⟨pattern, hn, hg⟩, ?_⟩
    rcases hl with hl | hl
    · exact .inl (List.mem_singleton.mp hl ▸ ha)
    · exact .inr (List.mem_singleton.mp hl ▸ ha)
  · rintro ⟨happ, ht, ⟨pattern, hn, hg⟩, hl⟩
    obtain ⟨subjects, hs, happ⟩ := happ.exists_choice
    have hg : ∃ name ∈ [pattern], Glob.Matches (expandPattern name subject) resourceName :=
      ⟨pattern, List.mem_singleton_self _, hg⟩
    rcases hl with ha | ha
    · exact ⟨_, mem_atoms_iff.mpr ⟨pattern, hn, action, ha, subjects, hs, rfl⟩,
        happ _ _, ht, hg, .inl List.mem_cons_self⟩
    · exact ⟨_, mem_atoms_iff.mpr ⟨pattern, hn, "*", ha, subjects, hs, rfl⟩,
        happ _ _, ht, hg, .inr List.mem_cons_self⟩

theorem AppliesTo.anonymous_eq (h : rule.AppliesTo subject) :
    rule.anonymous = subject.isAnonymous := by
  rcases h with ⟨ha, hid⟩ | ⟨ha, hid, -⟩
  · simp [Subject.isAnonymous, ha, hid]
  · simp [Subject.isAnonymous, ha, hid]

end Rule

namespace RuleSet

variable {ruleSet other : RuleSet} {rules more : List Rule} {subject : Subject}
  {requested : List Scope} {resourceType resourceName action : String}

theorem grant_congr
    (h : ∀ resourceType resourceName action,
      ruleSet.Permits subject resourceType resourceName action ↔
        other.Permits subject resourceType resourceName action) :
    ruleSet.grant subject requested = other.grant subject requested := by
  have hp : ruleSet.permittedPart subject = other.permittedPart subject := by
    funext scope
    simp only [permittedPart, h]
  rw [grant_eq, grant_eq, hp]

/-- Only rules of the subject's own kind count. -/
theorem Permits.mono
    (hs : ∀ rule ∈ rules, rule.anonymous = subject.isAnonymous → rule ∈ more)
    (h : (RuleSet.mk rules).Permits subject resourceType resourceName action) :
    (RuleSet.mk more).Permits subject resourceType resourceName action := by
  obtain ⟨rule, hm, hp⟩ := h
  exact ⟨rule, hs rule hm hp.appliesTo.anonymous_eq, hp⟩

theorem grant_congr_of_mem
    (h : ∀ rule, rule.anonymous = subject.isAnonymous → (rule ∈ rules ↔ rule ∈ more)) :
    (RuleSet.mk rules).grant subject requested = (RuleSet.mk more).grant subject requested := by
  refine grant_congr fun resourceType resourceName action => ⟨?_, ?_⟩
  · exact Permits.mono fun rule hm ha => (h rule ha).mp hm
  · exact Permits.mono fun rule hm ha => (h rule ha).mpr hm

theorem permits_atoms_iff {before after : List Rule} {rule : Rule} :
    (RuleSet.mk (before ++ rule.atoms ++ after)).Permits subject resourceType resourceName
        action ↔
      (RuleSet.mk (before ++ rule :: after)).Permits subject resourceType resourceName action := by
  simp only [Permits, List.mem_append, List.mem_cons, or_and_right, exists_or,
    exists_eq_left, Rule.exists_atom_permits_iff, or_assoc]

/-- The order and number of the rules do not matter, more rules keep every right, a rule does what
its atoms do, and only rules of the subject's own kind count. -/
theorem grant_depends_on_rules (subject : Subject) (requested : List Scope) :
    (∀ rules other : List Rule, (∀ rule, rule ∈ rules ↔ rule ∈ other) →
      (RuleSet.mk rules).grant subject requested = (RuleSet.mk other).grant subject requested) ∧
    (∀ rules more : List Rule, rules ⊆ more → ∀ resourceType resourceName action,
      Scope.Allows ((RuleSet.mk rules).grant subject requested) resourceType resourceName action →
        Scope.Allows ((RuleSet.mk more).grant subject requested) resourceType resourceName
          action) ∧
    (∀ before rule after,
      (RuleSet.mk (before ++ rule.atoms ++ after)).grant subject requested =
        (RuleSet.mk (before ++ rule :: after)).grant subject requested) ∧
    (subject.isAnonymous = true → ∀ rules : List Rule,
      (RuleSet.mk (rules.filter fun rule => rule.anonymous)).grant subject requested =
        (RuleSet.mk rules).grant subject requested) ∧
    (subject.isAnonymous = false → ∀ rules : List Rule,
      (RuleSet.mk (rules.filter fun rule => !rule.anonymous)).grant subject requested =
        (RuleSet.mk rules).grant subject requested) ∧
    ∀ rules other : List Rule,
      (∀ rule, rule.anonymous = subject.isAnonymous → (rule ∈ rules ↔ rule ∈ other)) →
        (RuleSet.mk rules).grant subject requested =
          (RuleSet.mk other).grant subject requested := by
  refine ⟨?_, ?_, ?_, ?_, ?_, ?_⟩
  · intro rules other h
    exact grant_congr_of_mem fun rule _ => h rule
  · intro rules more hs resourceType resourceName action
    rw [allows_grant_iff, allows_grant_iff]
    exact And.imp_right (Permits.mono fun rule hm _ => hs hm)
  · intro before rule after
    exact grant_congr fun _ _ _ => permits_atoms_iff
  · intro ha rules
    refine grant_congr_of_mem fun rule hr => ?_
    simp [hr, ha]
  · intro ha rules
    refine grant_congr_of_mem fun rule hr => ?_
    simp [hr, ha]
  · intro rules other h
    exact grant_congr_of_mem h

end RuleSet

end RegistryAuth
