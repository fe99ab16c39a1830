import RegistryAuth.Configuration.Components
import RegistryAuth.Proofs.Except

/-! # The course of an assembly

An assembly follows a plan if it takes the steps of the plan in their order up to
the first that fails, and gives the error of that one. The components of a
configuration are assembled by a plan in which all sections are decoded, then all
are validated, and then all are built.
-/

namespace RegistryAuth

namespace Assembly

variable {α β : Type} {failure? : AssemblyStep → Option ConfigError} {plan rest : List AssemblyStep}
  {Q : α → Prop} {R : β → Prop}

/-- The assembly takes the steps of a plan as long as they succeed. `failure?` tells how each of them
would fail, and `Q` holds of the value if none does. -/
def Follows (failure? : AssemblyStep → Option ConfigError) (plan : List AssemblyStep)
    (Q : α → Prop) (x : Assembly α) : Prop :=
  match x.result with
  | .ok a => (∀ step ∈ plan, failure? step = none) ∧ x.steps = plan ∧ Q a
  | .error e => ∃ before step after, plan = before ++ step :: after ∧
    (∀ earlier ∈ before, failure? earlier = none) ∧ failure? step = some e ∧
    x.steps = before ++ [step]

namespace Follows

theorem pure {a : α} (h : Q a) : Follows failure? [] Q (Pure.pure a : Assembly α) :=
  ⟨nofun, rfl, h⟩

theorem take {step : AssemblyStep} {outcome : Except ConfigError α}
    (hf : failure? step = outcome.error?) (hq : ∀ a, outcome = .ok a → Q a) :
    Follows failure? [step] Q (Assembly.take step outcome) := by
  cases outcome with
  | ok a => exact ⟨List.forall_mem_singleton.mpr hf, rfl, hq a rfl⟩
  | error e => exact ⟨[], step, [], rfl, nofun, hf, rfl⟩

theorem bind {x : Assembly α} {f : α → Assembly β} (hx : Follows failure? plan Q x)
    (hf : ∀ a, Q a → Follows failure? rest R (f a)) :
    Follows failure? (plan ++ rest) R (x >>= f) := by
  change Follows failure? (plan ++ rest) R (Assembly.bind x f)
  unfold Follows at hx
  unfold Assembly.bind
  cases hr : x.result with
  | error e =>
    rw [hr] at hx
    obtain ⟨before, step, after, rfl, hb, hs, ht⟩ := hx
    exact ⟨before, step, after ++ rest, by simp, hb, hs, ht⟩
  | ok a =>
    rw [hr] at hx
    obtain ⟨hp, ht, hq⟩ := hx
    have h := hf a hq
    unfold Follows at h ⊢
    cases hl : (f a).result with
    | ok b =>
      rw [hl] at h
      obtain ⟨hn, hm, hr⟩ := h
      exact ⟨List.forall_mem_append.mpr ⟨hp, hn⟩, by simp only [ht, hm], hr⟩
    | error e =>
      rw [hl] at h
      obtain ⟨before, step, after, rfl, hb, hs, hm⟩ := h
      exact ⟨plan ++ before, step, after, by simp, List.forall_mem_append.mpr ⟨hp, hb⟩, hs,
        by simp only [ht, hm, List.append_assoc]⟩

/-- A phase takes its steps in the order of the kinds. -/
theorem phase {F : Type → Type} {make : ComponentKind → AssemblyStep}
    {step : (kind : ComponentKind) → Assembly (F kind.Component)}
    {Q : (kind : ComponentKind) → F kind.Component → Prop}
    (h : ∀ kind, Follows failure? [make kind] (Q kind) (step kind)) :
    Follows failure? (ComponentKind.all.map make)
      (fun values : PerComponent F => ∀ kind, Q kind (values.get kind)) (Assembly.phase step) := by
  refine (h .passwordAuthenticator).bind fun users hu => ?_
  refine (h .authorizer).bind fun authorizer ha => ?_
  refine (h .accessTokenIssuer).bind fun access hi => ?_
  refine (h .refreshTokenIssuer).bind fun refresh hr => ?_
  refine .pure fun kind => ?_
  cases kind
  · exact hu
  · exact ha
  · exact hi
  · exact hr

variable {x : Assembly α}

theorem steps_prefix (h : Follows failure? plan Q x) : x.steps <+: plan := by
  unfold Follows at h
  split at h
  next => exact h.2.1 ▸ List.prefix_rfl
  next =>
    obtain ⟨before, step, after, rfl, -, -, ht⟩ := h
    exact ⟨after, by simp [ht]⟩

theorem of_result (h : Follows failure? plan Q x) {a : α} (ha : x.result = .ok a) : Q a := by
  unfold Follows at h
  rw [ha] at h
  exact h.2.2

theorem succeeds_before (h : Follows failure? plan Q x) {before after : List AssemblyStep}
    {step : AssemblyStep} (ht : x.steps = before ++ step :: after) :
    ∀ earlier ∈ before, failure? earlier = none := by
  unfold Follows at h
  split at h
  next =>
    obtain ⟨hp, hs, -⟩ := h
    intro earlier hm
    exact hp earlier (by rw [← hs, ht]; exact List.mem_append_left _ hm)
  next =>
    obtain ⟨done, failed, -, -, hd, -, hs⟩ := h
    -- All taken steps but the last one succeeded, and the given step is among those taken.
    have hp : before <+: done := by
      have hl : before ++ [step] <+: done ++ [failed] := by
        rw [← hs, ht]
        exact ⟨after, by simp⟩
      rcases List.prefix_concat_iff.mp hl with he | hl
      · exact List.append_inj_left' he rfl ▸ List.prefix_rfl
      · exact (List.prefix_append _ _).trans hl
    intro earlier hm
    exact hd earlier (hp.subset hm)

theorem result_eq_error_iff (h : Follows failure? plan Q x) {e : ConfigError} :
    x.result = .error e ↔ plan.findSome? failure? = some e := by
  unfold Follows at h
  cases hr : x.result with
  | ok a =>
    rw [hr] at h
    have hn : plan.findSome? failure? = none := List.findSome?_eq_none_iff.mpr h.1
    simp [hn]
  | error e' =>
    rw [hr] at h
    obtain ⟨before, step, after, rfl, hb, hs, -⟩ := h
    have hf : (before ++ step :: after).findSome? failure? = some e' :=
      List.findSome?_eq_some_iff.mpr ⟨before, step, after, rfl, hs, hb⟩
    simp [hf]

theorem exists_result_iff (h : Follows failure? plan Q x) :
    (∃ a, x.result = .ok a) ↔ ∀ step ∈ plan, failure? step = none := by
  rw [← List.findSome?_eq_none_iff]
  cases hr : x.result with
  | error e => simp [h.result_eq_error_iff.mp hr]
  | ok a =>
    unfold Follows at h
    rw [hr] at h
    simpa using h.1

end Follows

end Assembly

namespace Configuration

variable (configuration : Configuration) (registries : Registries)

/-- How a step fails, if it does. A section that is not decoded has nothing to be validated or
built. -/
def failure? : AssemblyStep → Option ConfigError
  | .decode kind => (configuration.recipe registries kind).error?
  | .validate kind =>
    match configuration.recipe registries kind with
    | .ok recipe => recipe.validate.error?
    | .error _ => none
  | .build kind =>
    match configuration.recipe registries kind with
    | .ok recipe => recipe.build.error?
    | .error _ => none

/-- The section of a component decodes to a valid recipe, which builds the component. -/
def Provides (kind : ComponentKind) (part : Built kind.Component) : Prop :=
  ∃ recipe, configuration.recipe registries kind = .ok recipe ∧ recipe.validate = .ok () ∧
    recipe.build = .ok part

end Configuration

namespace AssemblyStep

/-- The steps before the first component is built. -/
def preparation : List AssemblyStep := ComponentKind.all.map decode ++ ComponentKind.all.map validate

def order : List AssemblyStep := preparation ++ ComponentKind.all.map build

theorem decode_mem_preparation (kind : ComponentKind) : decode kind ∈ preparation := by
  cases kind <;> decide

theorem validate_mem_preparation (kind : ComponentKind) : validate kind ∈ preparation := by
  cases kind <;> decide

theorem build_not_mem_preparation (kind : ComponentKind) : build kind ∉ preparation := by
  cases kind <;> decide

theorem preparation_prefix {before : List AssemblyStep} {kind : ComponentKind}
    (h : before ++ [build kind] <+: order) : preparation <+: before := by
  have hp : preparation <+: order := List.prefix_append _ _
  rcases List.prefix_or_prefix_of_prefix hp h with h | h
  · rcases List.prefix_concat_iff.mp h with he | h
    · exact absurd (by rw [he]; simp) (build_not_mem_preparation kind)
    · exact h
  · exact absurd (h.subset (by simp)) (build_not_mem_preparation kind)

end AssemblyStep

namespace Configuration

variable {configuration : Configuration} {registries : Registries}

theorem Provides.unique {kind : ComponentKind} {part other : Built kind.Component}
    (h : configuration.Provides registries kind part)
    (ho : configuration.Provides registries kind other) : part = other := by
  obtain ⟨recipe, hr, -, hb⟩ := h
  obtain ⟨_, hr', -, hb'⟩ := ho
  cases hr.symm.trans hr'
  exact Except.ok.inj (hb.symm.trans hb')

theorem failure?_eq_none (h : ∀ kind, ∃ part, configuration.Provides registries kind part)
    (step : AssemblyStep) : configuration.failure? registries step = none := by
  rcases step with kind | kind | kind <;> obtain ⟨part, recipe, hr, hv, hb⟩ := h kind <;>
    simp only [failure?, hr, hv, hb, Except.error?]

theorem assemble_follows (configuration : Configuration) (registries : Registries) :
    (configuration.assemble registries).Follows (configuration.failure? registries)
      AssemblyStep.order fun parts => ∀ kind, configuration.Provides registries kind
        (parts.get kind) := by
  rw [AssemblyStep.order, AssemblyStep.preparation, List.append_assoc]
  refine Assembly.Follows.bind (Q := fun recipes => ∀ kind,
    configuration.recipe registries kind = .ok (recipes.get kind)) ?_ fun recipes hr => ?_
  · exact .phase fun kind => .take rfl fun _ => id
  refine Assembly.Follows.bind (Q := fun _ => ∀ kind, (recipes.get kind).validate = .ok ()) ?_
    fun _ hv => ?_
  · refine .phase fun kind => .take ?_ fun _ => id
    simp only [failure?, hr kind]
  · refine .phase fun kind => .take ?_ fun part hb => ⟨_, hr kind, hv kind, hb⟩
    simp only [failure?, hr kind]

theorem buildComponents_eq_ok_iff {built : Built Components} :
    configuration.buildComponents registries = .ok built ↔ ∃ parts,
      (∀ kind, configuration.Provides registries kind (parts.get kind)) ∧
        Built.ofParts parts = built := by
  have hf := configuration.assemble_follows registries
  rw [buildComponents, Except.map_eq_ok_iff]
  constructor
  · rintro ⟨parts, hp, hb⟩
    exact ⟨parts, hf.of_result hp, hb⟩
  · rintro ⟨parts, hp, hb⟩
    obtain ⟨found, hr⟩ := hf.exists_result_iff.mpr fun step _ =>
      failure?_eq_none (fun kind => ⟨_, hp kind⟩) step
    obtain rfl : found = parts :=
      PerComponent.ext_get fun kind => (hf.of_result hr kind).unique (hp kind)
    exact ⟨found, hr, hb⟩

theorem buildComponents_eq_error_iff {e : ConfigError} :
    configuration.buildComponents registries = .error e ↔
      (configuration.assemble registries).result = .error e := by
  unfold buildComponents
  cases (configuration.assemble registries).result <;> simp [Except.map]

/-- Components are built only once all of them are decoded and valid. The steps are taken in one
order up to the first that fails, whose error is reported, and there are components exactly if none
of the steps fails. -/
theorem components_built_once_all_valid (configuration : Configuration)
    (registries : Registries) :
    (∀ before kind after,
      (configuration.assemble registries).steps = before ++ .build kind :: after →
      ∀ other, .decode other ∈ before ∧ .validate other ∈ before ∧
        ∃ recipe, configuration.recipe registries other = .ok recipe ∧
          recipe.validate = .ok ()) ∧
    (configuration.assemble registries).steps <+: AssemblyStep.order ∧
    (∀ before step after,
      (configuration.assemble registries).steps = before ++ step :: after →
      ∀ earlier ∈ before, configuration.failure? registries earlier = none) ∧
    (∀ e, configuration.buildComponents registries = .error e ↔
      AssemblyStep.order.findSome? (configuration.failure? registries) = some e) ∧
    ((∃ built, configuration.buildComponents registries = .ok built) ↔
      ∀ step ∈ AssemblyStep.order, configuration.failure? registries step = none) := by
  have hf := configuration.assemble_follows registries
  refine ⟨fun before kind after ht other => ?_, hf.steps_prefix,
    fun before step after => hf.succeeds_before, fun e => ?_, ?_⟩
  · have ho : before ++ [.build kind] <+: AssemblyStep.order :=
      List.IsPrefix.trans ⟨after, by simp [ht]⟩ hf.steps_prefix
    have hp := AssemblyStep.preparation_prefix ho
    have hd := hp.subset (AssemblyStep.decode_mem_preparation other)
    have hv := hp.subset (AssemblyStep.validate_mem_preparation other)
    obtain ⟨recipe, hr⟩ := Except.error?_eq_none_iff.mp (hf.succeeds_before ht _ hd)
    have hn := hf.succeeds_before ht _ hv
    simp only [failure?, hr] at hn
    obtain ⟨_, hn⟩ := Except.error?_eq_none_iff.mp hn
    exact ⟨hd, hv, recipe, hr, hn⟩
  · rw [buildComponents_eq_error_iff, hf.result_eq_error_iff]
  · rw [← hf.exists_result_iff]
    simp only [buildComponents, Except.map_eq_ok_iff]
    constructor
    · rintro ⟨_, parts, hp, -⟩
      exact ⟨parts, hp⟩
    · rintro ⟨parts, hp⟩
      exact ⟨_, parts, hp, rfl⟩

end Configuration

end RegistryAuth
