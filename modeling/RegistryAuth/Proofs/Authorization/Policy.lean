import RegistryAuth.Proofs.Authorization.Permission

/-! # Policies

A configuration has its requests granted in full or by a list of rules. Either way
no request is widened, each right is granted or not by itself, and what was
granted is granted again.
-/

namespace RegistryAuth

/-- A configured authoriser: everything is granted, or what a list of rules allows. -/
inductive Policy where
  | allowAll
  | rules (ruleSet : RuleSet)

namespace Policy

def authorizer : Policy → Authorizer
  | allowAll => Authorizer.allowAll
  | rules ruleSet => ruleSet.authorizer

def grant : Policy → Subject → List Scope → List Scope
  | allowAll, _, requested => requested
  | rules ruleSet, subject, requested => ruleSet.grant subject requested

/-- The policy leaves the subject the action on the resource. -/
def Permits : Policy → Subject → String → String → String → Prop
  | allowAll, _, _, _, _ => True
  | rules ruleSet, subject, resourceType, resourceName, action =>
    ruleSet.Permits subject resourceType resourceName action

variable (policy : Policy) (subject : Subject) (requested : List Scope)

theorem authorize_authorizer :
    policy.authorizer.authorize subject requested =
      Reply.ofExcept (.ok (policy.grant subject requested)) := by
  cases policy <;> rfl

theorem isSubset_grant : Scope.isSubset (policy.grant subject requested) requested = true := by
  cases policy with
  | allowAll => exact Scope.isSubset_refl requested
  | rules ruleSet => exact ruleSet.isSubset_grant subject requested

theorem grant_inOrder :
    List.SublistForall₂ Scope.IsPartOf (policy.grant subject requested) requested := by
  cases policy with
  | allowAll =>
    have hr : List.Forall₂ Scope.IsPartOf requested requested :=
      List.forall₂_same.mpr fun scope _ => ⟨rfl, rfl, .refl _⟩
    exact List.sublistForall₂_iff.mpr ⟨_, hr, .refl _⟩
  | rules ruleSet => exact RuleSet.grant_inOrder

theorem allows_grant_iff {resourceType resourceName action : String} :
    Scope.Allows (policy.grant subject requested) resourceType resourceName action ↔
      Scope.Allows requested resourceType resourceName action ∧
        policy.Permits subject resourceType resourceName action := by
  cases policy with
  | allowAll => exact (and_iff_left trivial).symm
  | rules ruleSet => exact RuleSet.allows_grant_iff

theorem grant_grant :
    policy.grant subject (policy.grant subject requested) = policy.grant subject requested := by
  cases policy with
  | allowAll => rfl
  | rules ruleSet => exact RuleSet.grant_grant

end Policy

end RegistryAuth
