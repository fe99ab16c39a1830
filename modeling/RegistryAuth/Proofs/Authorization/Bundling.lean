import Mathlib
import RegistryAuth.Proofs.Authorization.Policy
import RegistryAuth.Proofs.Scope.Merging

/-! # Requests asked together

Scopes asked for in one request get the rights that they would get in two, also
where both name the same resource. A request for what was granted is granted as
it is.
-/

namespace RegistryAuth.Policy

/-- Rights are granted one by one, so that it does not matter which are asked for together. -/
theorem together_as_apart (policy : Policy) (subject : Subject) {values more : List String}
    {scopes others : List Scope} (hv : Scope.parseAll values = .ok scopes)
    (hm : Scope.parseAll more = .ok others) :
    (∃ merged granted first second, Scope.parseAll (values ++ more) = .ok merged ∧
      policy.authorizer.authorize subject merged = Reply.value granted ∧
      policy.authorizer.authorize subject scopes = Reply.value first ∧
      policy.authorizer.authorize subject others = Reply.value second ∧
      ∀ resourceType resourceName action,
        Scope.Allows granted resourceType resourceName action ↔
          Scope.Allows first resourceType resourceName action ∨
            Scope.Allows second resourceType resourceName action) ∧
    ∀ requested, ∃ granted,
      policy.authorizer.authorize subject requested = Reply.value granted ∧
        policy.authorizer.authorize subject granted = Reply.value granted := by
  constructor
  · obtain ⟨merged, hp, hr⟩ := Scope.parseAll_append hv hm
    refine ⟨merged, policy.grant subject merged, policy.grant subject scopes,
      policy.grant subject others, hp, policy.authorize_authorizer subject merged,
      policy.authorize_authorizer subject scopes, policy.authorize_authorizer subject others, ?_⟩
    intro resourceType resourceName action
    simp only [allows_grant_iff, hr, or_and_right]
  · intro requested
    refine ⟨policy.grant subject requested, policy.authorize_authorizer subject requested, ?_⟩
    rw [authorize_authorizer, grant_grant]
    rfl

/-- Every user may push to every repository without a slash in its name. -/
def pushing : Policy :=
  rules ⟨[⟨false, [], [], "repository", ["*"], ["push"]⟩]⟩

theorem overlapping_values_together :
    Scope.parseAll ["repository:app:pull,push"] =
        .ok [⟨"repository", "app", ["pull", "push"]⟩] ∧
      Scope.parseAll ["repository:lib:pull repository:app:push,delete"] =
        .ok [⟨"repository", "lib", ["pull"]⟩, ⟨"repository", "app", ["push", "delete"]⟩] ∧
      ∃ merged granted first second,
        Scope.parseAll ["repository:app:pull,push",
          "repository:lib:pull repository:app:push,delete"] = .ok merged ∧
        pushing.authorizer.authorize (Subject.ofId "alice") merged = Reply.value granted ∧
        pushing.authorizer.authorize (Subject.ofId "alice")
          [⟨"repository", "app", ["pull", "push"]⟩] = Reply.value first ∧
        pushing.authorizer.authorize (Subject.ofId "alice")
          [⟨"repository", "lib", ["pull"]⟩, ⟨"repository", "app", ["push", "delete"]⟩] =
            Reply.value second ∧
        ∀ resourceType resourceName action,
          Scope.Allows granted resourceType resourceName action ↔
            Scope.Allows first resourceType resourceName action ∨
              Scope.Allows second resourceType resourceName action := by
  have hv : Scope.parseAll ["repository:app:pull,push"] =
      .ok [⟨"repository", "app", ["pull", "push"]⟩] := by cbv
  have hm : Scope.parseAll ["repository:lib:pull repository:app:push,delete"] =
      .ok [⟨"repository", "lib", ["pull"]⟩, ⟨"repository", "app", ["push", "delete"]⟩] := by cbv
  exact ⟨hv, hm, (together_as_apart _ _ hv hm).1⟩

end RegistryAuth.Policy
