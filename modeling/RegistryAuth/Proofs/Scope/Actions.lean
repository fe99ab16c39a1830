import Mathlib.Data.List.Induction
import RegistryAuth.Proofs.Scope.Merging

/-! # Lists of actions

A list of actions is kept in the order of first appearance, without the empty
action and with none twice. Merging more actions into such a list is the same as
listing all of them at once.
-/

namespace RegistryAuth.Scope

section FirstSeen

variable {α : Type} [BEq α] [LawfulBEq α] {list : List α}

theorem eraseDups_concat (list : List α) (a : α) :
    (list ++ [a]).eraseDups = if list.contains a then list.eraseDups else list.eraseDups ++ [a] := by
  rw [List.eraseDups_append, List.removeAll]
  by_cases h : a ∈ list
  · simp [h]
  · simp [h, List.eraseDups_cons]

theorem nodup_eraseDups (list : List α) : list.eraseDups.Nodup := by
  induction list using List.reverseRecOn with
  | nil => exact List.nodup_nil
  | append_singleton list a ih =>
    rw [eraseDups_concat]
    split
    next => exact ih
    next h =>
      refine List.nodup_append.mpr ⟨ih, List.pairwise_singleton _ _, ?_⟩
      rintro b hb _ hc rfl
      obtain rfl := List.mem_singleton.mp hc
      exact h (List.contains_iff_mem.mpr (List.mem_eraseDups.mp hb))

theorem eraseDups_of_nodup (h : list.Nodup) : list.eraseDups = list := by
  induction list using List.reverseRecOn with
  | nil => rfl
  | append_singleton list a ih =>
    obtain ⟨hl, -, hd⟩ := List.nodup_append.mp h
    have ha : ¬list.contains a = true := fun hc =>
      hd a (List.contains_iff_mem.mp hc) a List.mem_cons_self rfl
    rw [eraseDups_concat, if_neg ha, ih hl]

end FirstSeen

variable {action : String} {actions : List String}

/-- The actions without the empty one and without repetitions, in the order of first appearance. -/
def firstSeen (actions : List String) : List String :=
  (actions.filter (· ≠ "")).eraseDups

theorem mem_firstSeen_iff : action ∈ firstSeen actions ↔ action ∈ actions ∧ action ≠ "" := by
  simp [firstSeen]

theorem nodup_firstSeen (actions : List String) : (firstSeen actions).Nodup :=
  nodup_eraseDups _

theorem firstSeen_eq_eraseDups (h : "" ∉ actions) : firstSeen actions = actions.eraseDups := by
  rw [firstSeen, List.filter_eq_self.mpr fun action hm => by grind]

theorem firstSeen_of_nodup (h : "" ∉ actions) (hn : actions.Nodup) :
    firstSeen actions = actions := by
  rw [firstSeen_eq_eraseDups h, eraseDups_of_nodup hn]

theorem firstSeen_concat (actions : List String) (action : String) :
    firstSeen (actions ++ [action]) =
      if action.isEmpty || (firstSeen actions).contains action then firstSeen actions
      else firstSeen actions ++ [action] := by
  by_cases h : action = ""
  · simp [firstSeen, h]
  · have hc : (firstSeen actions).contains action = (actions.filter (· ≠ "")).contains action := by
      rw [Bool.eq_iff_iff, List.contains_iff_mem, List.contains_iff_mem, firstSeen,
        List.mem_eraseDups]
    have hf : (actions ++ [action]).filter (· ≠ "") = actions.filter (· ≠ "") ++ [action] := by
      simp [h]
    rw [hc, firstSeen, hf, eraseDups_concat]
    simp [h, firstSeen]

/-- Merging goes on where an earlier list ended. -/
theorem mergeActions_firstSeen (held more : List String) :
    mergeActions (firstSeen held) more = firstSeen (held ++ more) := by
  induction more generalizing held with
  | nil =>
    rw [List.append_nil]
    rfl
  | cons next more ih =>
    rw [mergeActions_cons, ← firstSeen_concat, ih, List.append_assoc]
    rfl

theorem mergeActions_nil (more : List String) : mergeActions [] more = firstSeen more :=
  mergeActions_firstSeen [] more

end RegistryAuth.Scope
