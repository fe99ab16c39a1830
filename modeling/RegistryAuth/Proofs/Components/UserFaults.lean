import Mathlib.Tactic.SplitIfs
import RegistryAuth.Proofs.Components.Users

/-! # Faults of a user list

An entry can be faulty by itself or because an earlier one has its name. The
first faulty entry is the one reported, and of its faults the one that comes
first in a fixed order.
-/

namespace RegistryAuth

variable {users before : List User} {user : User} {names others : List String} {place i : Nat}
  {fault other : User.Fault}

namespace User

/-- What is wrong with an entry that stands behind others. -/
def HasFault (before : List User) (user : User) : Fault → Prop
  | .noUsername => user.username = ""
  | .noHash => user.passwordHash = ""
  | .malformedHash => Phc.parse? user.passwordHash = none
  | .duplicateUsername username =>
    user.username = username ∧ ∃ earlier ∈ before, earlier.username = username

/-- The place of a fault in the order of reporting. -/
def Fault.rank : Fault → Nat
  | .noUsername => 0
  | .noHash => 1
  | .malformedHash => 2
  | .duplicateUsername _ => 3

/-- The first fault of an entry in the order of reporting. -/
structure Reports (before : List User) (user : User) (fault : Fault) : Prop where
  hasFault : user.HasFault before fault
  first : ∀ other, user.HasFault before other → fault.rank ≤ other.rank

theorem HasFault.eq_of_rank (h : user.HasFault before fault) (h' : user.HasFault before other)
    (hr : fault.rank = other.rank) : fault = other := by
  cases fault <;> cases other <;> grind [HasFault, Fault.rank]

theorem Reports.unique (h : user.Reports before fault) (h' : user.Reports before other) :
    fault = other :=
  h.hasFault.eq_of_rank h'.hasFault
    (Nat.le_antisymm (h.first _ h'.hasFault) (h'.first _ h.hasFault))

theorem fault?_congr (h : ∀ name, name ∈ names ↔ name ∈ others) (user : User) :
    user.fault? names = user.fault? others := by
  have hc : names.contains user.username = others.contains user.username := by
    rw [Bool.eq_iff_iff, List.contains_iff_mem, List.contains_iff_mem, h]
  rw [fault?, fault?, hc]

theorem reports_of_fault? (h : user.fault? (before.map username) = some fault) :
    user.Reports before fault := by
  simp only [fault?, String.isEmpty_iff, Option.isNone_iff_eq_none, List.contains_iff_mem,
    List.mem_map] at h
  -- Each test is made where the ones before it, of lower rank, have found nothing.
  split_ifs at h with hn hh hp hm
  all_goals cases h
  · exact ⟨hn, fun _ _ => Nat.zero_le _⟩
  · exact ⟨hh, fun other ho => by cases other <;> grind [HasFault, Fault.rank]⟩
  · exact ⟨hp, fun other ho => by cases other <;> grind [HasFault, Fault.rank]⟩
  · exact ⟨⟨rfl, hm⟩, fun other ho => by cases other <;> grind [HasFault, Fault.rank]⟩

theorem fault?_ne_none (h : user.HasFault before fault) :
    user.fault? (before.map username) ≠ none := by
  intro hn
  obtain ⟨hv, hm⟩ := fault?_eq_none_iff.mp hn
  cases fault with
  | noUsername => exact hv.username_ne h
  | noHash => exact hv.passwordHash_ne h
  | malformedHash => exact hv.parse?_ne h
  | duplicateUsername =>
    obtain ⟨rfl, he⟩ := h
    exact hm (List.mem_map.mpr he)

theorem fault?_eq_some_iff :
    user.fault? (before.map username) = some fault ↔ user.Reports before fault := by
  refine ⟨reports_of_fault?, fun h => ?_⟩
  obtain ⟨other, ho⟩ := Option.ne_none_iff_exists'.mp (fault?_ne_none h.hasFault)
  rw [ho, (reports_of_fault? ho).unique h]

end User

/-- The fault that the entry at a place has behind the entries before it. -/
def userFaultAt? (names : List String) (users : List User) (i : Nat) : Option User.Fault :=
  users[i]?.bind fun user => user.fault? ((users.take i).map User.username ++ names)

theorem userFaultAt?_succ (names : List String) (first : User) (rest : List User) (i : Nat) :
    userFaultAt? names (first :: rest) (i + 1) = userFaultAt? (first.username :: names) rest i := by
  simp only [userFaultAt?, List.getElem?_cons_succ, List.take_succ_cons]
  refine congrArg _ (funext fun user => User.fault?_congr (fun name => ?_) user)
  simp [or_left_comm]

/-- The search for a fault ends at the first place that has one. -/
theorem firstUserFault?_eq_some_iff {found : Nat × User.Fault} :
    firstUserFault? names place users = some found ↔
      ∃ i fault, found = (place + i, fault) ∧ userFaultAt? names users i = some fault ∧
        ∀ j < i, userFaultAt? names users j = none := by
  induction users generalizing names place with
  | nil => simp [firstUserFault?, userFaultAt?]
  | cons first rest ih =>
    cases hf : first.fault? names with
    | some fault =>
      simp only [firstUserFault?, hf]
      constructor
      · rintro ⟨⟩
        exact ⟨0, fault, rfl, hf, fun j hj => absurd hj (Nat.not_lt_zero j)⟩
      · rintro ⟨i, other, rfl, hi, hb⟩
        cases i with
        | zero =>
          cases hf.symm.trans hi
          rfl
        | succ i => cases hf.symm.trans (hb 0 (Nat.succ_pos i))
    | none =>
      simp only [firstUserFault?, hf, ih]
      constructor
      · rintro ⟨i, fault, rfl, hi, hb⟩
        refine ⟨i + 1, fault, by rw [Nat.add_assoc, Nat.add_comm 1],
          (userFaultAt?_succ ..).trans hi, fun j hj => ?_⟩
        cases j with
        | zero => exact hf
        | succ j => exact (userFaultAt?_succ ..).trans (hb j (Nat.lt_of_succ_lt_succ hj))
      · rintro ⟨i, fault, rfl, hi, hb⟩
        cases i with
        | zero => cases hf.symm.trans hi
        | succ i =>
          refine ⟨i, fault, by rw [Nat.add_assoc, Nat.add_comm 1],
            (userFaultAt?_succ ..).symm.trans hi, fun j hj => ?_⟩
          exact (userFaultAt?_succ ..).symm.trans (hb (j + 1) (Nat.succ_lt_succ hj))

/-- The second entry repeats the name of the first, but its malformed hash is told before that. -/
example : firstUserFault? [] 0 [⟨"a", "$argon2id", true, []⟩, ⟨"a", "plain", true, []⟩] =
    some (1, .malformedHash) := by
  decide +kernel

theorem userFaultAt?_eq_some_iff :
    userFaultAt? [] users i = some fault ↔
      ∃ user, users[i]? = some user ∧ user.Reports (users.take i) fault := by
  simp only [userFaultAt?, Option.bind_eq_some_iff, List.append_nil, User.fault?_eq_some_iff]

namespace UserConfig

variable {config : UserConfig}

/-- The entry at a place is faulty by itself or has the name of an earlier one. -/
def IsFaultyAt (config : UserConfig) (i : Nat) : Prop :=
  ∃ user fault, config.entries[i]? = some user ∧ user.HasFault (config.entries.take i) fault

/-- At a place stands the first faulty entry, with the fault to report of it. -/
structure HasFirstFault (config : UserConfig) (i : Nat) (fault : User.Fault) : Prop where
  reports : ∃ user, config.entries[i]? = some user ∧
    user.Reports (config.entries.take i) fault
  least : ∀ j < i, ¬ config.IsFaultyAt j

theorem userFaultAt?_eq_none_iff :
    userFaultAt? [] config.entries i = none ↔ ¬ config.IsFaultyAt i := by
  simp only [userFaultAt?, Option.bind_eq_none_iff, List.append_nil, IsFaultyAt]
  constructor
  · rintro h ⟨user, fault, hu, hf⟩
    exact User.fault?_ne_none hf (h user hu)
  · intro h user hu
    refine Option.eq_none_iff_forall_ne_some.mpr fun fault hf => ?_
    exact h ⟨user, fault, hu, (User.reports_of_fault? hf).hasFault⟩

theorem firstUserFault?_eq_some_iff_hasFirstFault :
    firstUserFault? [] 0 config.entries = some (i, fault) ↔ config.HasFirstFault i fault := by
  rw [firstUserFault?_eq_some_iff]
  constructor
  · rintro ⟨j, other, he, hj, hb⟩
    rw [Nat.zero_add] at he
    cases he
    exact ⟨userFaultAt?_eq_some_iff.mp hj, fun k hk => userFaultAt?_eq_none_iff.mp (hb k hk)⟩
  · rintro ⟨hr, hl⟩
    exact ⟨i, fault, by rw [Nat.zero_add], userFaultAt?_eq_some_iff.mpr hr,
      fun j hj => userFaultAt?_eq_none_iff.mpr (hl j hj)⟩

theorem validate_eq_error_iff {e : ConfigError} :
    config.validate = .error e ↔ ∃ i fault, config.HasFirstFault i fault ∧
      e = .invalidComponent "user authenticator" s!"entry[{i}]: {fault.message}" := by
  simp only [← firstUserFault?_eq_some_iff_hasFirstFault, validate]
  rcases firstUserFault? [] 0 config.entries with _ | ⟨place, fault⟩
  · simp
  · constructor
    · rintro ⟨⟩
      exact ⟨place, fault, rfl, rfl⟩
    · rintro ⟨i, other, he, rfl⟩
      cases he
      rfl

/-- A list is accepted if each entry has a name and a well-formed hash and no two have one name. Of
any other list the first faulty entry is told, with the first of its faults. -/
theorem validate_reports_first_fault (config : UserConfig) :
    (config.validate = .ok () ↔
      (∀ user ∈ config.entries, user.username ≠ "" ∧ user.passwordHash ≠ "" ∧
        Phc.parse? user.passwordHash ≠ none) ∧
      config.entries.Pairwise fun a b => a.username ≠ b.username) ∧
    (∀ e, config.validate = .error e ↔ ∃ i fault, config.HasFirstFault i fault ∧
      e = .invalidComponent "user authenticator" s!"entry[{i}]: {fault.message}") := by
  refine ⟨validate_eq_ok_iff.trans (and_congr_left fun _ => ?_), fun e => validate_eq_error_iff⟩
  refine forall₂_congr fun user _ => ⟨fun h => ⟨h.1, h.2, h.3⟩, ?_⟩
  rintro ⟨hn, hh, hp⟩
  exact ⟨hn, hh, hp⟩

end UserConfig

end RegistryAuth
