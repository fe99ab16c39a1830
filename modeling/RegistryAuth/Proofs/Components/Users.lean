import Mathlib.Data.List.Nodup
import RegistryAuth.Components.Users
import RegistryAuth.Proofs.Password.Hash

/-! # What a user list accepts

The names in a valid list are present and distinct, so that an entry is found by
its name whatever its place. A password opens just the enabled entry of its name
whose hash accepts it.
-/

namespace RegistryAuth

variable {users : List User} {user : User} {earlier : List String} {place : Nat}

/-- An entry that is valid by itself. -/
structure User.IsValid (user : User) : Prop where
  username_ne : user.username ≠ ""
  passwordHash_ne : user.passwordHash ≠ ""
  parse?_ne : Phc.parse? user.passwordHash ≠ none

theorem User.fault?_eq_none_iff :
    user.fault? earlier = none ↔ user.IsValid ∧ user.username ∉ earlier := by
  have h : user.fault? earlier = none ↔ user.username ≠ "" ∧ user.passwordHash ≠ "" ∧
      Phc.parse? user.passwordHash ≠ none ∧ user.username ∉ earlier := by
    by_cases hn : user.username = "" <;> by_cases hh : user.passwordHash = "" <;>
      by_cases hp : Phc.parse? user.passwordHash = none <;>
      by_cases he : user.username ∈ earlier <;> simp [fault?, hn, hh, hp, he]
  rw [h]
  constructor
  · rintro ⟨hn, hh, hp, he⟩
    exact ⟨⟨hn, hh, hp⟩, he⟩
  · rintro ⟨⟨hn, hh, hp⟩, he⟩
    exact ⟨hn, hh, hp, he⟩

theorem User.isValid_of_hash {salt : Bytes} {password : String} (hn : user.username ≠ "")
    (hs : 8 ≤ salt.length) (hl : salt.length ≤ 48)
    (hh : user.passwordHash = (Password.hash salt password).render) : user.IsValid := by
  have hp := Password.parse?_render_hash hs hl password
  rw [← hh] at hp
  refine ⟨hn, ?_, by simp [hp]⟩
  intro he
  rw [he] at hp
  cases hp

theorem User.exists_passwordHash {username : String} (hn : username ≠ "") (password : String) :
    ∃ hash, Password.verify password hash = true ∧
      ∀ enabled attributes, User.IsValid ⟨username, hash, enabled, attributes⟩ := by
  have hs : 8 ≤ (List.replicate 16 (0 : UInt8)).length := by decide
  have hl : (List.replicate 16 (0 : UInt8)).length ≤ 48 := by decide
  exact ⟨_, Password.verify_hash hs hl password, fun _ _ => isValid_of_hash hn hs hl rfl⟩

theorem firstUserFault?_eq_none_iff :
    firstUserFault? earlier place users = none ↔
      (∀ user ∈ users, user.IsValid ∧ user.username ∉ earlier) ∧
        users.Pairwise fun a b => a.username ≠ b.username := by
  induction users generalizing earlier place with
  | nil => simp [firstUserFault?]
  | cons first rest ih =>
    simp only [List.forall_mem_cons, List.pairwise_cons]
    cases hf : first.fault? earlier with
    | some fault =>
      have hn : ¬ (first.IsValid ∧ first.username ∉ earlier) := by
        rw [← User.fault?_eq_none_iff, hf]
        exact nofun
      simp [firstUserFault?, hf, hn]
    | none =>
      have hn := User.fault?_eq_none_iff.mp hf
      simp only [firstUserFault?, hf, ih, List.mem_cons, not_or, hn]
      grind

theorem User.eq_of_distinct (hd : users.Pairwise fun a b => a.username ≠ b.username) {a b : User}
    (ha : a ∈ users) (hb : b ∈ users) (hn : a.username = b.username) : a = b :=
  List.inj_on_of_nodup_map (List.pairwise_map.mpr hd) ha hb hn

namespace UserConfig

variable {config : UserConfig}

theorem validate_eq_ok_iff :
    config.validate = .ok () ↔ (∀ user ∈ config.entries, user.IsValid) ∧
      config.entries.Pairwise fun a b => a.username ≠ b.username := by
  have h : config.validate = .ok () ↔ firstUserFault? [] 0 config.entries = none := by
    simp only [validate]
    split <;> simp [*]
  simp [h, firstUserFault?_eq_none_iff]

theorem validate_singleton (h : user.IsValid) : (UserConfig.mk [user]).validate = .ok () :=
  validate_eq_ok_iff.mpr ⟨by simpa using h, List.pairwise_singleton _ _⟩

end UserConfig

namespace UserTable

variable {table : UserTable} {username password : String} {subject : Subject}

theorem find?_eq_some (h : table.find? username = some user) :
    user ∈ table.users ∧ user.username = username := by
  refine ⟨List.mem_reverse.mp (List.mem_of_find?_eq_some h), ?_⟩
  simpa using List.find?_some h

theorem find?_eq_some_iff (hd : table.users.Pairwise fun a b => a.username ≠ b.username) :
    table.find? username = some user ↔ user ∈ table.users ∧ user.username = username := by
  refine ⟨find?_eq_some, ?_⟩
  rintro ⟨hm, rfl⟩
  cases hf : table.find? user.username with
  | none =>
    have hn := List.find?_eq_none.mp hf user (List.mem_reverse.mpr hm)
    simp at hn
  | some found =>
    obtain ⟨ho, hn⟩ := find?_eq_some hf
    rw [User.eq_of_distinct hd ho hm hn]

theorem authenticate_eq_ok_iff :
    table.authenticate username password = .ok subject ↔
      ∃ user, table.find? username = some user ∧ user.enabled = true ∧
        Password.verify password user.passwordHash = true ∧ user.subject = subject := by
  cases hf : table.find? username with
  | none => simp [authenticate, hf]
  | some user =>
    simp only [authenticate, hf, Option.map_some, Option.getD_some, Option.some.injEq]
    cases hv : Password.verify password user.passwordHash <;> cases he : user.enabled <;>
      simp [hv, he]

theorem authenticate_eq_error {e : AuthError}
    (h : table.authenticate username password = .error e) : e = .authenticationFailed := by
  cases hf : table.find? username <;> simp only [authenticate, hf] at h
  case none =>
    cases h
    rfl
  case some user =>
    split at h <;> cases h
    rfl

end UserTable

end RegistryAuth
