import RegistryAuth.Proofs.Components.Users

/-! # Answers of a user table

A table made from a valid list answers by the names of its entries. Whoever is
authenticated is also found under that name, the decoy opens no account, and the
order of the entries does not matter.
-/

namespace RegistryAuth

namespace Reply

variable {α : Type} {x : Except AuthError α} {a : α}

theorem ofExcept_eq_value_iff : ofExcept x = value a ↔ x = .ok a := by
  cases x <;> simp [ofExcept, value, failure]

end Reply

namespace UserTable

variable {table other : UserTable} {users others : List User} {salt salt' : Bytes}
  {username password id : String} {user : User} {subject : Subject}

/-- The subject that the table has under an id. -/
def findSubject (table : UserTable) (id : String) : Option Subject :=
  (table.find? id).map User.subject

theorem repository?_component (table : UserTable) :
    table.component.repository? = some ⟨fun id => Reply.value (table.findSubject id)⟩ := rfl

/-- The decoy hash takes part in the work but not in the answer. -/
theorem authenticate_eq (table : UserTable) (username password : String) :
    table.authenticate username password =
      match table.find? username with
      | some user =>
        if Password.verify password user.passwordHash && user.enabled then .ok user.subject
        else .error .authenticationFailed
      | none => .error .authenticationFailed := by
  cases hf : table.find? username with
  | none => simp only [authenticate, hf]
  | some user =>
    simp only [authenticate, hf]
    rfl

theorem component_congr (h : ∀ username, table.find? username = other.find? username) :
    table.component = other.component := by
  have hf : table.find? = other.find? := funext h
  simp only [component, authenticate_eq, hf]

theorem exists_find?_ofUsers_iff (hd : users.Pairwise fun a b => a.username ≠ b.username)
    {p : User → Prop} :
    (∃ user, (ofUsers salt users).find? username = some user ∧ p user) ↔
      ∃ user ∈ users, user.username = username ∧ p user := by
  have hf : ∀ user, (ofUsers salt users).find? username = some user ↔
      user ∈ users ∧ user.username = username := fun user => find?_eq_some_iff hd
  simp only [hf, and_assoc]

theorem find?_ofUsers_perm (hd : users.Pairwise fun a b => a.username ≠ b.username)
    (hp : users.Perm others) (username : String) :
    (ofUsers salt users).find? username = (ofUsers salt' others).find? username := by
  have hd' : others.Pairwise fun a b => a.username ≠ b.username := hp.pairwise hd (fun h => h.symm)
  refine Option.ext fun user => ?_
  rw [find?_eq_some_iff hd, find?_eq_some_iff hd']
  exact and_congr_left fun _ => hp.mem_iff

end UserTable

namespace UserConfig

variable {config : UserConfig} {salt : Bytes}

/-- The authenticator that is built from the list. -/
def component (config : UserConfig) (salt : Bytes) : PasswordAuthenticator :=
  (UserTable.ofUsers salt config.entries).component

theorem build_recipe (config : UserConfig) (salt : Bytes) :
    (config.recipe salt).build = .ok ⟨config.component salt, []⟩ := rfl

theorem authenticate_component_eq_value_iff (h : config.validate = .ok ())
    {username password : String} {subject : Subject} :
    (config.component salt).authenticate username password = Reply.value subject ↔
      ∃ user ∈ config.entries, user.username = username ∧ user.enabled = true ∧
        Password.verify password user.passwordHash = true ∧
        subject = ⟨username, true, user.attributes⟩ := by
  have hd := (validate_eq_ok_iff.mp h).2
  change Reply.ofExcept _ = _ ↔ _
  rw [Reply.ofExcept_eq_value_iff, UserTable.authenticate_eq_ok_iff,
    UserTable.exists_find?_ofUsers_iff hd]
  refine exists_congr fun user => and_congr_right fun _ => and_congr_right fun hn => ?_
  refine and_congr_right fun he => and_congr_right fun _ => ?_
  rw [User.subject, hn, he, eq_comm]

theorem authenticate_component_of_refused {username password : String} (h : ∀ subject,
    (config.component salt).authenticate username password ≠ Reply.value subject) :
    (config.component salt).authenticate username password =
      Reply.failure .authenticationFailed := by
  change Reply.ofExcept _ = _
  cases ha : (UserTable.ofUsers salt config.entries).authenticate username password with
  | ok subject => exact absurd (congrArg Reply.ofExcept ha) (h subject)
  | error e =>
    rw [UserTable.authenticate_eq_error ha]
    rfl

theorem findSubject_eq_some_iff (h : config.validate = .ok ()) {id : String} {subject : Subject} :
    (UserTable.ofUsers salt config.entries).findSubject id = some subject ↔
      ∃ user ∈ config.entries, user.username = id ∧
        subject = ⟨id, user.enabled, user.attributes⟩ := by
  have hd := (validate_eq_ok_iff.mp h).2
  rw [UserTable.findSubject, Option.map_eq_some_iff, UserTable.exists_find?_ofUsers_iff hd]
  refine exists_congr fun user => and_congr_right fun _ => and_congr_right fun hn => ?_
  rw [User.subject, hn, eq_comm]

theorem validate_cons {user : User} {users : List User} (hu : user.IsValid)
    (hn : ∀ other ∈ users, other.username ≠ user.username)
    (h : (UserConfig.mk users).validate = .ok ()) :
    (UserConfig.mk (user :: users)).validate = .ok () := by
  obtain ⟨hv, hd⟩ := validate_eq_ok_iff.mp h
  exact validate_eq_ok_iff.mpr ⟨List.forall_mem_cons.mpr ⟨hu, hv⟩,
    List.pairwise_cons.mpr ⟨fun other hm => (hn other hm).symm, hd⟩⟩

theorem validate_perm {others : List User} (h : config.validate = .ok ())
    (hp : config.entries.Perm others) : (UserConfig.mk others).validate = .ok () := by
  obtain ⟨hv, hd⟩ := validate_eq_ok_iff.mp h
  exact validate_eq_ok_iff.mpr ⟨fun user hm => hv user (hp.mem_iff.mpr hm),
    hp.pairwise hd fun hn => hn.symm⟩

/-- The authenticator of a valid list accepts just the passwords of its enabled entries, and finds
just its entries. Nothing opens the decoy, and another order of the entries gives the same
authenticator. -/
theorem valid_list_answers_by_name (config : UserConfig) (salt : Bytes)
    (h : config.validate = .ok ()) :
    (config.recipe salt).build = .ok ⟨config.component salt, []⟩ ∧
    (∀ username password subject,
      (config.component salt).authenticate username password = Reply.value subject ↔
        ∃ user ∈ config.entries, user.username = username ∧ user.enabled = true ∧
          Password.verify password user.passwordHash = true ∧
          subject = ⟨username, true, user.attributes⟩) ∧
    (∀ username password,
      (∀ user ∈ config.entries, user.username = username → user.enabled = true →
        Password.verify password user.passwordHash = false) →
      (config.component salt).authenticate username password =
        Reply.failure .authenticationFailed) ∧
    (salt.length = 16 → Password.verify UserTable.decoyPassword
      (UserTable.ofUsers salt config.entries).decoyHash = true) ∧
    (∀ username password, (∀ user ∈ config.entries, user.username ≠ username) →
      (config.component salt).authenticate username password =
        Reply.failure .authenticationFailed) ∧
    (∃ repository, (config.component salt).repository? = some repository ∧
      (∀ id, ∃ found, repository.findSubject id = Reply.value found ∧
        ∀ subject, found = some subject ↔ ∃ user ∈ config.entries, user.username = id ∧
          subject = ⟨id, user.enabled, user.attributes⟩) ∧
      ∀ username password subject,
        (config.component salt).authenticate username password = Reply.value subject →
        repository.findSubject subject.id = Reply.value (some subject)) ∧
    ∀ others salt', config.entries.Perm others → (UserConfig.mk others).validate = .ok () ∧
      (UserConfig.mk others).component salt' = config.component salt := by
  have refused : ∀ username password,
      (∀ user ∈ config.entries, user.username = username → user.enabled = true →
        Password.verify password user.passwordHash = false) →
      (config.component salt).authenticate username password =
        Reply.failure .authenticationFailed := by
    intro username password hn
    refine authenticate_component_of_refused fun subject ha => ?_
    obtain ⟨user, hm, hu, he, hp, -⟩ := (authenticate_component_eq_value_iff h).mp ha
    rw [hn user hm hu he] at hp
    cases hp
  refine ⟨build_recipe config salt, fun _ _ _ => authenticate_component_eq_value_iff h, refused,
    fun hs => Password.verify_hash (by omega) (by omega) _,
    fun username password hn => refused username password fun user hm hu => absurd hu (hn user hm),
    ⟨_, UserTable.repository?_component _, fun id => ⟨_, rfl, fun _ => findSubject_eq_some_iff h⟩,
      ?_⟩, fun others salt' hp => ⟨validate_perm h hp, ?_⟩⟩
  · intro username password subject ha
    obtain ⟨user, hm, hu, he, -, rfl⟩ := (authenticate_component_eq_value_iff h).mp ha
    refine congrArg Reply.value ((findSubject_eq_some_iff h).mpr ⟨user, hm, hu, ?_⟩)
    rw [he]
  · exact UserTable.component_congr fun username =>
      (UserTable.find?_ofUsers_perm (validate_eq_ok_iff.mp h).2 hp username).symm

/-- One of two users is disabled. Neither that user, though with the right password, nor a stranger
with the password of the decoy gets in, and the list may as well be turned round. -/
theorem disabled_user_and_stranger_fail :
    ∃ (config : UserConfig) (salt : Bytes), config.validate = .ok () ∧
      (config.component salt).authenticate "alice" "secret" =
        Reply.value ⟨"alice", true, [("team", "infra")]⟩ ∧
      (∃ user ∈ config.entries, user.username = "bob" ∧
        Password.verify "secret" user.passwordHash = true) ∧
      (config.component salt).authenticate "bob" "secret" =
        Reply.failure .authenticationFailed ∧
      Password.verify UserTable.decoyPassword
        (UserTable.ofUsers salt config.entries).decoyHash = true ∧
      (config.component salt).authenticate "mallory" UserTable.decoyPassword =
        Reply.failure .authenticationFailed ∧
      (UserConfig.mk config.entries.reverse).component [] = config.component salt := by
  obtain ⟨hash, ha, hv⟩ := User.exists_passwordHash (by decide : "alice" ≠ "") "secret"
  obtain ⟨other, hb, hw⟩ := User.exists_passwordHash (by decide : "bob" ≠ "") "secret"
  let alice : User := ⟨"alice", hash, true, [("team", "infra")]⟩
  let bob : User := ⟨"bob", other, false, []⟩
  let config : UserConfig := ⟨[alice, bob]⟩
  have hm : ∀ user ∈ config.entries, user = alice ∨ user = bob := by simp [config]
  have hc : config.validate = .ok () :=
    validate_eq_ok_iff.mpr ⟨by simpa [config] using ⟨hv true _, hw false _⟩,
      by simp [config, alice, bob]⟩
  obtain ⟨-, accepts, refuses, opens, unknown, -, reordered⟩ :=
    valid_list_answers_by_name config (List.replicate 16 0) hc
  refine ⟨config, _, hc, (accepts _ _ _).mpr ⟨alice, by simp [config], rfl, rfl, ha, rfl⟩,
    ⟨bob, by simp [config], rfl, hb⟩, ?_, opens rfl, ?_,
    (reordered _ [] (List.reverse_perm _).symm).2⟩
  · refine refuses _ _ fun user hu hn he => ?_
    rcases hm user hu with rfl | rfl
    · exact absurd hn (by decide : "alice" ≠ "bob")
    · cases he
  · refine unknown _ _ fun user hu hn => ?_
    rcases hm user hu with rfl | rfl
    · exact absurd hn (by decide : "alice" ≠ "mallory")
    · exact absurd hn (by decide : "bob" ≠ "mallory")

end UserConfig

end RegistryAuth
