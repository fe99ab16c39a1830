import RegistryAuth.CommandLine.Program
import RegistryAuth.Proofs.Codec.Bytes
import RegistryAuth.Proofs.Components.UserTable
import RegistryAuth.Proofs.Text.Trim

/-! # Printed password hashes

The program takes the line ends after a password off and prints a hash of one
line. An entry with that line can be added to any valid list of users, and lets
in whoever gives the password.
-/

namespace RegistryAuth

/-- Whatever valid list an enabled entry with the hash is added to, the list stays valid and the
password opens the entry. -/
def OpensAccounts (password hash : String) : Prop :=
  ∀ (username : String) (attributes : Attributes) (before after : List User) (decoySalt : Bytes),
    username ≠ "" → (UserConfig.mk (before ++ after)).validate = .ok () →
    (∀ user ∈ before ++ after, user.username ≠ username) →
    let config : UserConfig := ⟨before ++ ⟨username, hash, true, attributes⟩ :: after⟩
    config.validate = .ok () ∧
      (config.component decoySalt).authenticate username password =
        Reply.value ⟨username, true, attributes⟩

theorem opensAccounts_hash {salt : Bytes} (hs : 8 ≤ salt.length) (hl : salt.length ≤ 48)
    (password : String) : OpensAccounts password (Password.hash salt password).render := by
  intro username attributes before after decoySalt hn hv hd config
  -- The order of the entries is free, so the new one may stand first.
  have hc : config.validate = .ok () := by
    have hu : (User.mk username (Password.hash salt password).render true attributes).IsValid :=
      User.isValid_of_hash hn hs hl rfl
    exact UserConfig.validate_perm (UserConfig.validate_cons hu hd hv) List.perm_middle.symm
  refine ⟨hc, (UserConfig.authenticate_component_eq_value_iff hc).mpr ⟨_,
    List.mem_append_right _ List.mem_cons_self, rfl, rfl, Password.verify_hash hs hl password, rfl⟩⟩

namespace CommandLine

variable {surroundings : Surroundings} {password text : String}

/-- The password that a text holds: the text without the line ends after it. -/
structure IsPasswordOf (password text : String) : Prop where
  last : ∀ c ∈ password.toList.getLast?, ¬ (c = '\r' ∨ c = '\n')
  ends : ∃ after, text = password ++ after ∧ ∀ c ∈ after.toList, c = '\r' ∨ c = '\n'

/-- A text without the line ends after it. -/
def passwordOf (text : String) : String := String.ofList (text.toList.rdropWhile isLineEnd)

theorem isLineEnd_iff {c : Char} : isLineEnd c = true ↔ c = '\r' ∨ c = '\n' := by
  simp [isLineEnd]

theorem isPasswordOf_iff : IsPasswordOf password text ↔ password = passwordOf text := by
  have hl : ∀ c, isLineEnd c = false ↔ ¬ (c = '\r' ∨ c = '\n') := fun c => by
    rw [← isLineEnd_iff, Bool.not_eq_true]
  rw [passwordOf, ← String.toList_inj, String.toList_ofList, eq_comm, Text.rdropWhile_eq_iff]
  simp only [hl, isLineEnd_iff]
  constructor
  · rintro ⟨last, after, rfl, ha⟩
    exact ⟨last, after.toList, String.toList_append, ha⟩
  · rintro ⟨last, after, ht, ha⟩
    refine ⟨last, String.ofList after, ?_, by rwa [String.toList_ofList]⟩
    rw [← String.toList_inj, String.toList_append, String.toList_ofList, ht]

theorem passwordOf_ne_empty (h : ∃ c ∈ text.toList, ¬ (c = '\r' ∨ c = '\n')) :
    passwordOf text ≠ "" := by
  obtain ⟨c, hm, hc⟩ := h
  intro he
  obtain ⟨-, after, rfl, ha⟩ := isPasswordOf_iff.mpr he.symm
  exact hc (ha c (by simpa using hm))

theorem hashInput_ofText (hn : passwordOf text ≠ "") (salt : Bytes) :
    hashInput (Bytes.ofText text) salt =
      .printed ((Password.hash salt (passwordOf text)).render ++ "\n") := by
  have ht : Bytes.toText? (Bytes.ofText text) = some text := Bytes.toText?_eq_some_iff.mpr rfl
  have he : ¬ (passwordOf text).isEmpty = true := by simpa using hn
  simp only [hashInput, ht]
  exact if_neg he

/-- The arguments ask for the hash of a password, and nothing is wrong with them. -/
def Surroundings.AsksForHash (surroundings : Surroundings) : Prop :=
  ∃ arguments path, Arguments.parse surroundings.arguments = .ok arguments ∧
    configPath arguments surroundings.environment = .ok path ∧ arguments.hashPassword = true

theorem run_of_asksForHash (h : surroundings.AsksForHash) :
    run surroundings = hashInput surroundings.input surroundings.salt := by
  obtain ⟨arguments, path, ha, hp, hh⟩ := h
  simp only [run, ha, hp, hh, if_true]

/-- A text that does not consist of line ends holds one password. Each run on a text with that
password prints a hash of it, which accepts it and opens accounts to it. -/
theorem printed_hash_opens_accounts (text : String)
    (ht : ∃ c ∈ text.toList, ¬ (c = '\r' ∨ c = '\n')) :
    ∃ password, password ≠ "" ∧ (∀ other, IsPasswordOf other text ↔ other = password) ∧
      ∀ (surroundings : Surroundings) (input : String), surroundings.AsksForHash →
        surroundings.input = Bytes.ofText input → IsPasswordOf password input →
        surroundings.salt.length = 16 →
        ∃ line, run surroundings = .printed (line ++ "\n") ∧ '\n' ∉ line.toList ∧
          Phc.parse? line = some (Password.hash surroundings.salt password) ∧
          Password.verify password line = true ∧
          (∀ guess, Password.verify guess line = true ↔
            Password.hash surroundings.salt guess = Password.hash surroundings.salt password) ∧
          OpensAccounts password line := by
  have hn := passwordOf_ne_empty ht
  refine ⟨passwordOf text, hn, fun other => isPasswordOf_iff, ?_⟩
  intro surroundings input ha hi hp hs
  have hmin : 8 ≤ surroundings.salt.length := by omega
  have hmax : surroundings.salt.length ≤ 48 := by omega
  have he := isPasswordOf_iff.mp hp
  refine ⟨(Password.hash surroundings.salt (passwordOf text)).render, ?_,
    Password.newline_not_mem_render_hash _ _, Password.parse?_render_hash hmin hmax _,
    Password.verify_hash hmin hmax _, fun guess => Password.verify_hash_iff hmin hmax,
    opensAccounts_hash hmin hmax _⟩
  rw [run_of_asksForHash ha, hi, he, hashInput_ofText (he ▸ hn)]

/-- Runs on a password with line ends after it and without, under different salts. Both hashes let
in whoever gives the password, its blank at the end included. -/
theorem line_ends_are_no_part_of_password :
    ∃ line other,
      run ⟨["hash-password"], [], Bytes.ofText "pä:ss \r\n\n", ⟨[]⟩, "/", List.replicate 16 7⟩ =
        .printed (line ++ "\n") ∧
      run ⟨["--debug", "hash-password"], [], Bytes.ofText "pä:ss ", ⟨[]⟩, "/",
        List.replicate 16 250⟩ = .printed (other ++ "\n") ∧
      Password.verify "pä:ss " line = true ∧
      let config : UserConfig := ⟨[⟨"alice", line, true, []⟩, ⟨"bob", other, true, []⟩]⟩
      config.validate = .ok () ∧
        (config.component []).authenticate "alice" "pä:ss " = Reply.value ⟨"alice", true, []⟩ ∧
        (config.component []).authenticate "bob" "pä:ss " = Reply.value ⟨"bob", true, []⟩ := by
  have hp : IsPasswordOf "pä:ss " "pä:ss \r\n\n" := ⟨by simp, "\r\n\n", by decide, by simp⟩
  have hq : IsPasswordOf "pä:ss " "pä:ss " := ⟨by simp, "", by decide, by simp⟩
  obtain ⟨password, -, unique, prints⟩ :=
    printed_hash_opens_accounts "pä:ss \r\n\n" ⟨'p', by decide, by decide⟩
  obtain rfl := (unique _).mp hp
  obtain ⟨line, hr, -, -, hv, -, opens⟩ := prints ⟨["hash-password"], [], _, ⟨[]⟩, "/",
    List.replicate 16 7⟩ _ ⟨_, _, rfl, rfl, rfl⟩ rfl hp rfl
  obtain ⟨other, hr', -, -, -, -, opens'⟩ := prints ⟨["--debug", "hash-password"], [], _, ⟨[]⟩, "/",
    List.replicate 16 250⟩ _ ⟨_, _, rfl, rfl, rfl⟩ rfl hq rfl
  obtain ⟨hc, -⟩ := opens "alice" [] [] [] [] (by decide) rfl nofun
  obtain ⟨hc', hb⟩ := opens' "bob" [] [⟨"alice", line, true, []⟩] [] [] (by decide) hc (by simp)
  obtain ⟨hb', -⟩ := opens' "bob" [] [] [] [] (by decide) rfl nofun
  obtain ⟨-, ha⟩ := opens "alice" [] [] [⟨"bob", other, true, []⟩] [] (by decide) hb' (by simp)
  exact ⟨line, other, hr, hr', hv, hc', ha, hb⟩

end CommandLine

end RegistryAuth
