import RegistryAuth.Configuration.Components
import RegistryAuth.Proofs.Except

/-! # What a configuration is read from

A configuration is read from the entries of a table. Each field of its server
section is read from one entry, or has its default if there is none, and each
component is read from a section of its own. A configuration is valid if its
realm, its time limit, its address and the types of its components are.
-/

namespace RegistryAuth

namespace Setting

/-- The entry of a name. What is no table has none. -/
def lookup? (setting : Setting) (name : String) : Option Setting :=
  (tableParts (some setting)).1.lookup name

def IsTable (setting : Setting) : Prop :=
  ∃ entries origin, setting = table entries origin

instance decidableIsTable (setting : Setting) : Decidable setting.IsTable :=
  match setting with
  | table entries origin => .isTrue ⟨entries, origin, rfl⟩
  | scalar _ _ => .isFalse nofun
  | list _ _ => .isFalse nofun

/-- A value is read from a setting, or is the default if there is no setting. -/
def Gives {α : Type} (setting? : Option Setting) (reader : SettingReader α) (default value : α) :
    Prop :=
  match setting? with
  | some setting => reader setting = .ok value
  | none => value = default

@[simp]
theorem lookup?_table (entries : List (String × Setting)) (origin : Origin) (name : String) :
    (table entries origin).lookup? name = entries.lookup name := rfl

theorem isTable_table (entries : List (String × Setting)) (origin : Origin) :
    (table entries origin).IsTable :=
  ⟨entries, origin, rfl⟩

end Setting

namespace Fields

variable {α : Type} {entries : List (String × Setting)} {reader : SettingReader α} {name : String}
  {place : Nat} {a : α} {found : Option α}

theorem read?_entries_of_none (h : entries.lookup name = none) :
    (Fields.entries entries).read? name place reader = .ok none := by
  simp only [read?, h, Option.map_none]

theorem read?_entries_of_some {setting : Setting} (h : entries.lookup name = some setting) :
    (Fields.entries entries).read? name place reader =
      ((reader setting).map some).mapError (·.within name) := by
  simp only [read?, h, Option.map_some]

theorem read?_entries_congr {others : List (String × Setting)}
    (h : entries.lookup name = others.lookup name) (place : Nat) (reader : SettingReader α) :
    (Fields.entries entries).read? name place reader =
      (Fields.entries others).read? name place reader := by
  simp only [read?, h]

theorem read?_entries_eq_some_iff :
    (Fields.entries entries).read? name place reader = .ok (some a) ↔
      ∃ setting, entries.lookup name = some setting ∧ reader setting = .ok a := by
  cases h : entries.lookup name with
  | none => simp [read?_entries_of_none h]
  | some setting => simp [read?_entries_of_some h]

theorem exists_read?_entries_iff {default value : α} :
    (∃ found, (Fields.entries entries).read? name place reader = .ok found ∧
        found.getD default = value) ↔
      Setting.Gives (entries.lookup name) reader default value := by
  cases h : entries.lookup name with
  | none => simp [read?_entries_of_none h, Setting.Gives, eq_comm]
  | some setting =>
    simp only [read?_entries_of_some h, Setting.Gives, Except.mapError_eq_ok_iff,
      Except.map_eq_ok_iff]
    constructor
    · rintro ⟨_, ⟨a, ha, rfl⟩, rfl⟩
      exact ha
    · exact fun ha => ⟨_, ⟨_, ha, rfl⟩, rfl⟩

theorem require_entries_eq_ok_iff {record : String} {width : Nat} :
    (Fields.entries entries).require record width name place found = .ok a ↔ found = some a := by
  cases found <;> simp [require]

end Fields

/-- The fields of the server section. -/
inductive ServerField where
  | listenAddress
  | realm
  | requestTimeout
  | rotateRefreshTokens
deriving DecidableEq, Repr

def ServerField.name : ServerField → String
  | listenAddress => "listen_addr"
  | realm => "realm"
  | requestTimeout => "request_timeout"
  | rotateRefreshTokens => "rotate_refresh_tokens"

namespace ServerSettings

/-- Each field is read from a setting of its own. -/
structure ReadsFrom (server : ServerSettings) (setting? : ServerField → Option Setting) : Prop where
  listenAddress : Setting.Gives (setting? .listenAddress) Setting.toText defaults.listenAddress
    server.listenAddress
  realm : Setting.Gives (setting? .realm) Setting.toText defaults.realm server.realm
  requestTimeout : Setting.Gives (setting? .requestTimeout) Setting.toNatural
    defaults.requestTimeout server.requestTimeout
  rotateRefreshTokens : Setting.Gives (setting? .rotateRefreshTokens) Setting.toBool
    defaults.rotateRefreshTokens server.rotateRefreshTokens

theorem ofSetting_eq_ok_iff {setting : Setting} (ht : setting.IsTable) {server : ServerSettings} :
    ofSetting setting = .ok server ↔ server.ReadsFrom fun field => setting.lookup? field.name := by
  obtain ⟨entries, origin, rfl⟩ := ht
  simp only [ofSetting, Fields.ofSetting, Except.bind_eq_ok_iff, Except.pure_eq_ok_iff,
    Except.ok.injEq, exists_eq_left']
  constructor
  · rintro ⟨_, hl, _, hr, _, ht, _, hb, rfl⟩
    exact ⟨Fields.exists_read?_entries_iff.mp ⟨_, hl, rfl⟩,
      Fields.exists_read?_entries_iff.mp ⟨_, hr, rfl⟩,
      Fields.exists_read?_entries_iff.mp ⟨_, ht, rfl⟩,
      Fields.exists_read?_entries_iff.mp ⟨_, hb, rfl⟩⟩
  · rintro ⟨hl, hr, ht, hb⟩
    obtain ⟨_, hl, el⟩ := Fields.exists_read?_entries_iff.mpr hl
    obtain ⟨_, hr, er⟩ := Fields.exists_read?_entries_iff.mpr hr
    obtain ⟨_, ht, et⟩ := Fields.exists_read?_entries_iff.mpr ht
    obtain ⟨_, hb, eb⟩ := Fields.exists_read?_entries_iff.mpr hb
    exact ⟨_, hl, _, hr, _, ht, _, hb, by rw [el, er, et, eb]⟩

/-- Of the realm only its emptiness matters. -/
theorem validate_congr {server other : ServerSettings} (hr : server.realm = "" ↔ other.realm = "")
    (ht : server.requestTimeout = other.requestTimeout)
    (hl : server.listenAddress = other.listenAddress) : server.validate = other.validate := by
  have he : server.realm.isEmpty = other.realm.isEmpty := by
    rw [Bool.eq_iff_iff, String.isEmpty_iff, String.isEmpty_iff, hr]
  simp only [validate, socketAddress, he, ht, hl]

theorem validate_eq_ok_iff {server : ServerSettings} :
    server.validate = .ok () ↔
      server.realm ≠ "" ∧ server.requestTimeout ≠ 0 ∧
        ∃ address, SocketAddress.parse? server.listenAddress = some address := by
  unfold validate
  by_cases hr : server.realm = ""
  · rw [if_pos (String.isEmpty_iff.mpr hr)]
    exact iff_of_false nofun fun h => h.1 hr
  rw [if_neg (mt String.isEmpty_iff.mp hr)]
  by_cases ht : server.requestTimeout = 0
  · rw [if_pos ht]
    exact iff_of_false nofun fun h => h.2.1 ht
  rw [if_neg ht, socketAddress]
  cases ha : SocketAddress.parse? server.listenAddress with
  | none => exact iff_of_false nofun fun ⟨_, _, _, h⟩ => nomatch h
  | some address => exact iff_of_true rfl ⟨hr, ht, address, rfl⟩

end ServerSettings

namespace ComponentKind

/-- The name of the section of a component. -/
def sectionName : ComponentKind → String
  | passwordAuthenticator => "password_authenticator"
  | authorizer => "authorizer"
  | accessTokenIssuer => "access_token_issuer"
  | refreshTokenIssuer => "refresh_token_issuer"

end ComponentKind

namespace Configuration

theorem ofSetting_eq_ok_iff {root : Setting} (ht : root.IsTable) {configuration : Configuration} :
    ofSetting root = .ok configuration ↔
      (∃ server, root.lookup? "server" = some server ∧
        ServerSettings.ofSetting server = .ok configuration.server) ∧
      ∀ kind : ComponentKind, ∃ part, root.lookup? kind.sectionName = some part ∧
        ComponentSettings.ofSetting part = .ok (configuration.settings kind) := by
  obtain ⟨entries, origin, rfl⟩ := ht
  simp only [ofSetting, Fields.ofSetting, Except.bind_eq_ok_iff, Except.pure_eq_ok_iff,
    Except.ok.injEq, exists_eq_left', Fields.require_entries_eq_ok_iff]
  constructor
  · rintro ⟨_, hs, _, hp, _, ha, _, hi, _, hr, _, rfl, _, rfl, _, rfl, _, rfl, _, rfl, rfl⟩
    refine ⟨Fields.read?_entries_eq_some_iff.mp hs, ?_⟩
    rintro (_ | _ | _ | _)
    · exact Fields.read?_entries_eq_some_iff.mp hp
    · exact Fields.read?_entries_eq_some_iff.mp ha
    · exact Fields.read?_entries_eq_some_iff.mp hi
    · exact Fields.read?_entries_eq_some_iff.mp hr
  · rintro ⟨hs, hk⟩
    exact ⟨_, Fields.read?_entries_eq_some_iff.mpr hs,
      _, Fields.read?_entries_eq_some_iff.mpr (hk .passwordAuthenticator),
      _, Fields.read?_entries_eq_some_iff.mpr (hk .authorizer),
      _, Fields.read?_entries_eq_some_iff.mpr (hk .accessTokenIssuer),
      _, Fields.read?_entries_eq_some_iff.mpr (hk .refreshTokenIssuer),
      _, rfl, _, rfl, _, rfl, _, rfl, _, rfl, rfl⟩

end Configuration

end RegistryAuth
