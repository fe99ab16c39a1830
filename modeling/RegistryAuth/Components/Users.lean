import RegistryAuth.Authentication
import RegistryAuth.Components.Authorizers
import RegistryAuth.Password.Hash

/-! # Configured users

The `user` authenticator keeps a list of users with hashed passwords. Of several
entries of one name the last counts, but a valid list has no such entries. A
name that is not in the list is checked against a decoy, so that the answer
takes as long as for a wrong password; nothing opens the decoy.
-/

namespace RegistryAuth

structure User where
  username : String
  passwordHash : String
  enabled : Bool
  attributes : Attributes
deriving DecidableEq, Repr

namespace User

def subject (user : User) : Subject := ⟨user.username, user.enabled, user.attributes⟩

def reader : JsonReader User :=
  RecordReader.toReader "User" <|
    User.mk
      <$> RecordReader.required "username" JsonReader.text
      <*> RecordReader.required "password_hash" JsonReader.text ["passwordHash"]
      <*> RecordReader.defaulted "enabled" JsonReader.bool false
      <*> RecordReader.defaulted "attributes" Attributes.reader [] ["attrs"]

inductive Fault where
  | noUsername
  | noHash
  | malformedHash
  | duplicateUsername (username : String)
deriving DecidableEq, Repr

def Fault.message : Fault → String
  | noUsername => "username is required"
  | noHash => "password hash is required"
  | malformedHash => "password hash is not a valid PHC string"
  | duplicateUsername username => "duplicate username " ++ Text.quoted username

/-- The fault of an entry after entries of the given names. -/
def fault? (earlier : List String) (user : User) : Option Fault :=
  if user.username.isEmpty then some .noUsername
  else if user.passwordHash.isEmpty then some .noHash
  else if (Phc.parse? user.passwordHash).isNone then some .malformedHash
  else if earlier.contains user.username then some (.duplicateUsername user.username)
  else none

end User

/-- The first faulty entry of a list, with its place. `earlier` holds the names before it and
`place` counts them. -/
def firstUserFault? (earlier : List String) (place : Nat) : List User → Option (Nat × User.Fault)
  | [] => none
  | user :: rest =>
    match user.fault? earlier with
    | some fault => some (place, fault)
    | none => firstUserFault? (user.username :: earlier) (place + 1) rest

structure UserTable where
  users : List User
  /-- Checked in place of the hash of a user who is not in the table. -/
  decoyHash : String
deriving DecidableEq, Repr

namespace UserTable

def decoyPassword : String := "registry-auth-dummy-password"

def ofUsers (salt : Bytes) (users : List User) : UserTable :=
  ⟨users, (Password.hash salt decoyPassword).render⟩

def find? (table : UserTable) (username : String) : Option User :=
  table.users.reverse.find? fun user => user.username == username

def authenticate (table : UserTable) (username password : String) : Except AuthError Subject :=
  let found := table.find? username
  let hash := (found.map User.passwordHash).getD table.decoyHash
  let verified := Password.verify password hash
  match found with
  | some user =>
    if verified && user.enabled then .ok user.subject else .error .authenticationFailed
  | none => .error .authenticationFailed

def component (table : UserTable) : PasswordAuthenticator where
  authenticate username password := Reply.ofExcept (table.authenticate username password)
  repository? := some ⟨fun id => Reply.value ((table.find? id).map User.subject)⟩

end UserTable

/-- The configuration of a user list. -/
structure UserConfig where
  entries : List User
deriving DecidableEq, Repr

namespace UserConfig

def reader : JsonReader UserConfig :=
  RecordReader.toReader "UserAuthenticatorConfig" <|
    UserConfig.mk <$> RecordReader.defaulted "entries" (JsonReader.list User.reader) []

def validate (config : UserConfig) : Except ConfigError Unit :=
  match firstUserFault? [] 0 config.entries with
  | some (place, fault) =>
    .error (.invalidComponent "user authenticator" s!"entry[{place}]: {fault.message}")
  | none => .ok ()

def recipe (salt : Bytes) (config : UserConfig) : Recipe PasswordAuthenticator :=
  ⟨config.validate, .ok ⟨(UserTable.ofUsers salt config.entries).component, []⟩⟩

end UserConfig

/-- The password authenticators that a configuration can name. -/
def PasswordAuthenticator.registry (decoySalt : Bytes) : Registry PasswordAuthenticator :=
  ⟨"password authenticator",
    [("user", Decoder.ofReader UserConfig.reader (UserConfig.recipe decoySalt))]⟩

end RegistryAuth
