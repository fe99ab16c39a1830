import RegistryAuth.Configuration.Reading
import RegistryAuth.SocketAddress

/-! # Configuration

A configuration has the settings of the server and, for each of the four
components, the type that it is of and the section that a component of this type
reads. A valid one has a realm, a time limit and an address to listen on, and
all components have a type.
-/

namespace RegistryAuth

structure ServerSettings where
  listenAddress : String
  realm : String
  /-- How many seconds a request may take. -/
  requestTimeout : Nat
  /-- Whether a new refresh token is issued when one is redeemed. -/
  rotateRefreshTokens : Bool
deriving DecidableEq, Repr

structure ComponentSettings where
  type : String
  config : Json
deriving Repr

structure Configuration where
  server : ServerSettings
  passwordAuthenticator : ComponentSettings
  authorizer : ComponentSettings
  accessTokenIssuer : ComponentSettings
  refreshTokenIssuer : ComponentSettings
deriving Repr

namespace ServerSettings

def defaults : ServerSettings := ⟨"0.0.0.0:8080", "", 10, false⟩

def ofSetting : SettingReader ServerSettings := fun setting => do
  let fields ← Fields.ofSetting "ServerConfig" setting
  let listenAddress ← fields.read? "listen_addr" 0 Setting.toText
  let realm ← fields.read? "realm" 1 Setting.toText
  let requestTimeout ← fields.read? "request_timeout" 2 Setting.toNatural
  let rotateRefreshTokens ← fields.read? "rotate_refresh_tokens" 3 Setting.toBool
  return {
    listenAddress := listenAddress.getD defaults.listenAddress
    realm := realm.getD defaults.realm
    requestTimeout := requestTimeout.getD defaults.requestTimeout
    rotateRefreshTokens := rotateRefreshTokens.getD defaults.rotateRefreshTokens }

def socketAddress (server : ServerSettings) : Except ConfigError SocketAddress :=
  match SocketAddress.parse? server.listenAddress with
  | some address => .ok address
  | none =>
    .error (.validation ("server.listen_addr " ++ Text.quoted server.listenAddress ++
      ": invalid socket address syntax"))

def validate (server : ServerSettings) : Except ConfigError Unit := do
  if server.realm.isEmpty then .error (.validation "server.realm is required")
  if server.requestTimeout = 0 then .error (.validation "server.request_timeout must be > 0")
  let _ ← server.socketAddress

end ServerSettings

namespace ComponentSettings

def ofSetting : SettingReader ComponentSettings := fun setting => do
  let fields ← Fields.ofSetting "ComponentConfig" setting
  let type ← fields.read? "type" 0 Setting.toText
  let config ← fields.read? "config" 1 fun setting => .ok setting.toJson.sorted
  return ⟨← fields.require "ComponentConfig" 2 "type" 0 type, config.getD .null⟩

/-- Checks that the component configured under `name` has a type. -/
def validate (component : ComponentSettings) (name : String) : Except ConfigError Unit :=
  if component.type.isEmpty then .error (.validation (name ++ ".type is required")) else .ok ()

end ComponentSettings

namespace Configuration

def ofSetting : SettingReader Configuration := fun setting => do
  let fields ← Fields.ofSetting "AppConfig" setting
  let require {α : Type} (name : String) (place : Nat) (value : Option α) : Except BuildError α :=
    fields.require "AppConfig" 5 name place value
  let server ← fields.read? "server" 0 ServerSettings.ofSetting
  let passwordAuthenticator ← fields.read? "password_authenticator" 1 ComponentSettings.ofSetting
  let authorizer ← fields.read? "authorizer" 2 ComponentSettings.ofSetting
  let accessTokenIssuer ← fields.read? "access_token_issuer" 3 ComponentSettings.ofSetting
  let refreshTokenIssuer ← fields.read? "refresh_token_issuer" 4 ComponentSettings.ofSetting
  return {
    server := ← require "server" 0 server
    passwordAuthenticator := ← require "password_authenticator" 1 passwordAuthenticator
    authorizer := ← require "authorizer" 2 authorizer
    accessTokenIssuer := ← require "access_token_issuer" 3 accessTokenIssuer
    refreshTokenIssuer := ← require "refresh_token_issuer" 4 refreshTokenIssuer }

def validate (configuration : Configuration) : Except ConfigError Unit := do
  configuration.server.validate
  configuration.passwordAuthenticator.validate "password_authenticator"
  configuration.authorizer.validate "authorizer"
  configuration.accessTokenIssuer.validate "access_token_issuer"
  configuration.refreshTokenIssuer.validate "refresh_token_issuer"

end Configuration

end RegistryAuth
