import RegistryAuth.Registry
import RegistryAuth.Token.Issuers

/-! # Configured issuers

The `jwt` issuers of access and refresh tokens. An issuer must have a name and a
lifetime of at most a year, and its signing key must load. A refresh token
issuer must also be able to check its own signatures.
-/

namespace RegistryAuth

/-- The longest lifetime that can be configured, in seconds. -/
def maxLifetime : Nat := 365 * 24 * 60 * 60

inductive IssuerFault where
  | noIssuer
  | zeroLifetime
  | longLifetime
  | key (cause : KeyLoadError)
deriving DecidableEq, Repr

def IssuerFault.message : IssuerFault → String
  | noIssuer => "issuer is required"
  | zeroLifetime => "expiration must be > 0"
  | longLifetime => s!"expiration must be at most {maxLifetime} seconds"
  | key cause => cause.message

def lifetimeFault? (lifetime : Nat) : Option IssuerFault :=
  if lifetime = 0 then some .zeroLifetime
  else if lifetime > maxLifetime then some .longLifetime
  else none

/-- The first fault of an issuer's name, its lifetime and its key. -/
def issuerFault? (issuer : String) (lifetime : Nat) (key : Except KeyLoadError SigningKey) :
    Option IssuerFault :=
  if issuer.isEmpty then some .noIssuer
  else match lifetimeFault? lifetime, key with
    | some fault, _ => some fault
    | none, .error cause => some (.key cause)
    | none, .ok _ => none

structure AccessIssuerConfig where
  issuer : String
  audience : Option String
  lifetime : Nat
  signingKey : SigningKeyConfig
deriving DecidableEq, Repr

namespace AccessIssuerConfig

def reader : JsonReader AccessIssuerConfig :=
  RecordReader.toReader "JwtAccessTokenIssuerConfig" <|
    AccessIssuerConfig.mk
      <$> RecordReader.required "issuer" JsonReader.text
      <*> RecordReader.defaulted "audience" (JsonReader.optional JsonReader.text) none
      <*> RecordReader.defaulted "expiration" JsonReader.nat64 300
      <*> RecordReader.required "signing_key" SigningKeyConfig.reader

def invalid {α : Type} (message : String) : Except ConfigError α :=
  .error (.invalidComponent "jwt access token issuer" message)

def validate (config : AccessIssuerConfig) (files : Files) : Except ConfigError Unit :=
  match issuerFault? config.issuer config.lifetime (config.signingKey.load files false) with
  | some fault => invalid fault.message
  | none => .ok ()

def build (config : AccessIssuerConfig) (files : Files) :
    Except ConfigError (Built AccessTokenIssuer) :=
  match config.signingKey.load files false with
  | .error cause => invalid cause.message
  | .ok key =>
    let issuer : JwtAccessIssuer := ⟨config.issuer, config.audience, config.lifetime, key⟩
    .ok ⟨issuer.component, []⟩

def recipe (files : Files) (config : AccessIssuerConfig) : Recipe AccessTokenIssuer :=
  ⟨config.validate files, config.build files⟩

end AccessIssuerConfig

structure RefreshIssuerConfig where
  issuer : String
  lifetime : Nat
  signingKey : SigningKeyConfig
deriving DecidableEq, Repr

namespace RefreshIssuerConfig

def reader : JsonReader RefreshIssuerConfig :=
  RecordReader.toReader "JwtRefreshTokenIssuerConfig" <|
    RefreshIssuerConfig.mk
      <$> RecordReader.required "issuer" JsonReader.text
      <*> RecordReader.defaulted "expiration" JsonReader.nat64 (7 * 24 * 60 * 60)
      <*> RecordReader.required "signing_key" SigningKeyConfig.reader

def invalid {α : Type} (message : String) : Except ConfigError α :=
  .error (.invalidComponent "jwt refresh token issuer" message)

def validate (config : RefreshIssuerConfig) (files : Files) : Except ConfigError Unit :=
  match issuerFault? config.issuer config.lifetime (config.signingKey.load files true) with
  | some fault => invalid fault.message
  | none => .ok ()

def build (config : RefreshIssuerConfig) (files : Files) :
    Except ConfigError (Built RefreshTokenIssuer) :=
  match config.signingKey.load files true with
  | .error cause => invalid cause.message
  | .ok key =>
    let issuer : JwtRefreshIssuer := ⟨config.issuer, config.lifetime, key⟩
    .ok ⟨issuer.component, []⟩

def recipe (files : Files) (config : RefreshIssuerConfig) : Recipe RefreshTokenIssuer :=
  ⟨config.validate files, config.build files⟩

end RefreshIssuerConfig

/-- The issuers of access tokens that a configuration can name. -/
def AccessTokenIssuer.registry (files : Files) : Registry AccessTokenIssuer :=
  ⟨"access token issuer",
    [("jwt", Decoder.ofReader AccessIssuerConfig.reader (AccessIssuerConfig.recipe files))]⟩

/-- The issuers of refresh tokens that a configuration can name. -/
def RefreshTokenIssuer.registry (files : Files) : Registry RefreshTokenIssuer :=
  ⟨"refresh token issuer",
    [("jwt", Decoder.ofReader RefreshIssuerConfig.reader (RefreshIssuerConfig.recipe files))]⟩

end RegistryAuth
