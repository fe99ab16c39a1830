import RegistryAuth.Components.Authorizers
import RegistryAuth.Components.Issuers
import RegistryAuth.Components.Users
import RegistryAuth.Configuration.Assembly
import RegistryAuth.Configuration.Basic
import RegistryAuth.Http.Router

/-! # Configured components

A configuration names its four components. All of them are decoded, then all are
validated, and only then are they built, in one order throughout, so that the
first failure in that order is the one reported. Built components make up a
token service if the users can be found again and refresh tokens verified.
-/

namespace RegistryAuth

/-- The registry of each kind. -/
abbrev Registries := PerComponent Registry

abbrev Recipes := PerComponent Recipe

abbrev Components := PerComponent id

/-- The components that are built in. -/
def Registries.builtin (files : Files) (decoySalt : Bytes) : Registries :=
  ⟨PasswordAuthenticator.registry decoySalt, Authorizer.registry, AccessTokenIssuer.registry files,
    RefreshTokenIssuer.registry files⟩

def ComponentSettings.instantiate {α : Type} (settings : ComponentSettings)
    (registry : Registry α) : Except ConfigError (Recipe α) :=
  registry.instantiate settings.type settings.config

namespace Configuration

def settings (configuration : Configuration) : ComponentKind → ComponentSettings
  | .passwordAuthenticator => configuration.passwordAuthenticator
  | .authorizer => configuration.authorizer
  | .accessTokenIssuer => configuration.accessTokenIssuer
  | .refreshTokenIssuer => configuration.refreshTokenIssuer

/-- What the section of a component decodes to. -/
def recipe (configuration : Configuration) (registries : Registries) (kind : ComponentKind) :
    Except ConfigError (Recipe kind.Component) :=
  (configuration.settings kind).instantiate (registries.get kind)

end Configuration

/-- Components with what was logged when they were built. -/
def Built.ofParts (parts : PerComponent Built) : Built Components :=
  ⟨⟨parts.passwordAuthenticator.component, parts.authorizer.component,
      parts.accessTokenIssuer.component, parts.refreshTokenIssuer.component⟩,
    parts.passwordAuthenticator.log ++ parts.authorizer.log ++ parts.accessTokenIssuer.log ++
      parts.refreshTokenIssuer.log⟩

namespace Configuration

variable (configuration : Configuration) (registries : Registries)

/-- Decodes the section of each component, validates all of them, and then builds them. -/
def assemble : Assembly (PerComponent Built) := do
  let recipes : Recipes ← Assembly.phase fun kind =>
    .take (.decode kind) (configuration.recipe registries kind)
  let _ : PerComponent fun _ => Unit ← Assembly.phase fun kind =>
    .take (.validate kind) (recipes.get kind).validate
  Assembly.phase fun kind => .take (.build kind) (recipes.get kind).build

/-- The components that a configuration names. -/
def buildComponents : Except ConfigError (Built Components) :=
  (configuration.assemble registries).result.map Built.ofParts

end Configuration

def Components.tokenService (components : Components) : Except ConfigError TokenService := do
  let authenticator ←
    Authenticator.ofComponents components.passwordAuthenticator components.refreshTokenIssuer
  let pipeline : TokenPipeline :=
    ⟨authenticator, components.authorizer, components.accessTokenIssuer,
      components.refreshTokenIssuer⟩
  return pipeline.service.logged

/-- The server that answers requests by a service as the settings say. -/
def Http.Server.ofSettings (settings : ServerSettings) (service : TokenService) : Http.Server :=
  ⟨service, settings.realm, settings.rotateRefreshTokens⟩

end RegistryAuth
