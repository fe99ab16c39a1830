import RegistryAuth.ConfigError
import RegistryAuth.TokenService

/-! # Assembly

A service has one component of each of four kinds. Its components are assembled
in phases, each of which takes one step for every kind, in one order throughout.
An assembly ends at the first step that fails and notes the steps that it took.
-/

namespace RegistryAuth

/-- The kinds of components, in the order in which they are seen to. -/
inductive ComponentKind where
  | passwordAuthenticator
  | authorizer
  | accessTokenIssuer
  | refreshTokenIssuer
deriving DecidableEq, Repr

namespace ComponentKind

abbrev Component : ComponentKind → Type
  | passwordAuthenticator => PasswordAuthenticator
  | authorizer => Authorizer
  | accessTokenIssuer => AccessTokenIssuer
  | refreshTokenIssuer => RefreshTokenIssuer

def all : List ComponentKind :=
  [passwordAuthenticator, authorizer, accessTokenIssuer, refreshTokenIssuer]

end ComponentKind

/-- For each kind of component a value of its own. -/
structure PerComponent (F : Type → Type) where
  passwordAuthenticator : F PasswordAuthenticator
  authorizer : F Authorizer
  accessTokenIssuer : F AccessTokenIssuer
  refreshTokenIssuer : F RefreshTokenIssuer

namespace PerComponent

variable {F : Type → Type} {values others : PerComponent F}

def get (values : PerComponent F) : (kind : ComponentKind) → F kind.Component
  | .passwordAuthenticator => values.passwordAuthenticator
  | .authorizer => values.authorizer
  | .accessTokenIssuer => values.accessTokenIssuer
  | .refreshTokenIssuer => values.refreshTokenIssuer

theorem ext_get (h : ∀ kind, values.get kind = others.get kind) : values = others := by
  obtain ⟨_, _, _, _⟩ := values
  obtain ⟨_, _, _, _⟩ := others
  cases h .passwordAuthenticator
  cases h .authorizer
  cases h .accessTokenIssuer
  cases h .refreshTokenIssuer
  rfl

end PerComponent

/-- What is done to a component on the way from its section to a service. -/
inductive AssemblyStep where
  | decode (kind : ComponentKind)
  | validate (kind : ComponentKind)
  | build (kind : ComponentKind)
deriving DecidableEq, Repr

/-- The outcome of some steps, with the steps that were taken. -/
structure Assembly (α : Type) where
  result : Except ConfigError α
  steps : List AssemblyStep

namespace Assembly

variable {α β : Type}

def pure (a : α) : Assembly α := ⟨.ok a, []⟩

def bind (x : Assembly α) (f : α → Assembly β) : Assembly β :=
  match x.result with
  | .ok a => ⟨(f a).result, x.steps ++ (f a).steps⟩
  | .error e => ⟨.error e, x.steps⟩

instance : Monad Assembly where
  pure := pure
  bind := bind

def take (step : AssemblyStep) (outcome : Except ConfigError α) : Assembly α := ⟨outcome, [step]⟩

/-- One step for every kind of component. -/
def phase {F : Type → Type} (step : (kind : ComponentKind) → Assembly (F kind.Component)) :
    Assembly (PerComponent F) := do
  return ⟨← step .passwordAuthenticator, ← step .authorizer, ← step .accessTokenIssuer,
    ← step .refreshTokenIssuer⟩

end Assembly

end RegistryAuth
