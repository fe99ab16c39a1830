import RegistryAuth.ConfigError
import RegistryAuth.Json.Reading
import RegistryAuth.Log

/-! # Component registries

A registry keeps, for one kind of component, decoders under names in ascending
order. A decoder reads a component's configuration section into a recipe, which
can be validated before it is built. A name is registered at most once and is
not empty; a registration that is refused changes nothing.
-/

namespace RegistryAuth

/-- A component together with what was logged when it was built. -/
structure Built (α : Type) where
  component : α
  log : List LogEvent

structure Recipe (α : Type) where
  validate : Except ConfigError Unit
  build : Except ConfigError (Built α)

abbrev Decoder (α : Type) := Json → Except DecodeError (Recipe α)

namespace Decoder

/-- Reads a section into a configuration and makes a recipe of it. A missing section is read like
an empty one. -/
def ofReader {α β : Type} (reader : JsonReader β) (recipe : β → Recipe α) : Decoder α :=
  fun settings =>
    let members := match settings with
      | .null => .object []
      | other => other
    (reader members).map recipe

end Decoder

structure Registry (α : Type) where
  kind : String
  entries : List (String × Decoder α)

inductive RegistrationError where
  | emptyName (kind : String)
  | nameTaken (kind name : String)
deriving DecidableEq, Repr

def RegistrationError.message : RegistrationError → String
  | emptyName kind => s!"registering {kind} factory: name must not be empty"
  | nameTaken kind name =>
    s!"registering {kind} factory: " ++ Text.quoted name ++ " is already registered"

namespace Registry

variable {α : Type}

def empty (kind : String) : Registry α := ⟨kind, []⟩

def resolve? (registry : Registry α) (name : String) : Option (Decoder α) :=
  registry.entries.lookup name

def names (registry : Registry α) : List String :=
  registry.entries.map (·.1)

def insertEntry (name : String) (decoder : Decoder α) :
    List (String × Decoder α) → List (String × Decoder α)
  | [] => [(name, decoder)]
  | (n, d) :: rest =>
    if name < n then (name, decoder) :: (n, d) :: rest
    else (n, d) :: insertEntry name decoder rest

def register (registry : Registry α) (name : String) (decoder : Decoder α) :
    Except RegistrationError (Registry α) :=
  if name.isEmpty then .error (.emptyName registry.kind)
  else if registry.names.contains name then .error (.nameTaken registry.kind name)
  else .ok { registry with entries := insertEntry name decoder registry.entries }

def instantiate (registry : Registry α) (name : String) (settings : Json) :
    Except ConfigError (Recipe α) :=
  match registry.resolve? name with
  | none => .error (.unknownComponentType registry.kind name registry.names)
  | some decoder =>
    (decoder settings).mapError fun e => .invalidComponent registry.kind s!"{name}: {e.message}"

/-- What can be asked of a registry. -/
inductive Step (α : Type) where
  | register (name : String) (decoder : Decoder α)
  | resolve (name : String)
  | names
  | instantiate (name : String) (settings : Json)

inductive Answer (α : Type) where
  | registered
  | refused (error : RegistrationError)
  | resolved (decoder : Option (Decoder α))
  | names (names : List String)
  | instantiated (result : Except ConfigError (Recipe α))

/-- The answer to a step, and the registry after it. -/
def perform (registry : Registry α) : Step α → Answer α × Registry α
  | .register name decoder =>
    match registry.register name decoder with
    | .ok extended => (.registered, extended)
    | .error e => (.refused e, registry)
  | .resolve name => (.resolved (registry.resolve? name), registry)
  | .names => (.names registry.names, registry)
  | .instantiate name settings => (.instantiated (registry.instantiate name settings), registry)

/-- The registry after steps taken one after the other. -/
def after (registry : Registry α) : List (Step α) → Registry α
  | [] => registry
  | step :: rest => (registry.perform step).2.after rest

def answers (registry : Registry α) : List (Step α) → List (Answer α)
  | [] => []
  | step :: rest => (registry.perform step).1 :: (registry.perform step).2.answers rest

end Registry

end RegistryAuth
