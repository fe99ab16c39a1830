import RegistryAuth.Text.Quoted

/-! # Configuration errors

Why a server cannot be set up: the layers of configuration do not make up a
configuration, a value of it is not acceptable, or a component cannot be made
from its section. Each cause has one message.
-/

namespace RegistryAuth

/-- Why the layers of configuration do not make up a configuration. -/
inductive BuildError where
  | fileParse
  | fileNotFound (name : String)
  | unsupportedFormat (path : String)
  | malformedKey (message : String)
  | missingField (key : String)
  | wrongType (found expected : String) (key origin : Option String)
  | wrongShape (message : String) (key : Option String)
deriving DecidableEq, Repr

namespace BuildError

def keyText (key : Option String) : String :=
  match key with
  | some key => " for key \x60" ++ key ++ "\x60"
  | none => ""

def originText (origin : Option String) : String :=
  match origin with
  | some origin => " in " ++ origin
  | none => ""

def message : BuildError → String
  | fileParse => "file parse"
  | fileNotFound name => "configuration file \"" ++ name ++ "\" not found"
  | unsupportedFormat path =>
    "configuration file \"" ++ path ++ "\" is not of a supported file format"
  | malformedKey text => text
  | missingField key => "missing configuration field \"" ++ key ++ "\""
  | wrongType found expected key origin =>
    s!"invalid type: {found}, expected {expected}" ++ keyText key ++ originText origin
  | wrongShape text key => text ++ keyText key

/-- A step and the key that it leads to; a place in a list follows its list without a dot. -/
def joinKey (step key : String) : String :=
  if key.isEmpty || key.toList.head? = some '[' then step ++ key else step ++ "." ++ key

/-- An error of a part as an error of the whole, where `step` leads to the part. -/
def within (step : String) : BuildError → BuildError
  | missingField key => missingField (joinKey step key)
  | wrongType found expected key origin =>
    wrongType found expected (some (joinKey step (key.getD ""))) origin
  | wrongShape text key => wrongShape text (some (joinKey step (key.getD "")))
  | other => other

end BuildError

/-- What a component must be able to do besides its own work. -/
inductive Capability where
  | verifyRefreshTokens
  | findSubjects
deriving DecidableEq, Repr

inductive ConfigError where
  | build (cause : BuildError)
  | validation (message : String)
  | unknownComponentType (kind name : String) (available : List String)
  | invalidComponent (kind message : String)
  | missingCapability (capability : Capability)
deriving DecidableEq, Repr

namespace ConfigError

def capabilityText : Capability → String
  | .verifyRefreshTokens => "refresh token issuer cannot verify refresh tokens"
  | .findSubjects => "password authenticator cannot serve as a subject repository"

def message : ConfigError → String
  | build cause => "Configuration build error: " ++ cause.message
  | validation text => "Invalid configuration: " ++ text
  | unknownComponentType kind name available =>
    "unknown " ++ kind ++ " type " ++ Text.quoted name ++ " (available: " ++
      ", ".intercalate available ++ ")"
  | invalidComponent kind text => s!"invalid {kind} configuration: {text}"
  | missingCapability capability => "missing capability: " ++ capabilityText capability

end ConfigError

end RegistryAuth
