import RegistryAuth.Configuration.Basic
import RegistryAuth.Configuration.Layer

/-! # Loading a configuration

A configuration is read from layers, and what they make up together is
validated: a value counts only if no later layer replaces it.
-/

namespace RegistryAuth.Configuration

def ofLayers (layers : List Layer) : Except ConfigError Configuration := do
  let configuration ← (ofSetting (Setting.ofLayers layers)).mapError .build
  configuration.validate
  return configuration

/-- The configuration that a single text in YAML makes up. -/
def parse (yaml : String) : Except ConfigError Configuration := do
  let layer ← (Layer.ofText .yaml yaml none).mapError .build
  ofLayers [layer]

/-- The configuration of the file at a path, with variables of the environment laid over it and
overrides laid over both. `directory` is the working directory, for messages. -/
def load (files : Files) (directory path : String) (environment : List (String × String))
    (overrides : List (String × String)) : Except ConfigError Configuration := do
  let overrides ← (Layer.ofOverrides overrides).mapError .build
  let file ← (Layer.ofFile files directory path).mapError .build
  ofLayers [file, Layer.ofEnvironment environment, overrides]

end RegistryAuth.Configuration
