/-! # Log events

What the server reports about its work: a level, a fixed message and named
fields. Fields hold texts and flags and never a secret.
-/

namespace RegistryAuth

inductive LogLevel where
  | info
  | warn
  | error
deriving DecidableEq, Repr

inductive LogField where
  | text (value : String)
  | flag (value : Bool)
deriving DecidableEq, Repr

structure LogEvent where
  level : LogLevel
  message : String
  fields : List (String × LogField)
deriving DecidableEq, Repr

end RegistryAuth
