/-! # YAML tokens

The words of a YAML text. Block collections, which the text shows by its
indentation alone, have opening and closing tokens like those in brackets and
braces, and each key and each value is announced by a token of its own.
-/

namespace RegistryAuth.Yaml

inductive Token where
  | versionDirective
  | tagDirective (handle expansion : String)
  | documentStart
  | documentEnd
  | openBlockSequence
  | openBlockMapping
  | closeBlock
  | openSequence
  | closeSequence
  | openMapping
  | closeMapping
  | entry
  | comma
  | key
  | value
  | reference (name : String)
  | anchor (name : String)
  | tag (handle suffix : String)
  | scalar (plain : Bool) (text : String)
deriving DecidableEq, Repr

end RegistryAuth.Yaml
