import RegistryAuth.Codec.Bytes
import RegistryAuth.Configuration.Setting
import RegistryAuth.ConfigError
import RegistryAuth.Files
import RegistryAuth.Json.Parser
import RegistryAuth.Text.Lowercase
import RegistryAuth.Yaml.Document

/-! # Layers of configuration

A layer assigns settings to key paths. The layers are the configuration file,
then the environment, then what is given at the start of the program; each is
laid over the ones before it. Keys at the top of a file and in the environment
that are no paths are taken as names.
-/

namespace RegistryAuth

abbrev Layer := List (KeyPath × Setting)

namespace Layer

def pathOf (key : String) : KeyPath :=
  match KeyPath.parse key with
  | .ok path => path
  | .error _ => KeyPath.ofName key

/-! Files -/

inductive Format where
  | yaml
  | json
deriving DecidableEq, Repr

/-- The file name extensions of each format, in the order in which they are tried. -/
def extensions : List (String × Format) := [("yaml", .yaml), ("yml", .yaml), ("json", .json)]

def parseText (format : Format) (text : String) : Option Json :=
  match format with
  | .yaml => Yaml.parse? text
  | .json => Json.parse? text

/-- The settings of a file whose text is a table at its top. -/
def ofText (format : Format) (text : String) (origin : Origin) : Except BuildError Layer :=
  match parseText format text with
  | some (.object members) =>
    match (Json.object members).sorted with
    | .object members =>
      .ok (members.map fun (name, value) => (pathOf name, Setting.ofJson origin value))
    | _ => .error .fileParse
  | _ => .error .fileParse

/-- The extension of the last step of a path: what follows its last dot, unless that is its first
character. -/
def extension (path : String) : String :=
  match (Files.steps path).getLast? with
  | none => ""
  | some name =>
    match Text.splitLast? '.' name with
    | some (before, after) => if before.isEmpty then "" else String.ofList after
    | none => ""

def joined (path : Files.Path) : String :=
  "/".intercalate (path.map String.ofList)

/-- The path with an extension added to its last step. -/
def withExtension (path extension : String) : String :=
  joined (Files.steps path) ++ "." ++ extension

def byteOrderMark : Bytes := [0xEF, 0xBB, 0xBF]

def decoded (content : ByteArray) : String :=
  let bytes := content.toList
  Bytes.toTextLenient (if byteOrderMark.isPrefixOf bytes then bytes.drop 3 else bytes)

/-- A file to read settings from. -/
structure Source where
  name : String
  format : Format
  content : ByteArray

/-- Finds the file that a path means: the file at the path, or at the path with an extension
added. -/
def findFile (files : Files) (directory path : String) : Except BuildError Source :=
  match files.read path with
  | .ok content =>
    match extensions.lookup (extension path) with
    | some format => .ok ⟨joined (Files.steps path), format, content⟩
    | none =>
      .error (.unsupportedFormat (if Files.isAbsolute path then path else directory ++ "/" ++ path))
  | .error _ =>
    let candidate (entry : String × Format) : Option Source :=
      let name := withExtension path entry.1
      match files.read name with
      | .ok content => some ⟨name, entry.2, content⟩
      | .error _ => none
    if (Files.steps path).getLast?.all (· == Files.parent) then .error (.fileNotFound path)
    else
      match extensions.findSome? candidate with
      | some source => .ok source
      | none => .error (.fileNotFound path)

def ofFile (files : Files) (directory path : String) : Except BuildError Layer := do
  let source ← findFile files directory path
  ofText source.format (decoded source.content) (some source.name)

/-! Environment -/

/-- Variables whose names begin with this count, in any case. -/
def environmentMark : List Char := "registry_auth__".toList

def separator : List Char := "__".toList

def environmentOrigin : Origin := some "the environment"

/-- What the value of a variable means: a truth value, an integer, a number, or else its text. -/
def readVariable (value : String) : Scalar :=
  let text := value.toList
  let word := Decimal.lowerAscii text
  if word = "true".toList then .bool true
  else if word = "false".toList then .bool false
  else match Decimal.int64? text, Decimal.number? text with
    | some n, _ => .int n
    | none, some x => .real x
    | none, none => .text value

def ofVariable (name value : String) : Option (KeyPath × Setting) :=
  (Text.dropStart? environmentMark (Text.lowercase name.toList)).map fun key =>
    (pathOf (String.ofList (Text.replace separator ['.'] key)),
      .scalar (readVariable value) environmentOrigin)

def ofEnvironment (environment : List (String × String)) : Layer :=
  environment.filterMap fun (name, value) => ofVariable name value

/-! Overrides -/

/-- Settings given as texts under key paths. -/
def ofOverrides (overrides : List (String × String)) : Except BuildError Layer :=
  overrides.mapM fun (key, value) =>
    match KeyPath.parse key with
    | .ok path => .ok (path, .scalar (.text value) none)
    | .error e => .error (.malformedKey (e.message key))

end Layer

/-- The settings that layers make up, each laid over the ones before it. -/
def Setting.ofLayers (layers : List Layer) : Setting :=
  layers.flatten.foldl (fun root (path, setting) => root.assign path setting) emptyTable

end RegistryAuth
