import RegistryAuth.Text.Split

/-! # Files

The files that a configuration may refer to, each under its path. A path is
followed step by step from the working directory or from the root: a dot stays,
two dots go up, and each step must set out from a directory. Paths and names are
bounded in length and hold no null character.
-/

namespace RegistryAuth

inductive FileError where
  | notFound
  | notDirectory
  | isDirectory
  | nameTooLong
  | nullCharacter
deriving DecidableEq, Repr

def FileError.message : FileError → String
  | notFound => "No such file or directory (os error 2)"
  | notDirectory => "Not a directory (os error 20)"
  | isDirectory => "Is a directory (os error 21)"
  | nameTooLong => "File name too long (os error 36)"
  | nullCharacter => "file name contained an unexpected NUL byte"

structure Files where
  entries : List (String × ByteArray)

namespace Files

abbrev Path := List (List Char)

def here : List Char := ['.']

def parent : List Char := ['.', '.']

/-- The directory that an absolute path begins at. -/
def root : Path := [[]]

def isAbsolute (path : String) : Bool := path.toList.head? = some '/'

/-- The steps of a path. A slash at its end is a step that stays. -/
def allSteps (path : String) : Path :=
  let steps := (Text.splitOn '/' path.toList).filter (!·.isEmpty)
  let steps := if path.toList.getLast? = some '/' then steps ++ [here] else steps
  if isAbsolute path then root ++ steps else steps

/-- The steps of a path that do not stay. -/
def steps (path : String) : Path := (allSteps path).filter (· != here)

def file? (files : Files) (path : Path) : Option ByteArray :=
  (files.entries.find? fun (name, _) => steps name == path).map (·.2)

def isDirectory (files : Files) (path : Path) : Bool :=
  path == root || path.all (· == parent) || files.entries.any fun (name, _) =>
    path.isPrefixOf (steps name) && path.length < (steps name).length

/-- The directory above another one. -/
def above (place : Path) : Path :=
  if place == root then root
  else if place.all (· == parent) then place ++ [parent]
  else place.dropLast

/-- The longest name of a file or directory, in bytes. -/
def nameLimit : Nat := 255

/-- The longest path, in bytes. -/
def pathLimit : Nat := 4095

/-- Follows the steps of a path from the directory `place`. -/
def follow (files : Files) (place : Path) : Path → Except FileError Path
  | [] => .ok place
  | step :: rest =>
    if (files.file? place).isSome then .error .notDirectory
    else if !files.isDirectory place then .error .notFound
    else if step = here then follow files place rest
    else if step = parent then follow files (above place) rest
    else if (String.ofList step).utf8ByteSize > nameLimit then .error .nameTooLong
    else follow files (place ++ [step]) rest

def read (files : Files) (path : String) : Except FileError ByteArray :=
  if path.toList.contains '\x00' then .error .nullCharacter
  else if path.isEmpty then .error .notFound
  else if path.utf8ByteSize > pathLimit then .error .nameTooLong
  else do
    let place ← files.follow [] (allSteps path)
    match files.file? place with
    | some content => .ok content
    | none => if files.isDirectory place then .error .isDirectory else .error .notFound

end Files

end RegistryAuth
