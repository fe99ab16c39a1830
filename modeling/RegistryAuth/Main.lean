import RegistryAuth.CommandLine.Program

/-! # The executable

Gathers what the program is run with, and writes out how the run ends.
-/

namespace RegistryAuth.Main

open CommandLine

/-- The variables of the environment, each ended by a null byte. -/
def readEnvironment : IO (List (String × String)) := do
  let content ← try IO.FS.readBinFile "/proc/self/environ" catch _ => pure ByteArray.empty
  return (Text.splitOn 0 content.toList).filterMap fun bytes =>
    match (Bytes.toText? bytes).bind fun text => Text.splitFirst? '=' text.toList with
    | some (name, value) => some (String.ofList name, String.ofList value)
    | none => none

/-- Those of the files that can be read. -/
def readFiles (names : List String) : IO Files := do
  let entries ← names.filterMapM fun (name : String) =>
    try
      let content ← IO.FS.readBinFile name
      return some (name, content)
    catch _ => return none
  return ⟨entries⟩

partial def readToEnd (stream : IO.FS.Stream) (content : ByteArray) : IO ByteArray := do
  let chunk ← stream.read 65536
  if chunk.isEmpty then return content else readToEnd stream (content ++ chunk)

/-- Reads the input if a password is to be hashed. -/
def readInput (arguments : List String) : IO Bytes := do
  match Arguments.parse arguments with
  | .ok read =>
    if read.hashPassword then return (← readToEnd (← IO.getStdin) ByteArray.empty).toList
    else return []
  | .error _ => return []

def readSurroundings (arguments : List String) : IO Surroundings := do
  let bare : Surroundings :=
    { arguments
      environment := ← readEnvironment
      input := ← readInput arguments
      files := ⟨[]⟩
      directory := (← IO.currentDir).toString
      salt := (← IO.getRandomBytes 16).toList }
  let configured := { bare with files := ← readFiles (configFiles bare) }
  let keys ← readFiles configured.keyFiles
  return { configured with files := ⟨configured.files.entries ++ keys.entries⟩ }

end RegistryAuth.Main

def main (arguments : List String) : IO UInt32 := do
  let ending := RegistryAuth.CommandLine.run (← RegistryAuth.Main.readSurroundings arguments)
  let stderr ← IO.getStderr
  for text in ending.output do
    IO.print text
  for message in ending.report do
    stderr.putStrLn message
  return UInt32.ofNat ending.exitCode
