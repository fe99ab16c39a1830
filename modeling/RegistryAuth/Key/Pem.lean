import RegistryAuth.Codec.Base64
import RegistryAuth.Text.Split

/-! # Armoured keys

Binary keys in text form: base64 between a line that begins and a line that
ends a labelled section, after optional header lines. The first section of a
text counts, and what stands around it does not.
-/

namespace RegistryAuth

structure Pem where
  label : String
  contents : Bytes
deriving DecidableEq, Repr

namespace Pem

/-- What stands before and after the first occurrence of a marker. -/
def cutAt? (marker : List Char) (before : List Char) : List Char → Option (List Char × List Char)
  | [] => if marker.isEmpty then some (before.reverse, []) else none
  | c :: rest =>
    match Text.dropStart? marker (c :: rest) with
    | some after => some (before.reverse, after)
    | none => cutAt? marker (c :: before) rest

def isSpace (c : Char) : Bool := c == ' ' || c == '\t' || c == '\n' || c == '\r'

/-- Headers and data, which a blank line separates. -/
def blankLine? (text : List Char) : Option (List Char × List Char) :=
  match cutAt? ['\n', '\n'] [] text with
  | some parts => some parts
  | none => cutAt? ['\r', '\n', '\r', '\n'] [] text

def lines (text : List Char) : List (List Char) :=
  (Text.splitOn '\n' text).map fun line =>
    if line.getLast? = some '\r' then line.dropLast else line

def isHeader (line : List Char) : Bool := line.contains ':'

def trimEnd (line : List Char) : List Char := (line.reverse.dropWhile Text.isBlank).reverse

/-- The base64 text of a section: its lines after the headers. -/
def body? (text : List Char) : Option (List Char) :=
  match blankLine? text with
  | none => some ((lines text).flatMap trimEnd)
  | some (headers, data) =>
    if ((lines headers).filter (!·.isEmpty)).all isHeader then
      some ((lines data).flatMap trimEnd)
    else none

def ofText? (text : List Char) : Option Pem := do
  let (_, rest) ← cutAt? "-----BEGIN ".toList [] text
  let (label, rest) ← cutAt? "-----".toList [] rest
  let (data, rest) ← cutAt? "-----END ".toList [] (rest.dropWhile isSpace)
  let (endLabel, _) ← cutAt? "-----".toList [] rest
  if label.isEmpty || label != endLabel then none
  else
    let contents ← Base64.decode? Base64.standard true (← body? data)
    some ⟨String.ofList label, contents⟩

end Pem

end RegistryAuth
