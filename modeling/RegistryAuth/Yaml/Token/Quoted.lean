import RegistryAuth.Yaml.Token.Folding
import RegistryAuth.Text.Quoted

/-! # Quoted scalars

In single quotes a quote is written twice. In double quotes a backslash begins
an escape, and before a line break it takes the break away. Both kinds are
folded.
-/

namespace RegistryAuth.Yaml.Quoted

def hexValue? (c : Char) : Option Nat :=
  if '0' ≤ c && c ≤ '9' then some (c.toNat - 0x30)
  else if 'a' ≤ c && c ≤ 'f' then some (c.toNat - 0x57)
  else if 'A' ≤ c && c ≤ 'F' then some (c.toNat - 0x37)
  else none

def char? (code : Nat) : Option Char :=
  if code.isValidChar then some (Char.ofNat code) else none

/-- The character with the code that `count` hexadecimal digits write. -/
def charOfCode? (count : Nat) (text : List Char) : Option (Char × List Char) :=
  let digits := text.take count
  if digits.length < count then none
  else do
    let code ← digits.foldlM (fun n c => (hexValue? c).map (16 * n + ·)) 0
    return (← char? code, text.drop count)

def plainEscapes : List (Char × Nat) :=
  [('0', 0), ('a', 7), ('b', 8), ('t', 9), ('\t', 9), ('n', 10), ('v', 11), ('f', 12), ('r', 13),
    ('e', 27), (' ', 32), ('"', 34), ('/', 47), ('\\', 92), ('N', 0x85), ('_', 0xA0),
    ('L', 0x2028), ('P', 0x2029)]

/-- The character that an escape stands for, given what follows the backslash. -/
def escape? : List Char → Option (Char × List Char)
  | 'x' :: rest => charOfCode? 2 rest
  | 'u' :: rest => charOfCode? 4 rest
  | 'U' :: rest => charOfCode? 8 rest
  | c :: rest => (plainEscapes.lookup c).map fun code => (Char.ofNat code, rest)
  | [] => none

/-- Why a piece of a quoted scalar ends. -/
inductive PieceEnd where
  | quote
  | gap
  | escapedBreak

/-- Reads a piece without a gap, up to the place where it ends. -/
def readPiece (single : Bool) : Nat → List Char → Cursor → Option (List Char × PieceEnd × Cursor)
  | 0, _, _ => none
  | fuel + 1, done, cursor =>
    match cursor.rest with
    | [] => some (done.reverse, .gap, cursor)
    | c :: rest =>
      if isBlank c || isBreak c then some (done.reverse, .gap, cursor)
      else if single then
        if c = '\'' then
          if rest.head? = some '\'' then readPiece single fuel ('\'' :: done) (cursor.skip 2)
          else some (done.reverse, .quote, cursor)
        else readPiece single fuel (c :: done) cursor.skip
      else if c = '"' then some (done.reverse, .quote, cursor)
      else if c = '\\' then
        if rest.head?.any isBreak then some (done.reverse, .escapedBreak, cursor.skip.skipBreak)
        else
          match escape? rest with
          | some (e, after) => readPiece single fuel (e :: done) (cursor.skipTo after)
          | none => none
      else readPiece single fuel (c :: done) cursor.skip

/-- The text of a gap that begins with a break taken away: each further break stands for
itself. -/
def escapedText (gap : Gap) : List Char :=
  List.replicate (gap.breaks.getD 0) '\n'

/-- Reads what follows the opening quote, up to and with the closing one. -/
def readFrom (single : Bool) (indent : Int) : Nat → List Char → Cursor → Option (List Char × Cursor)
  | 0, _, _ => none
  | fuel + 1, text, cursor =>
    if cursor.atDocumentMark || cursor.atEnd || (cursor.column : Int) < indent then none
    else do
      let (piece, ending, after) ← readPiece single (cursor.rest.length + 1) [] cursor
      let text := text ++ piece
      match ending with
      | .quote => some (text, after.skip)
      | .gap =>
        let (gap, after) ← readGap indent (fun _ => none) cursor.rest.length .empty after
        readFrom single indent fuel (text ++ gap.folded) after
      | .escapedBreak =>
        if after.peek? = some (if single then '\'' else '"') then some (text, after.skip)
        else
          let (gap, after) ← readGap indent (fun _ => none) cursor.rest.length ⟨[], some 0⟩ after
          readFrom single indent fuel (text ++ escapedText gap) after

/-- Reads a quoted scalar from its opening quote on. What follows it on the line must be blank, a
comment, or a mark that can follow a scalar there. -/
def read (single inFlow : Bool) (indent : Int) (cursor : Cursor) : Option (List Char × Cursor) := do
  let (text, after) ← readFrom single indent (cursor.rest.length + 1) [] cursor.skip
  let after ← after.skipTrailing?
  let ends := match after.peek? with
    | none => true
    | some c =>
      isBreak c || (inFlow && (c = ',' || c = '\x7d' || c = ']' || c = ':')) ||
        (c = ':' && cursor.line = after.line)
  if ends then some (text, after) else none

end RegistryAuth.Yaml.Quoted
