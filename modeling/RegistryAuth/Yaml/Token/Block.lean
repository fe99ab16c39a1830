import RegistryAuth.Yaml.Cursor

/-! # Block scalars

A literal or folded scalar is made of whole lines. Its first line with more than
spaces on it, or a digit in its header, fixes how far its lines are indented,
and a sign in its header says what becomes of the breaks at its end.
-/

namespace RegistryAuth.Yaml.Block

/-- What becomes of the breaks at the end: one is kept, none, or all. -/
inductive Chomping where
  | clip
  | strip
  | keep
deriving DecidableEq

structure Header where
  chomping : Chomping
  /-- How far the lines are indented, where zero leaves it open. -/
  indentation : Nat

def chomping? (c : Option Char) : Option Chomping :=
  if c = some '+' then some .keep else if c = some '-' then some .strip else none

def digit? (c : Option Char) : Option Nat :=
  match c with
  | some c => if '0' ≤ c && c ≤ '9' then some (c.toNat - '0'.toNat) else none
  | none => none

/-- Reads the sign and the digit of a header, in either order. The digit is not zero. -/
def readHeader (cursor : Cursor) : Option (Header × Cursor) :=
  match chomping? cursor.peek? with
  | some chomping =>
    match digit? (cursor.peek? 1) with
    | some 0 => none
    | some n => some (⟨chomping, n⟩, cursor.skip 2)
    | none => some (⟨chomping, 0⟩, cursor.skip)
  | none =>
    match digit? cursor.peek? with
    | some 0 => none
    | some n =>
      match chomping? (cursor.peek? 1) with
      | some chomping => some (⟨chomping, n⟩, cursor.skip 2)
      | none => some (⟨.clip, n⟩, cursor.skip)
    | none => some (⟨.clip, 0⟩, cursor)

/-- Skips lines that are blank up to the column `indent`, counting them, and the indentation of
the next line. -/
def skipIndent (indent : Nat) : Nat → Nat → Cursor → Nat × Cursor
  | 0, breaks, cursor => (breaks, cursor)
  | fuel + 1, breaks, cursor =>
    let spaces := (cursor.rest.takeWhile (· = ' ')).length
    let cursor := cursor.skipBlanks (min spaces (indent - cursor.column))
    if cursor.atBreak then skipIndent indent fuel (breaks + 1) cursor.skipBreak
    else (breaks, cursor)

/-- Skips lines of spaces, counting them, and the indentation of the next line. Gives also the
greatest column reached. -/
def skipFirstIndent : Nat → Nat → Nat → Cursor → Nat × Nat × Cursor
  | 0, widest, breaks, cursor => (widest, breaks, cursor)
  | fuel + 1, widest, breaks, cursor =>
    let cursor := cursor.skipBlanks (cursor.rest.takeWhile (· = ' ')).length
    let widest := max widest cursor.column
    if cursor.atBreak then skipFirstIndent fuel widest (breaks + 1) cursor.skipBreak
    else (widest, breaks, cursor)

def newlines (count : Nat) : List Char := List.replicate count '\n'

/-- The lines read so far and the breaks after the last of them. -/
structure Lines where
  text : List Char
  /-- Whether a break ends the last line. -/
  ended : Bool
  /-- How many blank lines follow it. -/
  breaks : Nat
  /-- Whether the last line begins with a blank. -/
  indented : Bool

/-- What stands between the last line and a next one. Folding takes a single break between two
lines that do not begin with a blank for a space. -/
def Lines.separator (lines : Lines) (literal : Bool) (nextIndented : Bool) : List Char :=
  if !literal && lines.ended && !lines.indented && !nextIndented then
    if lines.breaks = 0 then [' '] else newlines lines.breaks
  else newlines ((if lines.ended then 1 else 0) + lines.breaks)

/-- Reads all lines that are indented to the column `indent`. -/
def readLines (literal : Bool) (indent : Nat) : Nat → Lines → Cursor → Lines × Cursor
  | 0, lines, cursor => (lines, cursor)
  | fuel + 1, lines, cursor =>
    if cursor.column ≠ indent || cursor.atEnd || (indent = 0 && cursor.atMarks '.') then
      (lines, cursor)
    else
      let line := cursor.rest.takeWhile (!isBreak ·)
      let text := lines.text ++ lines.separator literal cursor.atBlank ++ line
      let after := cursor.skipBlanks line.length
      if after.atEnd then (⟨text, false, 0, cursor.atBlank⟩, after)
      else
        let (breaks, next) := skipIndent indent cursor.rest.length 0 after.skipBreak
        readLines literal indent fuel ⟨text, true, breaks, cursor.atBlank⟩ next

/-- The text of a scalar that ends at `cursor`. A last line without a break at the end of the text
counts as ended. -/
def Lines.chomped (lines : Lines) (chomping : Chomping) (indent : Nat) (cursor : Cursor) :
    List Char :=
  let ending := newlines ((if lines.ended then 1 else 0) +
    (if cursor.atEnd && cursor.column ≥ max indent 1 then 1 else 0))
  match chomping with
  | .strip => lines.text
  | .clip => lines.text ++ ending
  | .keep => lines.text ++ ending ++ newlines lines.breaks

/-- The text of a scalar without a line of its own, at the end of the text. -/
def emptyText (chomping : Chomping) (headerEnded : Bool) (breaks : Nat) : List Char :=
  match chomping with
  | .strip => []
  | .clip => newlines (if headerEnded then 1 else 0)
  | .keep => if !headerEnded then [] else newlines (max breaks 1)

/-- Reads a block scalar from its mark on, where `outer` is the column that its lines must be
beyond. -/
def read (literal : Bool) (outer : Int) (cursor : Cursor) : Option (List Char × Cursor) := do
  let (header, after) ← readHeader cursor.skip
  let after ← after.skipTrailing?
  if !after.atLineEnd then none
  else
    let body := if after.atBreak then after.skipBreak else after
    if body.peek? = some '\t' then none
    else
      let fuel := body.rest.length + 1
      let (indent, breaks, start) :=
        if header.indentation = 0 then
          let (widest, breaks, start) := skipFirstIndent fuel 0 0 body
          (max widest (outer + 1).toNat, breaks, start)
        else
          let indent := (max outer 0).toNat + header.indentation
          let (breaks, start) := skipIndent indent fuel 0 body
          (indent, breaks, start)
      if start.atEnd then some (emptyText header.chomping (cursor.line < start.line) breaks, start)
      else if start.column < indent && (start.column : Int) > outer then none
      else
        let (lines, after) := readLines literal indent fuel ⟨[], false, breaks, false⟩ start
        some (lines.chomped header.chomping indent after, after)

end RegistryAuth.Yaml.Block
