/-! # Places in a YAML text

A cursor is a place in a text together with its line and column, and with
whether only blanks stand before it on its line. Moving on keeps these in step.
A line ends at a line feed, a carriage return, or the two together.
-/

namespace RegistryAuth.Yaml

def isBreak (c : Char) : Bool := c = '\n' || c = '\r'

def isBlank (c : Char) : Bool := c = ' ' || c = '\t'

/-- The characters that structure collections in brackets and braces. -/
def isFlowMark (c : Char) : Bool :=
  c = ',' || c = '[' || c = ']' || c = '\x7b' || c = '\x7d'

def isWordChar (c : Char) : Bool :=
  ('0' ≤ c && c ≤ '9') || ('a' ≤ c && c ≤ 'z') || ('A' ≤ c && c ≤ 'Z') || c = '_' || c = '-'

/-- Whether a word ends before this character or end of text. -/
def endsWord : Option Char → Bool
  | some c => isBlank c || isBreak c
  | none => true

structure Cursor where
  rest : List Char
  index : Nat
  line : Nat
  column : Nat
  /-- Whether only blanks stand before it on its line. -/
  fresh : Bool
deriving Repr

namespace Cursor

def ofText (text : List Char) : Cursor := ⟨text, 0, 0, 0, true⟩

def peek? (c : Cursor) (ahead : Nat := 0) : Option Char := c.rest[ahead]?

def atEnd (c : Cursor) : Bool := c.rest.isEmpty

def atBlank (c : Cursor) : Bool := c.peek?.any isBlank

def atBreak (c : Cursor) : Bool := c.peek?.any isBreak

def atLineEnd (c : Cursor) : Bool := c.atEnd || c.atBreak

/-- Moves on along the line over blanks. -/
def skipBlanks (c : Cursor) (count : Nat) : Cursor :=
  { c with
    rest := c.rest.drop count, index := c.index + count, column := c.column + count }

/-- Moves on along the line over characters that are not all blank. -/
def skip (c : Cursor) (count : Nat := 1) : Cursor :=
  { c.skipBlanks count with fresh := false }

/-- Moves on along the line to where `rest` is what is left of the text. -/
def skipTo (c : Cursor) (rest : List Char) : Cursor :=
  c.skip (c.rest.length - rest.length)

def skipBreak (c : Cursor) : Cursor :=
  match c.rest with
  | '\r' :: '\n' :: rest => ⟨rest, c.index + 2, c.line + 1, 0, true⟩
  | _ :: rest => ⟨rest, c.index + 1, c.line + 1, 0, true⟩
  | [] => c

/-- Moves on to the end of the line. -/
def skipLine (c : Cursor) : Cursor :=
  c.skip (c.rest.takeWhile (!isBreak ·)).length

/-- Moves on over blanks and over a comment that a blank sets off. -/
def skipTrailing? (c : Cursor) : Option Cursor :=
  let blanks := c.rest.takeWhile isBlank
  let after := c.skipBlanks blanks.length
  if after.peek? = some '#' then
    if blanks.isEmpty then none else some after.skipLine
  else some after

/-- Whether three marks of one kind stand here as a word. -/
def atMarks (c : Cursor) (mark : Char) : Bool :=
  c.rest.take 3 == [mark, mark, mark] && endsWord (c.peek? 3)

def atDocumentMark (c : Cursor) : Bool :=
  c.column = 0 && (c.atMarks '-' || c.atMarks '.')

end Cursor

end RegistryAuth.Yaml
