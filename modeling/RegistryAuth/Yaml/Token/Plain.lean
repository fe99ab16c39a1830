import RegistryAuth.Yaml.Token.Folding

/-! # Plain scalars

A scalar without quotes goes on until a comment, until the colon of a key, in
brackets and braces also until a mark of theirs, or until a line that is not
indented.
-/

namespace RegistryAuth.Yaml.Plain

/-- Whether a plain scalar may hold this character before that one. -/
def holds (inFlow : Bool) (c : Char) (next : Option Char) : Bool :=
  if c = ':' then !(endsWord next || (inFlow && next.any isFlowMark))
  else !(inFlow && isFlowMark c)

/-- The longest piece of a plain scalar without a gap. -/
def piece (inFlow : Bool) : List Char → List Char
  | [] => []
  | c :: rest =>
    if isBlank c || isBreak c || !holds inFlow c rest.head? then []
    else c :: piece inFlow rest

/-- A line that is indented with a tab may hold no more than a comment. -/
def skipTabbedLine (cursor : Cursor) : Option Cursor :=
  cursor.skipTrailing?.filter (·.atLineEnd)

/-- Reads a plain scalar from a piece on. `text` and `gap` are what comes before the piece. -/
def readFrom (inFlow : Bool) (indent : Int) :
    Nat → List Char → Gap → Cursor → Option (List Char × Cursor)
  | 0, _, _, _ => none
  | fuel + 1, text, gap, cursor =>
    if cursor.atDocumentMark || cursor.peek? = some '#' then some (text, cursor)
    else if inFlow && cursor.peek? = some '-' && (cursor.peek? 1).any isFlowMark then none
    else
      let piece := piece inFlow cursor.rest
      if piece.isEmpty then some (text, cursor)
      else
        let text := text ++ gap.folded ++ piece
        match readGap indent skipTabbedLine cursor.rest.length .empty (cursor.skip piece.length) with
        | none => none
        | some (gap, after) =>
          if !inFlow && (after.column : Int) < indent then some (text, after)
          else readFrom inFlow indent fuel text gap after

def read (inFlow : Bool) (indent : Int) (cursor : Cursor) : Option (List Char × Cursor) :=
  (readFrom inFlow indent (cursor.rest.length + 1) [] .empty cursor).filter fun (text, _) =>
    !text.isEmpty

end RegistryAuth.Yaml.Plain
