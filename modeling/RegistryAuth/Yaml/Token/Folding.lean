import RegistryAuth.Yaml.Cursor

/-! # Line folding

Between two pieces of a plain or quoted scalar stand blanks or line breaks. On
one line the blanks belong to the scalar. Otherwise the first break stands for a
space if it is the only one, and for nothing before further breaks, which stand
for themselves.
-/

namespace RegistryAuth.Yaml

/-- What stands between two pieces of a scalar: the blanks on the line of the first piece, and how
many breaks follow the first break, if there is one. -/
structure Gap where
  blanks : List Char
  breaks : Option Nat

namespace Gap

def empty : Gap := ⟨[], none⟩

def addBlank (gap : Gap) (c : Char) : Gap :=
  if gap.breaks.isSome then gap else { gap with blanks := gap.blanks ++ [c] }

/-- Counts a break. A break that ends a line with more than blanks on it counts as the first. -/
def addBreak (gap : Gap) (fresh : Bool) : Gap :=
  match gap.breaks with
  | none => { gap with breaks := some 0 }
  | some n => if fresh then { gap with breaks := some (n + 1) } else gap

def folded (gap : Gap) : List Char :=
  match gap.breaks with
  | none => gap.blanks
  | some 0 => [' ']
  | some n => List.replicate n '\n'

end Gap

/-- Reads a gap. `onTab` says how to go on from a tab that stands before the column `indent` of a
further line. -/
def readGap (indent : Int) (onTab : Cursor → Option Cursor) :
    Nat → Gap → Cursor → Option (Gap × Cursor)
  | 0, gap, cursor => some (gap, cursor)
  | fuel + 1, gap, cursor =>
    match cursor.peek? with
    | none => some (gap, cursor)
    | some c =>
      if isBlank c then
        if gap.breaks.isSome && c = '\t' && (cursor.column : Int) < indent then
          (onTab cursor).bind (readGap indent onTab fuel gap)
        else readGap indent onTab fuel (gap.addBlank c) (cursor.skipBlanks 1)
      else if isBreak c then
        readGap indent onTab fuel (gap.addBreak cursor.fresh) cursor.skipBreak
      else some (gap, cursor)

end RegistryAuth.Yaml
