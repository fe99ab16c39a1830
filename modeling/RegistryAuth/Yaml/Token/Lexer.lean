import RegistryAuth.Yaml.Token.Block
import RegistryAuth.Yaml.Token.Plain
import RegistryAuth.Yaml.Token.Property

/-! # Tokens of a text

Tokens are read from left to right. That a token begins a key shows only at the
colon after it; until then it is a candidate, and the tokens that announce the
key are put before it afterwards. Outside brackets and braces the columns of
the tokens open and close block collections.
-/

namespace RegistryAuth.Yaml

/-- A token, its column, and the tokens put before it. -/
structure PlacedToken where
  before : List Token
  token : Token
  column : Nat

/-- The place of a token that may begin a key, and whether it must. -/
structure KeyCandidate where
  place : Nat
  line : Nat
  index : Nat
  column : Nat
  required : Bool

/-- The indentation around a nested one, and whether the nested one is of a block collection. -/
structure OuterIndent where
  column : Int
  closesBlock : Bool

structure Lexer where
  cursor : Cursor
  tokens : Array PlacedToken
  /-- The candidate in the innermost brackets or braces, and those around it. -/
  candidate : Option KeyCandidate
  outerCandidates : List (Option KeyCandidate)
  keyAllowed : Bool
  indent : Int
  outerIndents : List OuterIndent
  /-- Whether a mapping in braces, or a pair with a mark of its own, was begun last. -/
  inMapping : Bool
  /-- For each open bracket, whether a pair without braces is open in it. -/
  barePairs : List Bool
  /-- Where a colon ends a key although no blank follows it. -/
  adjacent : Nat

namespace Lexer

def ofText (text : List Char) : Lexer :=
  ⟨.ofText text, #[], none, [], true, -1, [], false, [], 0⟩

def inFlow (s : Lexer) : Bool := !s.outerCandidates.isEmpty

/-- How deep brackets and braces may be nested. -/
def flowLimit : Nat := 255

def push (s : Lexer) (token : Token) (column : Nat) : Lexer :=
  { s with tokens := s.tokens.push ⟨[], token, column⟩ }

def insertBefore (s : Lexer) (place : Nat) (token : Token) : Lexer :=
  { s with tokens := s.tokens.modify place fun t => { t with before := token :: t.before } }

def moveTo (s : Lexer) (cursor : Cursor) : Lexer := { s with cursor }

/-! Keys -/

/-- Gives up a candidate that is too far back for a key. -/
def dropStaleCandidate (s : Lexer) : Option Lexer :=
  match s.candidate with
  | none => some s
  | some k =>
    if !s.inFlow && (k.line < s.cursor.line || k.index + 1024 < s.cursor.index) then
      if k.required then none else some { s with candidate := none }
    else some s

def dropCandidate (s : Lexer) : Option Lexer :=
  if s.candidate.any (·.required) then none else some { s with candidate := none }

/-- Takes the next token for a candidate. -/
def noteCandidate (s : Lexer) : Lexer :=
  if s.keyAllowed then
    let required := !s.inFlow && s.indent = s.cursor.column &&
      s.outerIndents.head?.any (·.closesBlock)
    let here : KeyCandidate :=
      ⟨s.tokens.size, s.cursor.line, s.cursor.index, s.cursor.column, required⟩
    { s with candidate := some here }
  else s

/-! Indentation -/

/-- Opens a block collection at a column beyond the indentation, before the token at `place` or
at the end. -/
def openBlock (s : Lexer) (column : Nat) (place : Option Nat) (opening : Token) : Lexer :=
  if s.inFlow then s
  else
    let s := match s.outerIndents with
      | ⟨outer, false⟩ :: rest =>
        if s.indent ≤ (column : Int) then { s with indent := outer, outerIndents := rest } else s
      | _ => s
    if s.indent < (column : Int) then
      let s := { s with indent := column, outerIndents := ⟨s.indent, true⟩ :: s.outerIndents }
      match place with
      | some place => s.insertBefore place opening
      | none => s.push opening column
    else s

/-- The innermost of the indentations that is not beyond `column`, those around it, and how many
block collections end with the others. -/
def indentsWithin (column : Int) : Int → List OuterIndent → Int × List OuterIndent × Nat
  | indent, [] => (indent, [], 0)
  | indent, outer :: rest =>
    if indent > column then
      let (indent, indents, closed) := indentsWithin column outer.column rest
      (indent, indents, closed + if outer.closesBlock then 1 else 0)
    else (indent, outer :: rest, 0)

/-- Closes the block collections indented beyond `column`. -/
def closeBlocks (s : Lexer) (column : Int) : Lexer :=
  if s.inFlow then s
  else
    let (indent, outerIndents, closed) := indentsWithin column s.indent s.outerIndents
    (List.range closed).foldl (fun s _ => s.push .closeBlock s.cursor.column)
      { s with indent, outerIndents }

/-- Asks what follows on further lines to be indented by one column more than the block
collection. -/
def indentByOne (s : Lexer) : Lexer :=
  if !s.inFlow && s.outerIndents.head?.any (·.closesBlock) then
    { s with indent := s.indent + 1, outerIndents := ⟨s.indent, false⟩ :: s.outerIndents }
  else s

def looseIndentsDropped : Int → List OuterIndent → Int × List OuterIndent
  | indent, [] => (indent, [])
  | indent, outer :: rest =>
    if outer.closesBlock then (indent, outer :: rest) else looseIndentsDropped outer.column rest

/-- Takes back the indentations that are not of a block collection. -/
def dropLooseIndents (s : Lexer) : Lexer :=
  let (indent, outerIndents) := looseIndentsDropped s.indent s.outerIndents
  { s with indent, outerIndents }

/-! Between tokens -/

/-- Skips blanks, breaks and comments. A tab indents no content of a block collection. -/
def skipGap : Nat → Lexer → Option Lexer
  | 0, s => some s
  | fuel + 1, s =>
    match s.cursor.peek? with
    | none => some s
    | some c =>
      if c = '\t' && !s.outerIndents.isEmpty && s.cursor.fresh && (s.cursor.column : Int) < s.indent then
        match s.cursor.skipTrailing? with
        | some after => if after.atLineEnd then skipGap fuel (s.moveTo after) else none
        | none => none
      else if isBlank c then skipGap fuel (s.moveTo (s.cursor.skipBlanks 1))
      else if isBreak c then
        skipGap fuel { s with cursor := s.cursor.skipBreak, keyAllowed := s.keyAllowed || !s.inFlow }
      else if c = '#' then skipGap fuel (s.moveTo s.cursor.skipLine)
      else some s

/-- Skips spaces, breaks and comments after a key mark, of which there must be some. -/
def skipSpaces : Nat → Bool → Lexer → Option Lexer
  | 0, found, s => if found then some s else none
  | fuel + 1, found, s =>
    match s.cursor.peek? with
    | none => if found then some s else none
    | some c =>
      if c = ' ' then skipSpaces fuel true (s.moveTo (s.cursor.skipBlanks 1))
      else if isBreak c then
        skipSpaces fuel true
          { s with cursor := s.cursor.skipBreak, keyAllowed := s.keyAllowed || !s.inFlow }
      else if c = '#' then skipSpaces fuel found (s.moveTo s.cursor.skipLine)
      else if found then some s
      else none

/-! Single tokens -/

def readDirective (s : Lexer) : Option Lexer := do
  let s ← (s.closeBlocks (-1)).dropCandidate
  let (token, rest) ← Property.directive? s.cursor.rest.tail
  let after ← (s.cursor.skipTo rest).skipTrailing?
  if after.atLineEnd then
    return ({ s with keyAllowed := false }.push token s.cursor.column).moveTo after.skipBreak
  else none

def readDocumentMark (s : Lexer) (token : Token) : Option Lexer := do
  let s ← (s.closeBlocks (-1)).dropCandidate
  let after := s.cursor.skip 3
  let after ← if token = .documentEnd then after.skipTrailing?.filter (·.atLineEnd) else some after
  return ({ s with keyAllowed := false }.push token s.cursor.column).moveTo after

/-- Ends a pair without braces that is open in the innermost brackets. -/
def closeBarePair (s : Lexer) : Lexer :=
  match s.barePairs with
  | true :: rest =>
    { s with inMapping := false, barePairs := false :: rest }.push .closeMapping s.cursor.column
  | _ => s

def readOpening (s : Lexer) (token : Token) : Option Lexer := do
  let s := s.noteCandidate.indentByOne
  if s.outerCandidates.length = flowLimit then none
  else
    let s := { s with
      candidate := none, outerCandidates := s.candidate :: s.outerCandidates, keyAllowed := true }
    let s := if token = .openMapping then { s with inMapping := true }
      else { s with barePairs := false :: s.barePairs }
    let after ← s.cursor.skip.skipTrailing?
    return (s.push token s.cursor.column).moveTo after

def readClosing (s : Lexer) (token : Token) : Option Lexer := do
  let s ← s.dropCandidate
  let s := match s.outerCandidates with
    | candidate :: rest => { s with candidate, outerCandidates := rest }
    | [] => s
  let s := if token = .closeSequence then
      let s := s.closeBarePair
      { s with barePairs := s.barePairs.tail }
    else s
  let after ← s.cursor.skip.skipTrailing?
  let s := { s with
    keyAllowed := false, adjacent := if s.inFlow then after.index else s.adjacent }
  return (s.push token s.cursor.column).moveTo after

def readComma (s : Lexer) : Option Lexer := do
  let s := { ← s.dropCandidate with keyAllowed := true }.closeBarePair
  let after ← s.cursor.skip.skipTrailing?
  return (s.push .comma s.cursor.column).moveTo after

/-- Whether the last token is an anchor or a tag at the margin, as is the next one, within a block
collection. -/
def afterMarginProperty (s : Lexer) : Bool :=
  match s.tokens.back? with
  | some ⟨_, .anchor _, 0⟩ | some ⟨_, .tag _ _, 0⟩ => s.cursor.column = 0 && s.indent > -1
  | _ => false

def readEntry (s : Lexer) : Option Lexer := do
  if s.inFlow || !s.keyAllowed || s.afterMarginProperty then none
  else
    let column := s.cursor.column
    let s := s.openBlock column none .openBlockSequence
    let start := s.cursor.skip
    let after ← start.skipTrailing?
    let tabbed := (start.rest.takeWhile isBlank).contains '\t'
    if tabbed && after.peek? = some '-' && endsWord (after.peek? 1) then none
    else
      let s := s.moveTo after
      let s := if after.peek?.any fun c => isBreak c || isFlowMark c then s.indentByOne else s
      let s ← s.dropCandidate
      return { s with keyAllowed := true }.push .entry column

def readKey (s : Lexer) : Option Lexer := do
  let column := s.cursor.column
  if !s.inFlow && !s.keyAllowed then none
  else
    let s := if s.inFlow then { s with inMapping := true }
      else s.openBlock column none .openBlockMapping
    let s ← s.dropCandidate
    let s := { s with keyAllowed := !s.inFlow, cursor := s.cursor.skip }
    let s ← skipSpaces s.cursor.rest.length false s
    if s.cursor.peek? = some '\t' then none else some (s.push .key column)

/-- A tab after the colon of a key may be followed by an entry or a word only with a space. -/
def skipValueTabs (cursor : Cursor) : Option Cursor :=
  if cursor.peek? = some '\t' then do
    let after ← cursor.skipTrailing?
    let spaced := (cursor.rest.takeWhile isBlank).contains ' '
    if !spaced && after.peek?.any isWordChar then none else some after
  else some cursor

def readValue (s : Lexer) : Option Lexer := do
  let start := s.cursor
  let bare := !s.barePairs.isEmpty && !s.inMapping
  let s := if bare then { s with barePairs := true :: s.barePairs.tail } else s
  let s := s.moveTo (← skipValueTabs start.skip)
  match s.candidate with
  | some k =>
    let s := s.insertBefore k.place .key
    if bare && k.line < start.line then none
    else
      let s := if bare then s.insertBefore k.place .openMapping else s
      let s := (s.openBlock k.column (some k.place) .openBlockMapping).indentByOne
      return { s with candidate := none, keyAllowed := false }.push .value start.column
  | none =>
    let s := if bare then s.push .openMapping start.column else s
    if !s.inFlow && !s.keyAllowed then none
    else
      let s := (s.openBlock start.column none .openBlockMapping).indentByOne
      return { s with keyAllowed := !s.inFlow }.push .value start.column

/-- A colon that ends a key right before a mark may stand before a bracket or brace only after a
quoted key. -/
def readAdjacentValue (s : Lexer) : Option Lexer :=
  if s.cursor.index ≠ s.adjacent &&
      (s.cursor.peek? 1 = some '[' || s.cursor.peek? 1 = some '\x7b') then none
  else s.readValue

def readName (s : Lexer) (token : String → Token) : Option Lexer := do
  let s := { s.noteCandidate with keyAllowed := false }
  let (name, rest) ← Property.name? s.cursor.rest.tail
  return (s.push (token name) s.cursor.column).moveTo (s.cursor.skipTo rest)

def readTag (s : Lexer) : Option Lexer := do
  let s := { s.noteCandidate with keyAllowed := false }
  let (token, rest) ← Property.tag? s.inFlow s.cursor.rest.tail
  return (s.push token s.cursor.column).moveTo (s.cursor.skipTo rest)

def readBlock (s : Lexer) (literal : Bool) : Option Lexer := do
  let s := { s.noteCandidate with keyAllowed := true }.dropLooseIndents
  let (text, after) ← Block.read literal s.indent s.cursor
  return (s.push (.scalar false (String.ofList text)) s.cursor.column).moveTo after

def readQuoted (s : Lexer) (single : Bool) : Option Lexer := do
  let s := { s.noteCandidate with keyAllowed := false }
  let (text, after) ← Quoted.read single s.inFlow s.indent s.cursor
  let column := s.cursor.column
  let s ← skipGap after.rest.length (s.moveTo after)
  return { s with adjacent := s.cursor.index }.push (.scalar false (String.ofList text)) column

def readPlain (s : Lexer) : Option Lexer := do
  let s := { s.noteCandidate with keyAllowed := false }.dropLooseIndents
  let indent := s.indent + 1
  if s.inFlow && (s.cursor.column : Int) < indent then none
  else
    let (text, after) ← Plain.read s.inFlow indent s.cursor
    let s := { s with keyAllowed := s.keyAllowed || after.fresh }
    return (s.push (.scalar true (String.ofList text)) s.cursor.column).moveTo after

/-- Reads the token that begins with `c`. -/
def readToken (s : Lexer) (c : Char) : Option Lexer :=
  let next := s.cursor.peek? 1
  if s.cursor.column = 0 && c = '%' then s.readDirective
  else if s.cursor.column = 0 && s.cursor.atMarks '-' then s.readDocumentMark .documentStart
  else if s.cursor.column = 0 && s.cursor.atMarks '.' then s.readDocumentMark .documentEnd
  else if (s.cursor.column : Int) < s.indent then none
  else if c = '[' then s.readOpening .openSequence
  else if c = '\x7b' then s.readOpening .openMapping
  else if c = ']' then s.readClosing .closeSequence
  else if c = '\x7d' then s.readClosing .closeMapping
  else if c = ',' then s.readComma
  else if c = '-' && endsWord next then s.readEntry
  else if c = '?' && endsWord next then s.readKey
  else if c = ':' && endsWord next then s.readValue
  else if c = ':' && s.inFlow && (next.any isFlowMark || s.cursor.index = s.adjacent) then
    s.readAdjacentValue
  else if c = '*' then s.readName .reference
  else if c = '&' then s.readName .anchor
  else if c = '!' then s.readTag
  else if c = '|' && !s.inFlow then s.readBlock true
  else if c = '>' && !s.inFlow then s.readBlock false
  else if c = '\'' then s.readQuoted true
  else if c = '"' then s.readQuoted false
  else if c = '%' || c = '@' || c = '\x60' then none
  else s.readPlain

/-- At the end of the text all block collections end, and no key may be missing. -/
def finish (s : Lexer) : Option (Array PlacedToken) :=
  if s.candidate.any (·.required) || s.outerCandidates.any (·.any (·.required)) then none
  else some (s.closeBlocks (-1)).tokens

/-- Reads tokens up to the end of the text. Each token takes a character at least. -/
def readTokens : Nat → Lexer → Option (Array PlacedToken)
  | 0, _ => none
  | fuel + 1, s => do
    let s ← skipGap s.cursor.rest.length s
    let s ← s.dropStaleCandidate
    let s := s.closeBlocks s.cursor.column
    match s.cursor.peek? with
    | none => s.finish
    | some c => readTokens fuel (← s.readToken c)

end Lexer

/-- The tokens of a text, which ends before its first null character. -/
def Token.ofText? (text : List Char) : Option (List Token) := do
  let text := text.takeWhile (· != '\x00')
  let tokens ← Lexer.readTokens (text.length + 1) (.ofText text)
  return tokens.toList.flatMap fun t => t.before ++ [t.token]

end RegistryAuth.Yaml
