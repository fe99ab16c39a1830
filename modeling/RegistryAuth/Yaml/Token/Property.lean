import RegistryAuth.Yaml.Token
import RegistryAuth.Yaml.Token.Quoted

/-! # Anchors, tags and directives

A tag is written in full between angle brackets or as a suffix after a handle;
a directive gives a handle its expansion. Each function reads from the
characters after the opening mark and gives what is left of the text.
-/

namespace RegistryAuth.Yaml.Property

def isNameChar (c : Char) : Bool :=
  !isBlank c && !isBreak c && !isFlowMark c && c != '\uFEFF'

/-- The name of an anchor or of a reference to one. -/
def name? (text : List Char) : Option (String × List Char) :=
  let name := text.takeWhile isNameChar
  if name.isEmpty then none else some (String.ofList name, text.drop name.length)

def isUriChar (c : Char) : Bool :=
  isWordChar c || "#;/?:@&=+$,.!~*\x27()[]%".toList.contains c

def isTagChar (c : Char) : Bool :=
  isUriChar c && !isFlowMark c && c != '!'

/-- How many octets a character takes that begins with this one. -/
def octetCount? (octet : Nat) : Option Nat :=
  if octet < 0x80 then some 1
  else if octet / 0x20 = 0x6 then some 2
  else if octet / 0x10 = 0xE then some 3
  else if octet / 0x8 = 0x1E then some 4
  else none

def octet? : List Char → Option (Nat × List Char)
  | '%' :: a :: b :: rest => do
    return (16 * (← Quoted.hexValue? a) + (← Quoted.hexValue? b), rest)
  | _ => none

/-- Reads further octets of a character; side by side, its octets make up its code. -/
def furtherOctets : Nat → Nat → List Char → Option (Nat × List Char)
  | 0, code, text => some (code, text)
  | count + 1, code, text => do
    let (octet, rest) ← octet? text
    if octet / 0x40 = 2 then furtherOctets count (0x100 * code + octet) rest else none

def escapedChar? (text : List Char) : Option (Char × List Char) := do
  let (octet, rest) ← octet? text
  let count ← octetCount? octet
  let (code, rest) ← furtherOctets (count - 1) octet rest
  return (← Quoted.char? code, rest)

/-- Characters that satisfy `p`, those after a percent sign being escaped. -/
def uriChars (p : Char → Bool) : Nat → List Char → List Char → Option (List Char × List Char)
  | 0, done, text => some (done.reverse, text)
  | fuel + 1, done, text =>
    match text with
    | [] => some (done.reverse, [])
    | c :: rest =>
      if !p c then some (done.reverse, text)
      else if c = '%' then do
        let (e, after) ← escapedChar? text
        uriChars p fuel (e :: done) after
      else uriChars p fuel (c :: done) rest

def uriText (p : Char → Bool) (text : List Char) : Option (List Char × List Char) :=
  uriChars p (text.length + 1) [] text

/-- The word after the first mark of a tag, whether a second mark closes it to a handle, and the
rest. -/
def handle (text : List Char) : List Char × Bool × List Char :=
  let word := text.takeWhile isWordChar
  match text.drop word.length with
  | '!' :: rest => (word, true, rest)
  | rest => (word, false, rest)

def closedHandle (word : List Char) : String :=
  String.ofList ('!' :: word ++ ['!'])

def tagParts? (text : List Char) : Option (String × String × List Char) :=
  match text with
  | '<' :: rest => do
    let (suffix, after) ← uriText isUriChar rest
    match after with
    | '>' :: after => some ("", String.ofList suffix, after)
    | _ => none
  | _ =>
    match handle text with
    | (word, true, rest) => do
      let (suffix, after) ← uriText isTagChar rest
      if suffix.isEmpty then none
      else some (closedHandle word, String.ofList suffix, after)
    | (word, false, rest) => do
      let (more, after) ← uriText isTagChar rest
      let suffix := word ++ more
      if suffix.isEmpty then some ("", "!", after)
      else some ("!", String.ofList suffix, after)

/-- A tag, which a blank must follow, or in brackets and braces a mark of theirs. -/
def tag? (inFlow : Bool) (text : List Char) : Option (Token × List Char) := do
  let (handle, suffix, after) ← tagParts? text
  if endsWord after.head? || (inFlow && after.head?.any isFlowMark) then
    some (.tag handle suffix, after)
  else none

/-- A number of at most nine digits. -/
def skipVersionNumber? (text : List Char) : Option (List Char) :=
  let digits := text.takeWhile fun c => '0' ≤ c && c ≤ '9'
  if digits.isEmpty || digits.length > 9 then none else some (text.drop digits.length)

def version? (text : List Char) : Option (Token × List Char) := do
  match ← skipVersionNumber? (text.dropWhile isBlank) with
  | '.' :: rest => return (.versionDirective, ← skipVersionNumber? rest)
  | _ => none

/-- What a handle expands to: a mark or the beginning of a tag, and what follows it. -/
def expansion? (text : List Char) : Option (List Char × List Char) :=
  match text with
  | '!' :: rest => (uriText isUriChar rest).map fun (more, after) => ('!' :: more, after)
  | c :: _ => if isTagChar c then uriText isUriChar text else none
  | [] => none

def handleExpansion? (text : List Char) : Option (Token × List Char) :=
  match text.dropWhile isBlank with
  | '!' :: rest => do
    let (word, closed, rest) := handle rest
    let name ← if closed then some (closedHandle word)
      else if word.isEmpty then some "!" else none
    let (expansion, after) ← expansion? (rest.dropWhile isBlank)
    if endsWord after.head? then some (.tagDirective name (String.ofList expansion), after)
    else none
  | _ => none

/-- A directive of an unknown name says nothing, and all of its line belongs to it. -/
def directive? (text : List Char) : Option (Token × List Char) :=
  let name := text.takeWhile isWordChar
  let rest := text.drop name.length
  if name.isEmpty || !endsWord rest.head? then none
  else if name = "YAML".toList then version? rest
  else if name = "TAG".toList then handleExpansion? rest
  else some (.tagDirective "" "", rest.dropWhile (!isBreak ·))

end RegistryAuth.Yaml.Property
