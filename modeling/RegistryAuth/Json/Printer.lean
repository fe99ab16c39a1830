import RegistryAuth.Json.Basic
import RegistryAuth.Number.Shortest
import RegistryAuth.Text.Quoted

/-! # JSON texts

A value is written without blanks. Quotes, backslashes and control characters
are escaped in strings and nothing else is. A number that is no integer has the
fewest digits that read back, and one that is not finite is written as `null`.
-/

namespace RegistryAuth.Json

def controlEscape (n : Nat) : List Char :=
  ['\\', 'u', '0', '0', Text.hexDigit (n / 16), Text.hexDigit (n % 16)]

def escapedChar (c : Char) : List Char :=
  if c = '"' then ['\\', '"']
  else if c = '\\' then ['\\', '\\']
  else if c = '\n' then ['\\', 'n']
  else if c = '\r' then ['\\', 'r']
  else if c = '\t' then ['\\', 't']
  else if c = '\x08' then ['\\', 'b']
  else if c = '\x0c' then ['\\', 'f']
  else if c.toNat < 0x20 then controlEscape c.toNat
  else [c]

def stringText (text : List Char) : List Char :=
  '"' :: text.flatMap escapedChar ++ ['"']

/-- Positional up to sixteen places before the point and four zeros behind it, else with an
exponent. -/
def realText (x : Binary64) : List Char :=
  if !x.isFinite then "null".toList
  else if x.isZero then (if x.isNegative then "-0.0" else "0.0").toList
  else
    let (digits, exponent) := x.shortest
    let trimmed := ((toString digits).toList.reverse.dropWhile (· == '0')).reverse
    let places : Int := (toString digits).length + exponent
    let sign := if x.isNegative then ['-'] else []
    if trimmed.length ≤ places && places ≤ 16 then
      sign ++ trimmed ++ List.replicate (places.toNat - trimmed.length) '0' ++ ['.', '0']
    else if 0 < places && places ≤ 16 then
      sign ++ trimmed.take places.toNat ++ '.' :: trimmed.drop places.toNat
    else if -5 < places && places ≤ 0 then
      sign ++ ['0', '.'] ++ List.replicate (-places).toNat '0' ++ trimmed
    else
      let fraction := if trimmed.length = 1 then [] else '.' :: trimmed.drop 1
      let exponentSign := if places > 0 then '+' else '-'
      sign ++ trimmed.take 1 ++ fraction ++ 'e' :: exponentSign ::
        (toString (places - 1).natAbs).toList

mutual

def text : Json → List Char
  | null => "null".toList
  | bool value => (if value then "true" else "false").toList
  | int value => (toString value).toList
  | real value => realText value
  | string value => stringText value.toList
  | array [] => ['[', ']']
  | array (item :: rest) => '[' :: text item ++ itemsText rest
  | object [] => ['\x7b', '\x7d']
  | object (member :: rest) => '\x7b' :: memberText member ++ membersText rest

def itemsText : List Json → List Char
  | [] => [']']
  | item :: rest => ',' :: text item ++ itemsText rest

def memberText : String × Json → List Char
  | (name, value) => stringText name.toList ++ ':' :: text value

def membersText : List (String × Json) → List Char
  | [] => ['\x7d']
  | member :: rest => ',' :: memberText member ++ membersText rest

end

def render (json : Json) : String :=
  String.ofList json.text

end RegistryAuth.Json
