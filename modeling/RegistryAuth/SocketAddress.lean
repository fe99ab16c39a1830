import RegistryAuth.Text.Quoted

/-! # Socket addresses

An address to listen on: four octets and a port, or, in brackets, eight groups
with an optional scope and a port. Groups are written in hexadecimal, the last
two also as four octets, and a double colon stands for groups of zeros. The
written form shortens the longest run of two or more zeros, the first of equals.
-/

namespace RegistryAuth

inductive SocketAddress where
  | v4 (octets : List Nat) (port : Nat)
  | v6 (groups : List Nat) (scope port : Nat)
deriving DecidableEq, Repr

namespace SocketAddress

def digit? (radix : Nat) (c : Char) : Option Nat :=
  let value :=
    if '0' ≤ c && c ≤ '9' then c.toNat - 0x30
    else if 'a' ≤ c && c ≤ 'f' then c.toNat - 0x57
    else if 'A' ≤ c && c ≤ 'F' then c.toNat - 0x37
    else radix
  if value < radix then some value else none

/-- Reads all digits that come next as a number up to `limit`. -/
def readNumber (radix limit : Nat) (text : List Char) : Option (Nat × List Char) :=
  let digits := text.takeWhile fun c => (digit? radix c).isSome
  let value := digits.foldl (fun n c => radix * n + (digit? radix c).getD 0) 0
  if digits.isEmpty || value > limit then none else some (value, text.drop digits.length)

def digitCount (radix : Nat) (text : List Char) : Nat :=
  (text.takeWhile fun c => (digit? radix c).isSome).length

/-- Reads an octet, which begins with zero only if it is zero. -/
def readOctet (text : List Char) : Option (Nat × List Char) :=
  let count := digitCount 10 text
  if count > 3 || (text.head? = some '0' && count > 1) then none else readNumber 10 255 text

def readGroup (text : List Char) : Option (Nat × List Char) :=
  if digitCount 16 text > 4 then none else readNumber 16 0xFFFF text

def expect (c : Char) : List Char → Option (List Char)
  | d :: rest => if d = c then some rest else none
  | [] => none

def readOctets (text : List Char) : Option (List Nat × List Char) := do
  let (a, text) ← readOctet text
  let (b, text) ← readOctet (← expect '.' text)
  let (c, text) ← readOctet (← expect '.' text)
  let (d, text) ← readOctet (← expect '.' text)
  return ([a, b, c, d], text)

/-- The rest of a text from the group at a place on: a colon stands before it unless it is the
first. -/
def afterSeparator (first : Bool) (text : List Char) : Option (List Char) :=
  if first then some text else expect ':' text

/-- Reads up to `room` groups, and whether octets stand for the last two of them. -/
def readGroups (first : Bool) : Nat → List Char → List Nat × Bool × List Char
  | 0, text => ([], false, text)
  | room + 1, text =>
    let start := afterSeparator first text
    match if room > 0 then start.bind readOctets else none with
    | some ([a, b, c, d], rest) => ([256 * a + b, 256 * c + d], true, rest)
    | _ =>
      match start.bind readGroup with
      | none => ([], false, text)
      | some (group, rest) =>
        let (groups, octets, rest) := readGroups false room rest
        (group :: groups, octets, rest)

def readAllGroups (text : List Char) : Option (List Nat × List Char) :=
  let (before, octets, rest) := readGroups true 8 text
  if before.length = 8 then some (before, rest)
  else if octets then none
  else do
    let rest ← expect ':' (← expect ':' rest)
    let (after, _, rest) := readGroups true (7 - before.length) rest
    let zeros := List.replicate (8 - before.length - after.length) 0
    return (before ++ zeros ++ after, rest)

def readPort (text : List Char) : Option (Nat × List Char) := do
  readNumber 10 0xFFFF (← expect ':' text)

def readScope (text : List Char) : Option (Nat × List Char) :=
  match expect '%' text with
  | some rest => readNumber 10 0xFFFFFFFF rest
  | none => some (0, text)

def readV4 (text : List Char) : Option (SocketAddress × List Char) := do
  let (octets, rest) ← readOctets text
  let (port, rest) ← readPort rest
  return (v4 octets port, rest)

def readV6 (text : List Char) : Option (SocketAddress × List Char) := do
  let (groups, rest) ← readAllGroups (← expect '[' text)
  let (scope, rest) ← readScope rest
  let (port, rest) ← readPort (← expect ']' rest)
  return (v6 groups scope port, rest)

def ofText? (text : List Char) : Option SocketAddress :=
  match (readV4 text).orElse fun _ => readV6 text with
  | some (address, []) => some address
  | _ => none

def parse? (text : String) : Option SocketAddress := ofText? text.toList

/-! Written form -/

def octetsText (octets : List Nat) : String := ".".intercalate (octets.map toString)

def groupText (group : Nat) : String := String.ofList (Text.hexadecimal group)

def groupsText (groups : List Nat) : String := ":".intercalate (groups.map groupText)

/-- Where the longest run of zeros begins and how long it is, the first of equals. -/
def longestZeros (groups : List Nat) : Nat × Nat :=
  (List.range groups.length).foldl (fun best start =>
    let length := ((groups.drop start).takeWhile (· = 0)).length
    if length > best.2 then (start, length) else best) (0, 0)

def v6Text (groups : List Nat) : String :=
  match groups with
  | [0, 0, 0, 0, 0, 0xFFFF, a, b] =>
    "::ffff:" ++ octetsText [a / 256, a % 256, b / 256, b % 256]
  | _ =>
    let (start, length) := longestZeros groups
    if length > 1 then
      groupsText (groups.take start) ++ "::" ++ groupsText (groups.drop (start + length))
    else groupsText groups

def render : SocketAddress → String
  | v4 octets port => octetsText octets ++ ":" ++ toString port
  | v6 groups scope port =>
    let scopeText := if scope = 0 then "" else "%" ++ toString scope
    "[" ++ v6Text groups ++ scopeText ++ "]:" ++ toString port

end SocketAddress

end RegistryAuth
