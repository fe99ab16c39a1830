import RegistryAuth.Yaml.Node.Scalar
import RegistryAuth.Yaml.Token.Lexer

/-! # Nodes of tokens

The tokens of one document make up one node. A missing key or value is null. An
anchor names the node after it for references further on; a reference from
within the node itself cannot be read.
-/

namespace RegistryAuth.Yaml

/-- The tokens left, and the anchors met so far: an anchor counts for its name from where it
stands, and has a node once that is complete. -/
structure NodeState where
  tokens : List Token
  handles : List (String × String)
  names : List (String × Nat)
  nodes : List (Nat × Node)

abbrev NodeReader := StateT NodeState Option

namespace NodeReader

def peek : NodeReader (Option Token) := do return (← get).tokens.head?

def advance : NodeReader Unit := modify fun s => { s with tokens := s.tokens.tail }

/-- Whether one of the tokens comes next. -/
def comes (tokens : List Token) : NodeReader Bool := do
  return (← peek).any tokens.contains

def expect (token : Token) : NodeReader Unit := do
  if ← comes [token] then advance else failure

/-! Properties -/

def isClosedHandle (handle : String) : Bool :=
  handle.length ≥ 2 && handle.toList.head? = some '!' && handle.toList.getLast? = some '!'

/-- What a handle expands to. A handle between two marks must have been given an expansion, but for
the handle of the core schema. -/
def expansion (handle : String) : NodeReader String := do
  match (← get).handles.lookup handle with
  | some expansion => return expansion
  | none =>
    if handle = "!!" then return ScalarType.core
    else if isClosedHandle handle then failure
    else return handle

def anchor (name : String) : NodeReader Nat := do
  let s ← get
  let id := s.names.length
  set { s with names := (name, id) :: s.names }
  return id

def complete (id : Option Nat) (node : Node) : NodeReader Node := do
  match id with
  | some id => modify fun s => { s with nodes := (id, node) :: s.nodes }
  | none => pure ()
  return node

def reference (name : String) : NodeReader Node := do
  let s ← get
  match s.names.lookup name with
  | some id => return (s.nodes.lookup id).getD .unreadable
  | none => failure

/-- Reads the anchor and the tag of a node, in either order. -/
def properties : NodeReader (Option Nat × Option ScalarType) := do
  match ← peek with
  | some (.anchor name) =>
    advance
    let id ← anchor name
    match ← peek with
    | some (.tag handle suffix) =>
      advance
      return (some id, some (.ofTag (← expansion handle) suffix))
    | _ => return (some id, none)
  | some (.tag handle suffix) =>
    advance
    let type := ScalarType.ofTag (← expansion handle) suffix
    match ← peek with
    | some (.anchor name) =>
      advance
      return (some (← anchor name), some type)
    | _ => return (none, some type)
  | _ => return (none, none)

/-! Collections -/

mutual

/-- Reads a node. A node among block collections may be a block collection, and one after a key a
block sequence that is not indented. -/
def node (block afterKey : Bool) : Nat → NodeReader Node
  | 0 => failure
  | fuel + 1 => do
    match ← peek with
    | some (.reference name) =>
      advance
      reference name
    | _ =>
      let (id, type) ← properties
      complete id (← content block afterKey (id.isSome || type.isSome) type fuel)

/-- Reads what follows the properties of a node. -/
def content (block afterKey hasProperties : Bool) (type : Option ScalarType) :
    Nat → NodeReader Node
  | 0 => failure
  | fuel + 1 => do
    match ← peek with
    | some (.scalar plain text) =>
      advance
      return .ofScalar plain type text
    | some .openSequence =>
      advance
      return .sequence (← flowItems true fuel)
    | some .openMapping =>
      advance
      return .mapping (← flowMembers true fuel)
    | token =>
      if token = some .entry && afterKey then return .sequence (← looseItems fuel)
      else if token = some .openBlockSequence && block then
        advance
        return .sequence (← blockItems fuel)
      else if token = some .openBlockMapping && block then
        advance
        return .mapping (← blockMembers fuel)
      else if hasProperties then return .ofScalar true type ""
      else failure

/-- Reads a node unless one of the tokens comes next. -/
def nodeUnless (tokens : List Token) (block afterKey : Bool) : Nat → NodeReader Node
  | 0 => failure
  | fuel + 1 => do
    if ← comes tokens then return .null else node block afterKey fuel

def blockItems : Nat → NodeReader (List Node)
  | 0 => failure
  | fuel + 1 => do
    if ← comes [.closeBlock] then
      advance
      return []
    else
      expect .entry
      let item ← nodeUnless [.entry, .closeBlock] true false fuel
      return item :: (← blockItems fuel)

/-- Reads the items of a block sequence that is not indented, which no token closes. -/
def looseItems : Nat → NodeReader (List Node)
  | 0 => failure
  | fuel + 1 => do
    if ← comes [.entry] then
      advance
      let item ← nodeUnless [.entry, .key, .value, .closeBlock] true false fuel
      return item :: (← looseItems fuel)
    else return []

/-- Reads the value of a key if there is one. -/
def memberValue (ends : List Token) (block : Bool) : Nat → NodeReader Node
  | 0 => failure
  | fuel + 1 => do
    if ← comes [.value] then
      advance
      nodeUnless ends block block fuel
    else return .null

def blockMembers : Nat → NodeReader (List Node)
  | 0 => failure
  | fuel + 1 => do
    let ends := [Token.key, .value, .closeBlock]
    if ← comes [.closeBlock] then
      advance
      return []
    else
      let key ← if ← comes [.value] then pure Node.null
        else do
          expect .key
          nodeUnless ends true true fuel
      let value ← memberValue ends true fuel
      return key :: value :: (← blockMembers fuel)

/-- Reads a mapping of one pair within brackets. Its key is not missing. -/
def pair : Nat → NodeReader Node
  | 0 => failure
  | fuel + 1 => do
    let key ← node false false fuel
    let value ← memberValue [.comma, .closeSequence] false fuel
    return .mapping [key, value]

def flowItems (first : Bool) : Nat → NodeReader (List Node)
  | 0 => failure
  | fuel + 1 => do
    if !first && !(← comes [.closeSequence]) then expect .comma
    if ← comes [.closeSequence] then
      advance
      return []
    else
      let item ← if ← comes [.key] then do
          advance
          pair fuel
        else node false false fuel
      return item :: (← flowItems false fuel)

def flowMembers (first : Bool) : Nat → NodeReader (List Node)
  | 0 => failure
  | fuel + 1 => do
    if !first && !(← comes [.closeMapping]) then expect .comma
    let ends := [Token.comma, .closeMapping]
    if ← comes [.closeMapping] then
      advance
      return []
    else if ← comes [.value] then
      let value ← memberValue ends false fuel
      return .null :: value :: (← flowMembers false fuel)
    else if ← comes [.key] then
      advance
      let key ← nodeUnless (.value :: ends) false false fuel
      let value ← memberValue ends false fuel
      return key :: value :: (← flowMembers false fuel)
    else
      let key ← node false false fuel
      return key :: .null :: (← flowMembers false fuel)

end

/-! Documents -/

/-- Reads the directives before a document. The last one decides what handles expand to. -/
def directives (versioned : Bool) : Nat → NodeReader Unit
  | 0 => failure
  | fuel + 1 => do
    match ← peek with
    | some .versionDirective =>
      if versioned then failure
      else
        advance
        modify fun s => { s with handles := [] }
        directives true fuel
    | some (.tagDirective handle expansion) =>
      advance
      modify fun s => { s with handles := [(handle, expansion)] }
      directives versioned fuel
    | _ => return ()

def skipDocumentEnds : NodeReader Unit :=
  modify fun s => { s with tokens := s.tokens.dropWhile (· == .documentEnd) }

def isDirective : Token → Bool
  | .versionDirective | .tagDirective _ _ => true
  | _ => false

/-- Reads all tokens as at most one document. -/
def document (fuel : Nat) : NodeReader (Option Node) := do
  skipDocumentEnds
  match ← peek with
  | none => return none
  | some token =>
    let explicit := isDirective token || token == .documentStart
    if explicit then
      directives false fuel
      expect .documentStart
    let next ← peek
    let missing := explicit &&
      (next.isNone || next.any fun t => isDirective t || t == .documentStart || t == .documentEnd)
    let root ← if missing then pure Node.null else node true false fuel
    skipDocumentEnds
    if (← peek).isSome then failure else return some root

end NodeReader

/-- The node of a text, `none` inside if the text has no document. -/
def Node.ofText? (text : List Char) : Option (Option Node) := do
  let tokens ← Token.ofText? text
  let (root, _) ← (NodeReader.document (4 * tokens.length + 8)).run ⟨tokens, [], [], []⟩
  return root

end RegistryAuth.Yaml
