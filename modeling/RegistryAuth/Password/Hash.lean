import RegistryAuth.Crypto.Argon2
import RegistryAuth.Password.Phc

/-! # Password hashes

New passwords are hashed with the hybrid variant of Argon2 under fixed costs. A
password is checked against a written hash by hashing it again in the way that
the hash itself tells, and a hash that does not tell a possible way accepts no
password.
-/

namespace RegistryAuth.Password

def defaultCost : Argon2.Cost := ⟨19456, 2, 1⟩

def hashSize : Nat := 32

/-- The way in which a password was hashed. -/
structure Recipe where
  variant : Argon2.Variant
  version : Argon2.Version
  cost : Argon2.Cost
  associated : Bytes
deriving DecidableEq, Repr

def variant? (name : String) : Option Argon2.Variant :=
  if name == "argon2d" then some .dataDependent
  else if name == "argon2i" then some .dataIndependent
  else if name == "argon2id" then some .hybrid
  else none

def version? : Option Nat → Option Argon2.Version
  | none => some .v13
  | some n => if n = 0x10 then some .v10 else if n = 0x13 then some .v13 else none

/-- Bytes written in base64, at most `limit` of them. -/
def boundedBytes? (limit : Nat) (text : List Char) : Option Bytes :=
  (Base64.decode? Base64.standard false text).filter (·.length ≤ limit)

def readParameter (recipe : Recipe) (parameter : String × String) : Option Recipe :=
  let (name, value) := parameter
  let text := value.toList
  match name with
  | "m" => (Phc.decimal? text).map fun n => { recipe with cost.memory := n }
  | "t" => (Phc.decimal? text).map fun n => { recipe with cost.passes := n }
  | "p" => (Phc.decimal? text).map fun n => { recipe with cost.lanes := n }
  | "keyid" => (boundedBytes? 8 text).map fun _ => recipe
  | "data" => (boundedBytes? 32 text).map fun bytes => { recipe with associated := bytes }
  | _ => none

def isPossible (cost : Argon2.Cost) : Bool :=
  1 ≤ cost.passes && 1 ≤ cost.lanes && cost.lanes < 0x1000000 && 8 * cost.lanes ≤ cost.memory

def recipe? (phc : Phc) : Option Recipe := do
  let variant ← variant? phc.algorithm
  let version ← version? phc.version
  let recipe ← phc.parameters.foldlM readParameter ⟨variant, version, defaultCost, []⟩
  if isPossible recipe.cost then some recipe else none

def saltBytes? (salt : String) : Option Bytes :=
  (Base64.decode? Base64.standard false salt.toList).filter (8 ≤ ·.length)

/-- The hash of a password, of as many bytes as asked for. -/
def tag (recipe : Recipe) (salt : Bytes) (size : Nat) (password : String) : Bytes :=
  Argon2.tag recipe.variant recipe.version recipe.cost size
    ⟨Bytes.ofText password, salt, recipe.associated⟩

def verify (password text : String) : Bool :=
  let accepted := do
    let phc ← Phc.parse? text
    let salt ← phc.salt
    let expected ← phc.hash
    let recipe ← recipe? phc
    let saltBytes ← saltBytes? salt
    some (tag recipe saltBytes expected.length password == expected)
  accepted.getD false

/-- The hash of a new password under a salt of 16 bytes. -/
def hash (salt : Bytes) (password : String) : Phc :=
  let recipe : Recipe := ⟨.hybrid, .v13, defaultCost, []⟩
  { algorithm := "argon2id"
    version := some 0x13
    parameters := [("m", toString defaultCost.memory), ("t", toString defaultCost.passes),
      ("p", toString defaultCost.lanes)]
    salt := some (String.ofList (Base64.encode Base64.standard false salt))
    hash := some (tag recipe salt hashSize password) }

end RegistryAuth.Password
