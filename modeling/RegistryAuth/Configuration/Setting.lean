import RegistryAuth.Configuration.KeyPath
import RegistryAuth.Json.Basic

/-! # Settings

A setting is a scalar, a list or a table of settings, each with the place where
it was made if it comes from a file or the environment. Laying one setting over
another merges tables name by name and replaces anything else.
-/

namespace RegistryAuth

inductive Scalar where
  | unit
  | bool (value : Bool)
  | int (value : Int)
  | real (value : Binary64)
  | text (value : String)
deriving DecidableEq, Repr

/-- Where a setting was made, as messages name it. -/
abbrev Origin := Option String

inductive Setting where
  | scalar (value : Scalar) (origin : Origin)
  | list (items : List Setting) (origin : Origin)
  | table (entries : List (String × Setting)) (origin : Origin)
deriving Repr, Inhabited

namespace Setting

def unit : Setting := scalar .unit none

def emptyTable : Setting := table [] none

/-- Puts an entry into a table, in place of one of the same name. -/
def put (entries : List (String × Setting)) (name : String) (setting : Setting) :
    List (String × Setting) :=
  match entries with
  | [] => [(name, setting)]
  | (n, s) :: rest =>
    if n == name then (name, setting) :: rest else (n, s) :: put rest name setting

theorem lookup_put_self (entries : List (String × Setting)) (name : String) (setting : Setting) :
    (put entries name setting).lookup name = some setting := by
  induction entries with
  | nil => simp [put]
  | cons entry rest ih =>
    obtain ⟨n, s⟩ := entry
    by_cases h : n = name
    · simp [put, h]
    · have hb : (name == n) = false := beq_false_of_ne (Ne.symm h)
      simp [put, h, List.lookup_cons, hb, ih]

theorem lookup_put_of_ne {name other : String} (h : other ≠ name)
    (entries : List (String × Setting)) (setting : Setting) :
    (put entries name setting).lookup other = entries.lookup other := by
  have hb : (other == name) = false := beq_false_of_ne h
  induction entries with
  | nil => simp [put, List.lookup_cons, hb]
  | cons entry rest ih =>
    obtain ⟨n, s⟩ := entry
    by_cases hn : n = name
    · simp [put, List.lookup_cons, hn, hb]
    · cases ho : other == n <;> simp [put, hn, List.lookup_cons, ho, ih]

/-! Values -/

mutual

def ofJson (origin : Origin) : Json → Setting
  | .null => scalar .unit origin
  | .bool value => scalar (.bool value) origin
  | .int value => scalar (.int value) origin
  | .real value => scalar (.real value) origin
  | .string value => scalar (.text value) origin
  | .array items => list (ofItems origin items) origin
  | .object members => table (ofMembers origin members) origin

def ofItems (origin : Origin) : List Json → List Setting
  | [] => []
  | item :: rest => ofJson origin item :: ofItems origin rest

def ofMembers (origin : Origin) : List (String × Json) → List (String × Setting)
  | [] => []
  | (name, value) :: rest => (name, ofJson origin value) :: ofMembers origin rest

end

mutual

/-- The value of a setting. A number that is not finite is null. -/
def toJson : Setting → Json
  | scalar .unit _ => .null
  | scalar (.bool value) _ => .bool value
  | scalar (.int value) _ => .int value
  | scalar (.real value) _ => if value.isFinite then .real value else .null
  | scalar (.text value) _ => .string value
  | list items _ => .array (itemsToJson items)
  | table entries _ => .object (entriesToJson entries)

def itemsToJson : List Setting → List Json
  | [] => []
  | item :: rest => toJson item :: itemsToJson rest

def entriesToJson : List (String × Setting) → List (String × Json)
  | [] => []
  | (name, setting) :: rest => (name, toJson setting) :: entriesToJson rest

end

/-! Laying over -/

/-- The entries and the origin of a table to lay entries over. -/
def tableParts : Option Setting → List (String × Setting) × Origin
  | some (table entries origin) => (entries, origin)
  | _ => ([], none)

def listParts : Option Setting → List Setting × Origin
  | some (list items origin) => (items, origin)
  | _ => ([], none)

mutual

/-- Lays a setting over the one below it. -/
def overlay (below : Option Setting) : Setting → Setting
  | table entries _ => table (overlayEntries (tableParts below).1 entries) (tableParts below).2
  | scalar value origin => scalar value origin
  | list items origin => list items origin

def overlayEntries (below : List (String × Setting)) :
    List (String × Setting) → List (String × Setting)
  | [] => below
  | (name, setting) :: rest =>
    overlayEntries (put below name (overlay (below.lookup name) setting)) rest

end

/-- The items of a list with room for an index, and the place of the index among them. Missing
items are without a value. -/
def makeRoom (items : List Setting) (index : Int) : List Setting × Nat :=
  if index < 0 then
    let missing := (-index).toNat - items.length
    (List.replicate missing unit ++ items, ((items.length : Int) + index).toNat)
  else
    (items ++ List.replicate (index.toNat + 1 - items.length) unit, index.toNat)

/-- Lays a setting over the one below that some steps lead to. -/
def overlayAt (below : Option Setting) (setting : Setting) : List KeyStep → Setting
  | [] => overlay below setting
  | .name name :: steps =>
    let (entries, origin) := tableParts below
    table (put entries name (overlayAt (entries.lookup name) setting steps)) origin
  | .place index :: steps =>
    let (items, origin) := listParts below
    let (items, place) := makeRoom items index
    list (items.set place (overlayAt items[place]? setting steps)) origin

/-- Lays a setting over the one at a path. -/
def assign (root : Setting) (path : KeyPath) (setting : Setting) : Setting :=
  overlayAt (some root) setting (.name path.root :: path.steps)

end Setting

end RegistryAuth
