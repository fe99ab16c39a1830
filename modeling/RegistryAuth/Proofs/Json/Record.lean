import Mathlib.Algebra.Group.Int.Defs
import RegistryAuth.Json.Reading
import RegistryAuth.Proofs.Except

/-! # What records are read from

A record is read if each of its fields is. In an object a required field is the
value of the only member of its name, and in an array the item at its position.
-/

namespace RegistryAuth

namespace Json

/-- The value of the only member of a name. -/
def IsOnly (members : List (String × Json)) (name : String) (value : Json) : Prop :=
  members.filter (fun member => member.1 == name) = [(name, value)]

theorem IsOnly.mem {members : List (String × Json)} {name : String} {value : Json}
    (h : IsOnly members name value) : (name, value) ∈ members := by
  have hm : (name, value) ∈ members.filter fun member => member.1 == name := by
    rw [h]
    exact List.mem_singleton_self _
  exact (List.mem_filter.mp hm).1

/-- The members of a name are the one with this value, or none if there is no value. -/
def IsOptional (members : List (String × Json)) (name : String) (value : Option Json) : Prop :=
  members.filter (fun member => member.1 == name) = (value.map fun json => (name, json)).toList

end Json

namespace JsonReader

variable {json : Json}

theorem text_eq_ok_iff {value : String} : text json = .ok value ↔ json = .string value := by
  cases json <;> simp [text, mismatch]

theorem int64_eq_ok_iff {value : Int} :
    int64 json = .ok value ↔ json = .int value ∧ -(2 ^ 63) ≤ value ∧ value < 2 ^ 63 := by
  cases json with
  | int n =>
    simp only [int64, Json.int.injEq]
    split
    next h =>
      simp only [Bool.and_eq_true, decide_eq_true_eq] at h
      constructor
      · rintro ⟨⟩
        exact ⟨rfl, h⟩
      · rintro ⟨rfl, -⟩
        rfl
    next h =>
      simp only [Bool.and_eq_true, decide_eq_true_eq] at h
      refine ⟨nofun, ?_⟩
      rintro ⟨rfl, hr⟩
      exact absurd hr h
  | _ => simp [int64, mismatch]

theorem list_array_map {α : Type} {reader : JsonReader α} {write : α → Json} {values : List α}
    (h : ∀ value ∈ values, reader (write value) = .ok value) :
    list reader (.array (values.map write)) = .ok values := by
  simp only [list]
  induction values with
  | nil => rfl
  | cons value values ih =>
    obtain ⟨hv, hr⟩ := List.forall_mem_cons.mp h
    rw [List.map_cons, List.mapM_cons, hv, ih hr]
    rfl

end JsonReader

namespace RecordReader

variable {α β : Type} {f : RecordReader (α → β)} {x : RecordReader α} {source : RecordSource}
  {start : Nat} {members : List (String × Json)} {items : List Json} {name expected : String}
  {reader : JsonReader α} {value : α}

theorem map_read_eq_ok_iff {g : α → β} {b : β} :
    (g <$> x).read source start = .ok b ↔ ∃ a, x.read source start = .ok a ∧ g a = b :=
  Except.map_eq_ok_iff

theorem seq_read_eq_ok_iff {b : β} :
    (f <*> x).read source start = .ok b ↔
      ∃ g a, f.read source start = .ok g ∧ x.read source (start + f.width) = .ok a ∧ g a = b := by
  change (seq f fun _ => x).read source start = .ok b ↔ _
  cases hf : f.read source start <;> cases hx : x.read source (start + f.width) <;>
    simp [seq, hf, hx]

theorem occurrences_map_fst (names : List String) (members : List (String × Json)) :
    (occurrences names members).map Prod.fst =
      (members.filter fun member => names.contains member.1).map Prod.snd := by
  rw [← List.zipIdx_map_fst 0 members, List.filter_map, List.map_map, List.zipIdx_map_fst,
    occurrences, List.map_map]
  rfl

theorem fieldWith_read_members_eq_ok_iff {aliases : List String}
    {absentMember absentItem : Option α} :
    (fieldWith name aliases reader absentMember absentItem).read (.members members) start =
        .ok value ↔
      (occurrences (name :: aliases) members = [] ∧ absentMember = some value) ∨
        ∃ json, (occurrences (name :: aliases) members).map Prod.fst = [json] ∧
          reader json = .ok value := by
  simp only [fieldWith]
  rcases occurrences (name :: aliases) members with _ | ⟨⟨json, place⟩, _ | ⟨⟨_, second⟩, _⟩⟩
  · cases absentMember <;> simp
  · cases h : reader json <;> simp [h]
  · cases h : reader json <;> simp [h]

theorem required_read_members_eq_ok_iff :
    (required name reader).read (.members members) start = .ok value ↔
      ∃ json, Json.IsOnly members name json ∧ reader json = .ok value := by
  have ho : ∀ json, (occurrences [name] members).map Prod.fst = [json] ↔
      Json.IsOnly members name json := by
    intro json
    simp only [occurrences_map_fst, Json.IsOnly, List.contains_cons, List.contains_nil,
      Bool.or_false]
    constructor
    · intro h
      obtain ⟨member, hm, rfl⟩ := List.map_eq_singleton_iff.mp h
      have hn := (List.mem_filter.mp (hm ▸ List.mem_singleton_self member)).2
      rw [hm, ← eq_of_beq hn]
    · intro h
      rw [h]
      rfl
  rw [required, fieldWith_read_members_eq_ok_iff]
  simp [ho]

theorem required_text_read_members_eq_ok_iff {text : String} :
    (required name JsonReader.text).read (.members members) start = .ok text ↔
      Json.IsOnly members name (.string text) := by
  simp [required_read_members_eq_ok_iff, JsonReader.text_eq_ok_iff]

theorem required_int64_read_members_eq_ok_iff {number : Int} :
    (required name JsonReader.int64).read (.members members) start = .ok number ↔
      Json.IsOnly members name (.int number) ∧ -(2 ^ 63) ≤ number ∧ number < 2 ^ 63 := by
  simp only [required_read_members_eq_ok_iff, JsonReader.int64_eq_ok_iff]
  constructor
  · rintro ⟨_, ho, rfl, hr⟩
    exact ⟨ho, hr⟩
  · rintro ⟨ho, hr⟩
    exact ⟨_, ho, rfl, hr⟩

theorem required_read_items_eq_ok_iff :
    (required name reader).read (.items items expected) start = .ok value ↔
      ∃ json, items[start]? = some json ∧ reader json = .ok value := by
  simp only [required, fieldWith]
  cases items[start]? with
  | none => simp
  | some json => cases h : reader json <;> simp [h]

theorem toReader_object_eq_ok_iff :
    x.toReader name (.object members) = .ok value ↔ x.read (.members members) 0 = .ok value :=
  Except.mapError_eq_ok_iff

/-- A record is read from the members of an object or the items of an array. -/
theorem toReader_eq_ok {json : Json} (h : x.toReader name json = .ok value) :
    ∃ source, x.read source 0 = .ok value ∧
      ((∃ members, json = .object members ∧ source = .members members) ∨
        ∃ items expected, json = .array items ∧ source = .items items expected) := by
  cases json with
  | object members =>
    exact ⟨_, toReader_object_eq_ok_iff.mp h, .inl ⟨members, rfl, rfl⟩⟩
  | array items =>
    refine ⟨.items items (expectedRecord name x.width), ?_, .inr ⟨items, _, rfl, rfl⟩⟩
    simp only [toReader] at h
    cases hr : x.read (.items items (expectedRecord name x.width)) 0 with
    | error e => simp [hr] at h
    | ok a =>
      simp only [hr] at h
      split at h <;> cases h
      rfl
  | _ => cases h

end RecordReader

end RegistryAuth
