import RegistryAuth.Text.Blank

/-! # Splitting

A sequence of characters or bytes is cut at the first, the last or at every occurrence of a separator.
Cutting everywhere gives one piece more than there are separators, and joining
the pieces gives the text back.
-/

namespace RegistryAuth.Text

/-- The pieces between the elements that satisfy `p`. -/
def splitWhere {α : Type} (p : α → Bool) (text : List α) : List (List α) :=
  text.foldr (fun c pieces =>
    if p c then [] :: pieces
    else match pieces with
      | [] => [[c]]
      | piece :: others => (c :: piece) :: others) [[]]

def splitOn {α : Type} [BEq α] (separator : α) (text : List α) : List (List α) :=
  splitWhere (· == separator) text

def words (text : List Char) : List (List Char) :=
  (splitWhere isBlank text).filter (!·.isEmpty)

/-- What stands before and after the first separator. -/
def splitFirst? {α : Type} [BEq α] (separator : α) (text : List α) : Option (List α × List α) :=
  match text.dropWhile (· != separator) with
  | [] => none
  | _ :: rest => some (text.takeWhile (· != separator), rest)

/-- What stands before and after the last separator. -/
def splitLast? {α : Type} [BEq α] (separator : α) (text : List α) : Option (List α × List α) :=
  (splitFirst? separator text.reverse).map fun (after, before) => (before.reverse, after.reverse)

/-- The rest of a text after a given beginning. -/
def dropStart? : List Char → List Char → Option (List Char)
  | [], text => some text
  | _ :: _, [] => none
  | s :: start, c :: text => if s == c then dropStart? start text else none

theorem dropStart?_eq_some_iff {start text rest : List Char} :
    dropStart? start text = some rest ↔ text = start ++ rest := by
  induction start generalizing text with
  | nil => simp [dropStart?]
  | cons s start ih =>
    cases text with
    | nil => simp [dropStart?]
    | cons c text =>
      by_cases h : s = c
      · simp [dropStart?, h, ih]
      · simp [dropStart?, h, Ne.symm h]

theorem length_lt_of_dropStart? {start text rest : List Char} (hs : start ≠ [])
    (h : dropStart? start text = some rest) : rest.length < text.length := by
  have hl := List.length_pos_iff.mpr hs
  rw [dropStart?_eq_some_iff.mp h, List.length_append]
  omega

/-- The text with every occurrence of `pattern` replaced, found from left to right. The empty
pattern occurs nowhere. -/
def replace (pattern replacement : List Char) : List Char → List Char
  | [] => []
  | c :: rest =>
    if hp : pattern = [] then c :: rest
    else match h : dropStart? pattern (c :: rest) with
      | some after =>
        have := length_lt_of_dropStart? hp h
        replacement ++ replace pattern replacement after
      | none => c :: replace pattern replacement rest
termination_by text => text.length
decreasing_by
  · exact this
  · exact Nat.lt_succ_self _

variable (p : Char → Bool) (separator : Char)

@[simp]
theorem splitWhere_nil : splitWhere p [] = [[]] := rfl

theorem splitWhere_ne_nil (text : List Char) : splitWhere p text ≠ [] := by
  cases text with
  | nil => simp
  | cons c rest =>
    simp only [splitWhere, List.foldr_cons]
    split
    · simp
    · split <;> simp

theorem splitWhere_cons_of_pos {c : Char} (rest : List Char) (h : p c = true) :
    splitWhere p (c :: rest) = [] :: splitWhere p rest := by
  simp [splitWhere, h]

theorem splitWhere_cons_of_neg {c : Char} {rest piece : List Char} {others : List (List Char)}
    (h : p c = false) (hr : splitWhere p rest = piece :: others) :
    splitWhere p (c :: rest) = (c :: piece) :: others := by
  unfold splitWhere at *
  simp [h, hr]

theorem intercalate_splitOn (text : List Char) :
    [separator].intercalate (splitOn separator text) = text := by
  induction text with
  | nil => simp [splitOn, List.intercalate]
  | cons c rest ih =>
    obtain ⟨piece, others, hr⟩ := List.exists_cons_of_ne_nil (splitWhere_ne_nil (· == separator) rest)
    unfold splitOn at *
    by_cases h : c = separator
    · rw [splitWhere_cons_of_pos _ _ (by simpa using h)]
      rw [hr] at ih ⊢
      simp_all [List.intercalate]
    · rw [splitWhere_cons_of_neg _ (by simpa using h) hr]
      rw [hr] at ih
      cases others <;> simp_all [List.intercalate]

end RegistryAuth.Text
