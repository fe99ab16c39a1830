import Mathlib.Algebra.Group.Int.Defs
import RegistryAuth.Json.Parser
import RegistryAuth.Json.Printer

/-! # Strings and integers as they are written

The characters that a string is written with are read back one by one, an
escaped character like one that stands for itself. An integer is written with
its decimal digits, which are taken as a whole where no digit follows.
-/

namespace RegistryAuth.Json

variable {c : Char} {rest : List Char} {n : Nat}

section Strings

/-- A character is escaped by a letter or by its code, or it stands for itself. -/
theorem escapedChar_cases (c : Char) :
    (∃ e, escapedChar c = ['\\', e] ∧ e ≠ 'u' ∧ simpleEscape? e = some c) ∨
      (escapedChar c = controlEscape c.toNat ∧ c.toNat < 0x20) ∨
        (escapedChar c = [c] ∧ c ≠ '"' ∧ c ≠ '\\' ∧ ¬ c.toNat < 0x20) := by
  by_cases hs : c ∈ ['"', '\\', '\n', '\r', '\t', '\x08', '\x0c']
  · simp only [List.mem_cons, List.not_mem_nil, or_false] at hs
    rcases hs with rfl | rfl | rfl | rfl | rfl | rfl | rfl <;>
      exact .inl ⟨_, rfl, by decide, rfl⟩
  · simp only [List.mem_cons, List.not_mem_nil, or_false, not_or] at hs
    obtain ⟨hq, hb, hn, hr, ht, h8, hf⟩ := hs
    simp only [escapedChar, hq, hb, hn, hr, ht, h8, hf, if_false]
    by_cases hl : c.toNat < 0x20
    · exact .inr (.inl ⟨if_pos hl, hl⟩)
    · exact .inr (.inr ⟨if_neg hl, hq, hb, hl⟩)

theorem hexUnit?_control : ∀ n < 0x20,
    hexUnit? '0' '0' (Text.hexDigit (n / 16)) (Text.hexDigit (n % 16)) = some n := by
  decide

theorem readString_escapedChar (c : Char) (done rest : List Char) :
    readString done (escapedChar c ++ rest) = readString (c :: done) rest := by
  rcases escapedChar_cases c with ⟨e, he, hu, hs⟩ | ⟨he, hl⟩ | ⟨he, hq, hb, hl⟩ <;> rw [he]
  · rw [List.cons_append, List.cons_append, List.nil_append, readString]
    · simp only [hs]
    · simp [hu]
  · simp only [controlEscape, List.cons_append, List.nil_append]
    rw [readString, hexUnit?_control _ hl]
    simp only
    rw [if_neg (by simp; omega), if_neg (by simp; omega), Char.ofNat_toNat]
  · rw [List.cons_append, List.nil_append, readString]
    · simp [hb, hl]
    · simp [hq]
    · simp [hb]
    · simp [hb]

theorem readString_stringText (text done rest : List Char) :
    readString done (text.flatMap escapedChar ++ '"' :: rest) =
      some (done.reverse ++ text, rest) := by
  induction text generalizing done with
  | nil => simp [readString]
  | cons c text ih =>
    rw [List.flatMap_cons, List.append_assoc, readString_escapedChar, ih]
    simp

end Strings

section Integers

/-- What may follow a value in a text. -/
inductive EndsValue : List Char → Prop where
  | atEnd : EndsValue []
  | atComma (rest : List Char) : EndsValue (',' :: rest)
  | atBracket (rest : List Char) : EndsValue (']' :: rest)
  | atBrace (rest : List Char) : EndsValue ('\x7d' :: rest)

theorem text_int (n : Int) :
    text (.int n) = (if n < 0 then ['-'] else []) ++ Nat.toDigits 10 n.natAbs := by
  have ht : text (.int n) = (Int.repr n).toList := by
    simp only [text]
    rfl
  rw [ht, Int.repr_eq_if]
  by_cases hn : n < 0
  · have ha : (-n).toNat = n.natAbs := by omega
    rw [if_pos hn, if_neg (by omega), ha, Nat.repr_eq_ofList_toDigits]
    simp
  · have ha : n.toNat = n.natAbs := by omega
    rw [if_neg hn, if_pos (by omega), ha, Nat.repr_eq_ofList_toDigits]
    simp

theorem isDigit_of_mem_toDigits (h : c ∈ Nat.toDigits 10 n) : Decimal.isDigit c = true := by
  have hd := Nat.isDigit_of_mem_toDigits (by decide) (by decide) h
  simpa [Char.isDigit, Decimal.isDigit, Char.le_def] using hd

theorem toDigits_eq_cons (n : Nat) :
    ∃ c more, Nat.toDigits 10 n = c :: more ∧ Decimal.isDigit c = true := by
  cases h : Nat.toDigits 10 n with
  | nil => exact absurd h Nat.toDigits_ne_nil
  | cons c more => exact ⟨c, more, rfl, isDigit_of_mem_toDigits (h ▸ List.mem_cons_self)⟩

theorem value_toDigits (n : Nat) : Decimal.value (Nat.toDigits 10 n) = n := by
  have h := @Nat.ofDigitChars_ten_toDigits n
  rwa [Nat.ofDigitChars_eq_foldl] at h

theorem head?_toDigits_ne (h : 0 < n) : (Nat.toDigits 10 n).head? ≠ some '0' := by
  induction n using Nat.strongRecOn with
  | ind n ih =>
    rw [Nat.toDigits_eq_if (by decide)]
    split
    next hn =>
      rw [List.head?_cons, ne_eq, Option.some.injEq, Nat.digitChar_eq_zero]
      omega
    next hn =>
      have ih := ih (n / 10) (by omega) (by omega)
      cases hd : Nat.toDigits 10 (n / 10) with
      | nil => exact absurd hd Nat.toDigits_ne_nil
      | cons c digits => rwa [hd] at ih

/-- Digits are written without leading zeros. -/
theorem toDigits_canonical (n : Nat) :
    ((Nat.toDigits 10 n).isEmpty || ((Nat.toDigits 10 n).length > 1 &&
      (Nat.toDigits 10 n).head? = some '0')) = false := by
  cases n with
  | zero => rfl
  | succ n => simp [Nat.toDigits_ne_nil, head?_toDigits_ne (Nat.succ_pos n)]

theorem takeWhile_toDigits (h : EndsValue rest) :
    (Nat.toDigits 10 n ++ rest).takeWhile Decimal.isDigit = Nat.toDigits 10 n := by
  rw [List.takeWhile_append_of_pos fun c hc => isDigit_of_mem_toDigits hc]
  cases h <;> exact List.append_nil _

theorem dropWhile_toDigits (h : EndsValue rest) :
    (Nat.toDigits 10 n ++ rest).dropWhile Decimal.isDigit = rest := by
  rw [List.dropWhile_append_of_pos fun c hc => isDigit_of_mem_toDigits hc]
  cases h <;> rfl

theorem readNumber_toDigits (negative : Bool) (n : Nat) (h : EndsValue rest) :
    readNumber negative (Nat.toDigits 10 n ++ rest) =
      (intOrReal negative (Nat.toDigits 10 n)).map (·, rest) := by
  simp only [readNumber, takeWhile_toDigits h, dropWhile_toDigits h, toDigits_canonical]
  cases h <;> cases intOrReal negative (Nat.toDigits 10 n) <;> rfl

/-- Integers of 64 bits, with a sign or without, are read as they are written. -/
theorem intOrReal_toDigits {n : Int} (hl : -(2 ^ 63) ≤ n) (hu : n < 2 ^ 64) :
    intOrReal (n < 0) (Nat.toDigits 10 n.natAbs) = some (.int n) := by
  unfold intOrReal
  rw [value_toDigits]
  by_cases hn : n < 0
  · have ha : -(n.natAbs : Int) = n := by omega
    simp only [hn, decide_true, if_true]
    rw [if_neg (by omega), if_pos (by omega), ha]
  · have ha : (n.natAbs : Int) = n := by omega
    simp only [hn, decide_false]
    have hs : n.natAbs < UInt64.size := by
      unfold UInt64.size
      omega
    rw [if_neg (by decide), if_pos hs, ha]

end Integers

end RegistryAuth.Json
