import RegistryAuth.Proofs.Text.Split

/-! # Replaced texts

An occurrence at the beginning gives way to the replacement, which is not searched
again. A character that begins no occurrence stays.
-/

namespace RegistryAuth.Text

variable {pattern replacement rest : List Char} {c : Char}

theorem replace_append (hp : pattern ≠ []) :
    replace pattern replacement (pattern ++ rest) =
      replacement ++ replace pattern replacement rest := by
  obtain ⟨p, pattern, rfl⟩ := List.exists_cons_of_ne_nil hp
  have hd : dropStart? (p :: pattern) (p :: (pattern ++ rest)) = some rest :=
    dropStart?_eq_some_iff.mpr rfl
  rw [List.cons_append, replace, dif_neg hp]
  split
  next after h =>
    cases hd.symm.trans h
    rfl
  next h => cases hd.symm.trans h

theorem replace_cons_of_ne {p : Char} (hc : p ≠ c) :
    replace (p :: pattern) replacement (c :: rest) =
      c :: replace (p :: pattern) replacement rest := by
  have hd : dropStart? (p :: pattern) (c :: rest) = none := by simp [dropStart?, hc]
  rw [replace, dif_neg (List.cons_ne_nil _ _)]
  split
  next after h => cases hd.symm.trans h
  next => rfl

end RegistryAuth.Text
