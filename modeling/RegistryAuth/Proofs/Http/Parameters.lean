import Mathlib.Data.List.Induction
import RegistryAuth.Http.TokenEndpoint

/-! # Parameters by name

What is read from a query or from a form depends only on the values that stand
under each name. In a query all scopes count and of the other values the last
one does; in a form no field may stand twice.
-/

namespace RegistryAuth

/-- The values that stand under a name, in order. -/
def Form.values (pairs : List (String × String)) (name : String) : List String :=
  (pairs.filter fun pair => pair.1 == name).map Prod.snd

namespace Form

variable {pairs more : List (String × String)} {key value name : String}

@[simp]
theorem values_nil : values [] name = [] := rfl

theorem values_cons :
    values ((key, value) :: pairs) name =
      if key = name then value :: values pairs name else values pairs name := by
  by_cases h : key = name <;> simp [values, h]

theorem values_append :
    values (pairs ++ more) name = values pairs name ++ values more name := by
  simp [values]

theorem lookup_eq_head? : pairs.lookup name = (values pairs name).head? := by
  induction pairs with
  | nil => rfl
  | cons pair rest ih =>
    obtain ⟨key, value⟩ := pair
    rw [values_cons, List.lookup_cons]
    by_cases h : key = name
    · simp [h]
    · rw [beq_false_of_ne (Ne.symm h), if_neg h]
      exact ih

end Form

namespace Http

open Form (values)

variable {pairs : List (String × String)} {seen : List String}

theorem QueryParameters.ofPairs_eq (pairs : List (String × String)) :
    ofPairs pairs = {
      service := (values pairs "service").getLast?.bind nonEmpty?
      scopes := values pairs "scope"
      offlineToken := (values pairs "offline_token").getLast?.any isTrue } := by
  induction pairs using List.reverseRecOn with
  | nil => rfl
  | append_singleton pairs pair ih =>
    obtain ⟨name, value⟩ := pair
    have hi : ofPairs (pairs ++ [(name, value)]) = insert (ofPairs pairs) (name, value) := by
      simp [ofPairs]
    rw [hi, ih, insert]
    simp only [Form.values_append, Form.values_cons]
    by_cases hs : name = "scope"
    · simp [hs]
    by_cases hv : name = "service"
    · simp [hv]
    by_cases ho : name = "offline_token"
    · simp [ho]
    · simp [hs, hv, ho]

namespace TokenForm

/-- A name that was seen before counts as one value more. -/
theorem duplicate?_eq_none_iff :
    duplicate? seen pairs = none ↔ ∀ name ∈ fieldNames,
      (values pairs name).length + (if name ∈ seen then 1 else 0) ≤ 1 := by
  induction pairs generalizing seen with
  | nil =>
    simp only [duplicate?, true_iff]
    intro name _
    split <;> simp [values]
  | cons pair rest ih =>
    obtain ⟨key, value⟩ := pair
    rw [duplicate?]
    by_cases hf : key ∈ fieldNames
    · by_cases hs : key ∈ seen
      · rw [if_neg (by simpa using hf), if_pos (by simpa using hs)]
        refine ⟨nofun, fun h => ?_⟩
        have hk := h key hf
        simp [Form.values_cons, hs] at hk
      · rw [if_neg (by simpa using hf), if_neg (by simpa using hs), ih]
        refine forall₂_congr fun name _ => ?_
        rw [Form.values_cons]
        grind
    · rw [if_pos (by simpa using hf), ih]
      refine forall₂_congr fun name hn => ?_
      rw [Form.values_cons, if_neg fun he : key = name => hf (he ▸ hn)]

theorem ofPairs_eq_ok_iff {form : TokenForm} :
    ofPairs pairs = .ok form ↔
      (∀ name ∈ fieldNames, (values pairs name).length ≤ 1) ∧ form = {
        grantType := (values pairs "grant_type").head?
        username := (values pairs "username").head?
        password := (values pairs "password").head?
        refreshToken := (values pairs "refresh_token").head?
        scope := (values pairs "scope").head?
        service := (values pairs "service").head? } := by
  have hd : duplicate? [] pairs = none ↔
      ∀ name ∈ fieldNames, (values pairs name).length ≤ 1 := by
    rw [duplicate?_eq_none_iff]
    simp
  rw [← hd, ofPairs]
  cases duplicate? [] pairs with
  | none => simp [Form.lookup_eq_head?, eq_comm]
  | some name => simp

end TokenForm

end Http

end RegistryAuth
