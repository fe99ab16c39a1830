import RegistryAuth.Proofs.Json.Record
import RegistryAuth.Proofs.Json.RoundTrip
import RegistryAuth.Token.Claims

/-! # How claims are written

The claims of a refresh token are read from an object that has each of their
members once, the times as integers of 64 bits and the others as texts. Claims
with such times are read back from their own text. The claims of an access token
never read as those of a refresh token, because no member tells their use.
-/

namespace RegistryAuth

/-- A time that a claim can hold. -/
def IsClaimTime (time : Int) : Prop := -(2 ^ 63) ≤ time ∧ time < 2 ^ 63

theorem IsClaimTime.reread {time : Int} (h : IsClaimTime time) (depth : Nat) :
    (Json.int time).reread? depth = some (.int time) :=
  Json.reread?_int h.1 (Int.lt_trans h.2 (by decide))

namespace RefreshClaims

structure WrittenIn (claims : RefreshClaims) (members : List (String × Json)) : Prop where
  issuer : Json.IsOnly members "iss" (.string claims.issuer)
  subject : Json.IsOnly members "sub" (.string claims.subject)
  expires : Json.IsOnly members "exp" (.int claims.expires)
  notBefore : Json.IsOnly members "nbf" (.int claims.notBefore)
  issued : Json.IsOnly members "iat" (.int claims.issued)
  id : Json.IsOnly members "jti" (.string claims.id)
  tokenUse : Json.IsOnly members "token_use" (.string claims.tokenUse)
  fits : ∀ time ∈ [claims.expires, claims.notBefore, claims.issued],
    -(2 ^ 63) ≤ time ∧ time < 2 ^ 63

variable {claims : RefreshClaims} {members : List (String × Json)} {json : Json} {now : Int}

open JsonReader RecordReader in
theorem reader_object_eq_ok_iff :
    reader (.object members) = .ok claims ↔ claims.WrittenIn members := by
  simp only [reader, toReader_object_eq_ok_iff, seq_read_eq_ok_iff, map_read_eq_ok_iff,
    required_text_read_members_eq_ok_iff, required_int64_read_members_eq_ok_iff]
  constructor
  · rintro ⟨_, tokenUse, ⟨_, id, ⟨_, issued, ⟨_, notBefore, ⟨_, expires, ⟨_, subject,
      ⟨issuer, hi, rfl⟩, hs, rfl⟩, he, rfl⟩, hn, rfl⟩, ha, rfl⟩, hj, rfl⟩, hu, rfl⟩
    refine ⟨hi, hs, he.1, hn.1, ha.1, hj, hu, ?_⟩
    simpa using ⟨he.2, hn.2, ha.2⟩
  · intro h
    obtain ⟨he, hn, ha⟩ : _ ∧ _ ∧ _ := by simpa using h.fits
    exact ⟨_, _, ⟨_, _, ⟨_, _, ⟨_, _, ⟨_, _, ⟨_, _, ⟨_, h.issuer, rfl⟩, h.subject, rfl⟩,
      ⟨h.expires, he⟩, rfl⟩, ⟨h.notBefore, hn⟩, rfl⟩, ⟨h.issued, ha⟩, rfl⟩, h.id, rfl⟩,
      h.tokenUse, rfl⟩

theorem ofJson?_eq_some_iff :
    ofJson? json = some claims ↔
      ∃ members, json = .object members ∧ claims.WrittenIn members ∧
        (members.filter fun (name, _) => name == "aud").length ≤ 1 := by
  cases json with
  | object members =>
    simp only [ofJson?, Json.object.injEq]
    constructor
    · intro h
      split at h
      next ha =>
        refine ⟨members, rfl, reader_object_eq_ok_iff.mp ?_, ha⟩
        cases hr : reader (.object members) <;> rw [hr] at h <;> cases h
        rfl
      next => cases h
    · rintro ⟨_, rfl, hw, ha⟩
      rw [if_pos ha, reader_object_eq_ok_iff.mpr hw]
      rfl
  | _ => simp [ofJson?]

theorem holdAt_iff :
    claims.holdAt now = true ↔
      0 ≤ claims.expires ∧ now ≤ claims.expires ∧ claims.notBefore ≤ now := by
  simp [holdAt, and_assoc]

theorem isPlain_toJson (claims : RefreshClaims) (depth : Nat) :
    claims.toJson.IsPlain (depth + 1) := by
  simp [toJson, Json.IsPlain]

theorem reread?_toJson (he : IsClaimTime claims.expires) (hn : IsClaimTime claims.notBefore)
    (hi : IsClaimTime claims.issued) (depth : Nat) :
    claims.toJson.reread? (depth + 1) = some claims.toJson := by
  apply Json.reread?_object
  simp only [List.forall_mem_cons]
  exact ⟨Json.reread?_string _, Json.reread?_string _, he.reread _, hn.reread _, hi.reread _,
    Json.reread?_string _, Json.reread?_string _, nofun⟩

theorem ofJson?_toJson (he : IsClaimTime claims.expires) (hn : IsClaimTime claims.notBefore)
    (hi : IsClaimTime claims.issued) : ofJson? claims.toJson = some claims :=
  ofJson?_eq_some_iff.mpr ⟨_, rfl,
    ⟨rfl, rfl, rfl, rfl, rfl, rfl, rfl, by simpa using ⟨he, hn, hi⟩⟩, Nat.zero_le _⟩

end RefreshClaims

namespace Scope

theorem isPlain_toJson (scope : Scope) (depth : Nat) : scope.toJson.IsPlain (depth + 2) := by
  simp [toJson, Json.ofStrings, Json.IsPlain]

theorem reread?_toJson (scope : Scope) (depth : Nat) :
    scope.toJson.reread? (depth + 2) = some scope.toJson := by
  apply Json.reread?_object
  simp only [List.forall_mem_cons]
  refine ⟨Json.reread?_string _, Json.reread?_string _, Json.reread?_array ?_, nofun⟩
  simp [Json.reread?_string]

end Scope

namespace AccessClaims

variable {claims : AccessClaims}

theorem isPlain_toJson (claims : AccessClaims) (depth : Nat) :
    claims.toJson.IsPlain (depth + 4) := by
  cases ha : claims.audience <;> simp [toJson, ha, Json.IsPlain, Scope.isPlain_toJson]

theorem reread?_toJson (he : IsClaimTime claims.expires) (hn : IsClaimTime claims.notBefore)
    (hi : IsClaimTime claims.issued) (depth : Nat) :
    claims.toJson.reread? (depth + 4) = some claims.toJson := by
  apply Json.reread?_object
  have hs : (Json.array (claims.access.map Scope.toJson)).reread? (depth + 3) =
      some (.array (claims.access.map Scope.toJson)) := by
    apply Json.reread?_array
    simp [Scope.reread?_toJson]
  cases claims.audience <;>
    simp [Json.reread?_string, he.reread, hn.reread, hi.reread, hs]

/-- No member of access claims tells a use. -/
theorem tokenUse_not_mem (claims : AccessClaims) :
    ∃ members, claims.toJson = .object members ∧ "token_use" ∉ members.map Prod.fst := by
  refine ⟨_, rfl, ?_⟩
  cases claims.audience <;> simp

theorem ofJson?_reread {json : Json} {depth : Nat}
    (h : claims.toJson.reread? (depth + 1) = some json) : RefreshClaims.ofJson? json = none := by
  obtain ⟨members, hm, hu⟩ := claims.tokenUse_not_mem
  rw [hm] at h
  -- Times may come back as other numbers, but the names of the members stay.
  obtain ⟨others, rfl, hn⟩ := Json.reread?_object_eq_some h
  rw [← hn] at hu
  cases hc : RefreshClaims.ofJson? (.object others) with
  | none => rfl
  | some refresh =>
    obtain ⟨_, ho, hw, -⟩ := RefreshClaims.ofJson?_eq_some_iff.mp hc
    cases ho
    exact absurd (List.mem_map_of_mem hw.tokenUse.mem) hu

end AccessClaims

end RegistryAuth
