import RegistryAuth.Codec.Base64

/-! # Base64 texts are canonical

A text is read as bytes just if it is the one that these bytes are written as.
Each digit is read as the number that it shows, regrouping keeps the bits of the
numbers, and the padding is decided by the number of digits.
-/

namespace RegistryAuth.Base64

variable {alphabet : Alphabet} {padded : Bool} {c first last : Char} {n : Nat}
  {text : List Char} {bytes : Bytes} {values : List Nat}

private theorem between_iff :
    (first ≤ c && c ≤ last) = true ↔ first.toNat ≤ c.toNat ∧ c.toNat ≤ last.toNat := by
  rw [Bool.and_eq_true, decide_eq_true_eq, decide_eq_true_eq]
  exact .rfl

private theorem ofNat_sub (h : first.toNat ≤ c.toNat) :
    Char.ofNat (first.toNat + (c.toNat - first.toNat)) = c := by
  rw [Nat.add_sub_cancel' h, Char.ofNat_toNat]

theorem value?_eq_some (h : value? alphabet c = some n) : n < 64 ∧ digit alphabet n = c := by
  have hZ : 'Z'.toNat = 'A'.toNat + 25 := rfl
  have hz : 'z'.toNat = 'a'.toNat + 25 := rfl
  have h9 : '9'.toNat = '0'.toNat + 9 := rfl
  unfold value? at h
  split at h
  next hc =>
    obtain ⟨ha, hb⟩ := between_iff.mp hc
    cases h
    refine ⟨by omega, ?_⟩
    rw [digit, if_pos (by omega), ofNat_sub ha]
  split at h
  next hc =>
    obtain ⟨ha, hb⟩ := between_iff.mp hc
    cases h
    refine ⟨by omega, ?_⟩
    rw [digit, if_neg (by omega), if_pos (by omega), Nat.add_sub_cancel, ofNat_sub ha]
  split at h
  next hc =>
    obtain ⟨ha, hb⟩ := between_iff.mp hc
    cases h
    refine ⟨by omega, ?_⟩
    rw [digit, if_neg (by omega), if_neg (by omega), if_pos (by omega), Nat.add_sub_cancel,
      ofNat_sub ha]
  split at h
  next hc =>
    cases h
    exact ⟨by omega, hc.symm⟩
  split at h
  next hc =>
    cases h
    exact ⟨by omega, hc.symm⟩
  cases h

theorem mapM_value?_eq_some (h : text.mapM (value? alphabet) = some values) :
    (∀ n ∈ values, n < 64) ∧ text = values.map (digit alphabet) := by
  induction text generalizing values with
  | nil =>
    cases h
    exact ⟨nofun, rfl⟩
  | cons c rest ih =>
    simp only [List.mapM_cons, Option.bind_eq_bind, Option.bind_eq_some_iff] at h
    obtain ⟨n, hn, others, ho, h⟩ := h
    cases h
    obtain ⟨hl, rfl⟩ := ih ho
    obtain ⟨hlt, hd⟩ := value?_eq_some hn
    exact ⟨List.forall_mem_cons.mpr ⟨hlt, hl⟩, by rw [List.map_cons, hd]⟩

section Regroup

variable {p q r s : Nat} (hp : p < 64) (hq : q < 64) (hr : r < 64) (hs : s < 64)

include hp hq in
private theorem toNat_first : (UInt8.ofNat (p * 4 + q / 16)).toNat = p * 4 + q / 16 :=
  UInt8.toNat_ofNat_of_lt' (by simp only [UInt8.size]; omega)

include hr in
private theorem toNat_second : (UInt8.ofNat (q % 16 * 16 + r / 4)).toNat = q % 16 * 16 + r / 4 :=
  UInt8.toNat_ofNat_of_lt' (by simp only [UInt8.size]; omega)

include hs in
private theorem toNat_third : (UInt8.ofNat (r % 4 * 64 + s)).toNat = r % 4 * 64 + s :=
  UInt8.toNat_ofNat_of_lt' (by simp only [UInt8.size]; omega)

include hp hq in
private theorem encode_one (h : q % 16 = 0) :
    encode alphabet false [UInt8.ofNat (p * 4 + q / 16)] = [p, q].map (digit alphabet) := by
  have h1 : (p * 4 + q / 16) / 4 = p := by omega
  have h2 : (p * 4 + q / 16) % 4 * 16 = q := by omega
  simp only [encode, toNat_first hp hq, h1, h2]
  rfl

include hp hq hr in
private theorem encode_two (h : r % 4 = 0) :
    encode alphabet false [UInt8.ofNat (p * 4 + q / 16), UInt8.ofNat (q % 16 * 16 + r / 4)] =
      [p, q, r].map (digit alphabet) := by
  have h1 : (p * 4 + q / 16) / 4 = p := by omega
  have h2 : (p * 4 + q / 16) % 4 * 16 + (q % 16 * 16 + r / 4) / 16 = q := by omega
  have h3 : (q % 16 * 16 + r / 4) % 16 * 4 = r := by omega
  simp only [encode, toNat_first hp hq, toNat_second hr, h1, h2, h3]
  rfl

include hp hq hr hs in
private theorem encode_three (rest : Bytes) :
    encode alphabet false (UInt8.ofNat (p * 4 + q / 16) :: UInt8.ofNat (q % 16 * 16 + r / 4) ::
      UInt8.ofNat (r % 4 * 64 + s) :: rest) =
      [p, q, r, s].map (digit alphabet) ++ encode alphabet false rest := by
  have h1 : (p * 4 + q / 16) / 4 = p := by omega
  have h2 : (p * 4 + q / 16) % 4 * 16 + (q % 16 * 16 + r / 4) / 16 = q := by omega
  have h3 : (q % 16 * 16 + r / 4) % 16 * 4 + (r % 4 * 64 + s) / 64 = r := by omega
  have h4 : (r % 4 * 64 + s) % 64 = s := by omega
  simp only [encode, toNat_first hp hq, toNat_second hr, toNat_third hs, h1, h2, h3, h4]
  rfl

end Regroup

variable (alphabet) in
/-- The bytes read from digits are written with these digits. -/
theorem regroup_eq_some {done : Bytes} (h : regroup done values = some bytes)
    (hv : ∀ n ∈ values, n < 64) :
    ∃ rest, bytes = done.reverse ++ rest ∧
      encode alphabet false rest = values.map (digit alphabet) := by
  induction done, values using regroup.induct with
  | case1 done =>
    cases h
    exact ⟨[], by simp, rfl⟩
  | case2 => cases h
  | case3 done p q hq =>
    rw [regroup, if_pos hq] at h
    cases h
    simp only [List.forall_mem_cons] at hv
    exact ⟨_, List.reverse_cons .., encode_one hv.1 hv.2.1 hq⟩
  | case4 done p q hq =>
    rw [regroup, if_neg hq] at h
    cases h
  | case5 done p q r hr =>
    rw [regroup, if_pos hr] at h
    cases h
    simp only [List.forall_mem_cons] at hv
    exact ⟨_, by simp, encode_two hv.1 hv.2.1 hv.2.2.1 hr⟩
  | case6 done p q r hr =>
    rw [regroup, if_neg hr] at h
    cases h
  | case7 done p q r s rest ih =>
    rw [regroup] at h
    simp only [List.forall_mem_cons] at hv
    obtain ⟨hp, hq, hr, hs, hv⟩ := hv
    obtain ⟨more, rfl, he⟩ := ih h hv
    refine ⟨_, by simp, (encode_three hp hq hr hs more).trans ?_⟩
    rw [he, ← List.map_append]
    rfl

/-- Padding fills the digits up to a multiple of four. -/
theorem encode_eq_append_padding (bytes : Bytes) :
    encode alphabet padded bytes = encode alphabet false bytes ++
      padding padded ((4 - (encode alphabet false bytes).length % 4) % 4) := by
  induction bytes using encode.induct with
  | case1 => simp [encode, padding]
  | case2 => cases padded <;> rfl
  | case3 => cases padded <;> rfl
  | case4 a b c rest ih =>
    have hl : (encode alphabet false (a :: b :: c :: rest)).length % 4 =
        (encode alphabet false rest).length % 4 := by
      simp only [encode, List.length_cons]
      omega
    rw [hl]
    simp only [encode, List.cons_append, ih]

theorem withoutPadding_eq_some {digits : List Char} (h : withoutPadding padded text = some digits) :
    text = digits ++ padding padded ((4 - digits.length % 4) % 4) := by
  unfold withoutPadding at h
  cases padded with
  | false =>
    cases h
    exact (List.append_nil _).symm
  | true =>
    simp only [if_true] at h
    split at h
    next ht =>
      cases h
      exact ht
    next => cases h

theorem eq_encode_of_decode? (h : decode? alphabet padded text = some bytes) :
    text = encode alphabet padded bytes := by
  simp only [decode?, Option.bind_eq_bind, Option.bind_eq_some_iff] at h
  obtain ⟨digits, hd, values, hm, hr⟩ := h
  obtain ⟨hv, rfl⟩ := mapM_value?_eq_some hm
  obtain ⟨rest, rfl, he⟩ := regroup_eq_some alphabet hr hv
  rw [encode_eq_append_padding, he]
  exact withoutPadding_eq_some hd

/-- Each digit of the alphabet stands for one number, and none of them is the padding. -/
structure Alphabet.IsProper (alphabet : Alphabet) : Prop where
  value?_digit : ∀ n < 64, value? alphabet (digit alphabet n) = some n
  value?_padding : value? alphabet '=' = none

theorem urlSafe_isProper : urlSafe.IsProper := ⟨by decide, by decide⟩

theorem standard_isProper : standard.IsProper := ⟨by decide, by decide⟩

theorem mapM_value?_map_digit (ha : alphabet.IsProper) (hv : ∀ n ∈ values, n < 64) :
    (values.map (digit alphabet)).mapM (value? alphabet) = some values := by
  induction values with
  | nil => rfl
  | cons n rest ih =>
    obtain ⟨hn, hr⟩ := List.forall_mem_cons.mp hv
    simp [List.mapM_cons, ha.value?_digit n hn, ih hr]

private theorem ofNat_eq {n : Nat} {a : UInt8} (h : n = a.toNat) : UInt8.ofNat n = a := by
  rw [h, UInt8.ofNat_toNat]

variable (alphabet) in
/-- The digits with which bytes are written give the bytes back. -/
theorem exists_regroup (bytes done : Bytes) :
    ∃ values, encode alphabet false bytes = values.map (digit alphabet) ∧
      (∀ n ∈ values, n < 64) ∧ regroup done values = some (done.reverse ++ bytes) := by
  induction bytes using encode.induct generalizing done with
  | case1 => exact ⟨[], rfl, nofun, by simp [regroup]⟩
  | case2 a =>
    have ha := a.toNat_lt
    have h1 : UInt8.ofNat (a.toNat / 4 * 4 + a.toNat % 4 * 16 / 16) = a := ofNat_eq (by omega)
    refine ⟨[a.toNat / 4, a.toNat % 4 * 16], rfl, by simp; omega, ?_⟩
    rw [regroup, if_pos (by omega), h1, List.reverse_cons]
  | case3 a b =>
    have ha := a.toNat_lt
    have hb := b.toNat_lt
    have h1 : UInt8.ofNat (a.toNat / 4 * 4 + (a.toNat % 4 * 16 + b.toNat / 16) / 16) = a :=
      ofNat_eq (by omega)
    have h2 : UInt8.ofNat ((a.toNat % 4 * 16 + b.toNat / 16) % 16 * 16 + b.toNat % 16 * 4 / 4) =
        b := ofNat_eq (by omega)
    refine ⟨[a.toNat / 4, a.toNat % 4 * 16 + b.toNat / 16, b.toNat % 16 * 4], rfl,
      by simp; omega, ?_⟩
    rw [regroup, if_pos (by omega), h1, h2]
    simp
  | case4 a b c rest ih =>
    have ha := a.toNat_lt
    have hb := b.toNat_lt
    have hc := c.toNat_lt
    have h1 : UInt8.ofNat (a.toNat / 4 * 4 + (a.toNat % 4 * 16 + b.toNat / 16) / 16) = a :=
      ofNat_eq (by omega)
    have h2 : UInt8.ofNat ((a.toNat % 4 * 16 + b.toNat / 16) % 16 * 16 +
        (b.toNat % 16 * 4 + c.toNat / 64) / 4) = b := ofNat_eq (by omega)
    have h3 : UInt8.ofNat ((b.toNat % 16 * 4 + c.toNat / 64) % 4 * 64 + c.toNat % 64) = c :=
      ofNat_eq (by omega)
    obtain ⟨values, he, hv, hr⟩ := ih (c :: b :: a :: done)
    refine ⟨a.toNat / 4 :: (a.toNat % 4 * 16 + b.toNat / 16) ::
      (b.toNat % 16 * 4 + c.toNat / 64) :: c.toNat % 64 :: values, ?_, ?_, ?_⟩
    · simp only [encode, he, List.map_cons]
    · simp only [List.forall_mem_cons]
      exact ⟨by omega, by omega, by omega, by omega, hv⟩
    · rw [regroup, h1, h2, h3, hr]
      simp

theorem length_encode (alphabet : Alphabet) (bytes : Bytes) :
    (encode alphabet false bytes).length = (4 * bytes.length + 2) / 3 := by
  induction bytes using encode.induct with
  | case1 => rfl
  | case2 a => simp [encode, padding]
  | case3 a b => simp [encode, padding]
  | case4 a b c rest ih =>
    simp only [encode, List.length_cons, ih]
    omega

theorem mem_encode {bytes : Bytes} (hc : c ∈ encode alphabet false bytes) :
    ∃ n < 64, digit alphabet n = c := by
  obtain ⟨values, he, hv, -⟩ := exists_regroup alphabet bytes []
  obtain ⟨n, hn, hd⟩ := List.mem_map.mp (he ▸ hc)
  exact ⟨n, hv n hn, hd⟩

/-- Only digits of the alphabet are written. -/
theorem not_mem_encode (ha : alphabet.IsProper) (hc : value? alphabet c = none) :
    c ∉ encode alphabet false bytes := by
  intro hm
  obtain ⟨n, hn, rfl⟩ := mem_encode hm
  rw [ha.value?_digit n hn] at hc
  cases hc

theorem withoutPadding_encode (ha : alphabet.IsProper) (bytes : Bytes) :
    withoutPadding padded (encode alphabet padded bytes) = some (encode alphabet false bytes) := by
  rw [encode_eq_append_padding]
  cases padded with
  | false => simp [withoutPadding, padding]
  | true =>
    have hd : (encode alphabet false bytes ++
        padding true ((4 - (encode alphabet false bytes).length % 4) % 4)).takeWhile (· != '=') =
        encode alphabet false bytes := by
      rw [List.takeWhile_append_of_pos]
      · simp [padding]
      · intro c hm
        rw [bne_iff_ne]
        rintro rfl
        exact not_mem_encode ha ha.value?_padding hm
    simp only [withoutPadding, if_true]
    rw [hd]
    exact if_pos rfl

theorem decode?_eq_some_iff (ha : alphabet.IsProper) :
    decode? alphabet padded text = some bytes ↔ text = encode alphabet padded bytes := by
  refine ⟨eq_encode_of_decode?, ?_⟩
  rintro rfl
  obtain ⟨values, he, hv, hr⟩ := exists_regroup alphabet bytes []
  simp only [decode?, withoutPadding_encode ha, he, Option.bind_eq_bind, Option.bind_some,
    mapM_value?_map_digit ha hv, hr]
  rfl

theorem mem_encode_padded (hc : c ∈ encode alphabet padded bytes) :
    c = '=' ∨ ∃ n < 64, digit alphabet n = c := by
  rw [encode_eq_append_padding, List.mem_append] at hc
  rcases hc with hc | hc
  · exact .inr (mem_encode hc)
  · cases padded with
    | false => cases hc
    | true => exact .inl (List.eq_of_mem_replicate hc)

/-- An encoding is made of visible characters, without blanks. -/
theorem isVisible_of_mem_encode (hc : c ∈ encode standard padded bytes) :
    0x20 < c.toNat ∧ c.toNat < 0x7f := by
  have hd : ∀ n < 64, 0x20 < (digit standard n).toNat ∧ (digit standard n).toNat < 0x7f := by
    decide
  rcases mem_encode_padded hc with rfl | ⟨n, hn, rfl⟩
  · decide
  · exact hd n hn

end RegistryAuth.Base64
