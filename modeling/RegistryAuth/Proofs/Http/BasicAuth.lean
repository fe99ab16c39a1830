import RegistryAuth.Http.BasicAuth
import RegistryAuth.Proofs.Codec.Base64
import RegistryAuth.Proofs.Codec.Bytes
import RegistryAuth.Proofs.Except
import RegistryAuth.Proofs.Text.Words

/-! # Basic credentials as a client sends them

A header is read as a name and a password just if it is the scheme and the
base64 of the two, with nothing but blanks around it. The name is not empty and
holds no colon, so that one header is never the login of two clients.
-/

namespace RegistryAuth.Http

variable {value header : Bytes} {username secret login : String} {text rest encoded : List Char}

/-- The code of a character that a header may hold to be read as a text. -/
def IsVisible (code : Nat) : Prop :=
  0x20 ≤ code ∧ code < 0x7f ∨ code = 9

instance (code : Nat) : Decidable (IsVisible code) :=
  inferInstanceAs (Decidable (0x20 ≤ code ∧ code < 0x7f ∨ code = 9))

theorem IsVisible.lt {code : Nat} (h : IsVisible code) : code < 128 := by
  unfold IsVisible at h
  omega

theorem IsVisible.toNat_ofNat {code : Nat} (h : IsVisible code) :
    (Char.ofNat code).toNat = code := by
  have hv : code.isValidChar := .inl (Nat.lt_trans h.lt (by decide))
  rw [Char.ofNat, dif_pos hv]
  rfl

theorem all_visible_iff :
    (value.all fun b => (32 ≤ b && b < 127) || b == 9) = true ↔ ∀ b ∈ value, IsVisible b.toNat := by
  simp only [List.all_eq_true, IsVisible, Bool.or_eq_true, Bool.and_eq_true, decide_eq_true_eq,
    beq_iff_eq, UInt8.le_iff_toNat_le, UInt8.lt_iff_toNat_lt, ← UInt8.toNat_inj]
  rfl

theorem visibleText?_of_isVisible (h : ∀ b ∈ value, IsVisible b.toNat) :
    visibleText? value = some (value.map fun b => Char.ofNat b.toNat) :=
  if_pos (all_visible_iff.mpr h)

theorem visibleText?_eq_none_iff :
    visibleText? value = none ↔ ∃ b ∈ value, ¬ IsVisible b.toNat := by
  have hn : visibleText? value = none ↔ ¬ ∀ b ∈ value, IsVisible b.toNat := by
    rw [← all_visible_iff, visibleText?]
    split <;> simp [*]
  simp only [hn, not_forall, exists_prop]

theorem isVisible_of_visibleText? (h : visibleText? value = some text) :
    ∀ b ∈ value, IsVisible b.toNat := by
  intro b hb
  by_contra hn
  cases h.symm.trans (visibleText?_eq_none_iff.mpr ⟨b, hb, hn⟩)

theorem visibleText?_eq_some_iff :
    visibleText? value = some text ↔
      (∀ c ∈ text, IsVisible c.toNat) ∧ value = Bytes.ofText (String.ofList text) := by
  constructor
  · intro h
    have hv := isVisible_of_visibleText? h
    cases h.symm.trans (visibleText?_of_isVisible hv)
    have ht : ∀ c ∈ value.map fun b => Char.ofNat b.toNat, IsVisible c.toNat := by
      intro c hc
      obtain ⟨b, hb, rfl⟩ := List.mem_map.mp hc
      rw [(hv b hb).toNat_ofNat]
      exact hv b hb
    refine ⟨ht, ?_⟩
    rw [Bytes.ofText_ofList fun c hc => (ht c hc).lt, List.map_map]
    refine (List.map_id _).symm.trans (List.map_congr_left fun b hb => ?_)
    rw [Function.comp_apply, (hv b hb).toNat_ofNat, UInt8.ofNat_toNat, id]
  · rintro ⟨ht, rfl⟩
    have hb : ∀ c ∈ text, (UInt8.ofNat c.toNat).toNat = c.toNat := fun c hc =>
      UInt8.toNat_ofNat_of_lt' (Nat.lt_trans (ht c hc).lt (by decide))
    rw [Bytes.ofText_ofList fun c hc => (ht c hc).lt, visibleText?_of_isVisible, List.map_map]
    · congr 1
      refine (List.map_congr_left fun c hc => ?_).trans (List.map_id _)
      rw [Function.comp_apply, hb c hc, Char.ofNat_toNat, id]
    · simp only [List.forall_mem_map]
      intro c hc
      rw [hb c hc]
      exact ht c hc

theorem isBlank_iff_of_isVisible {c : Char} (h : IsVisible c.toNat) :
    Text.isBlank c = true ↔ c = ' ' ∨ c = '\t' := by
  have hs : c = ' ' ↔ c.toNat = 0x20 := by
    rw [← Char.toNat_inj]
    rfl
  have ht : c = '\t' ↔ c.toNat = 9 := by
    rw [← Char.toNat_inj]
    rfl
  rw [hs, ht]
  unfold IsVisible at h
  simp [Text.isBlank]
  omega

theorem basicScheme?_eq_some_iff :
    basicScheme? text = some rest ↔
      ∃ scheme ∈ ["Basic ", "basic "], text = scheme.toList ++ rest := by
  simp only [List.mem_cons, List.not_mem_nil, or_false, exists_eq_or_imp, exists_eq_left]
  unfold basicScheme?
  split
  next other h =>
    rw [Text.dropStart?_eq_some_iff] at h
    subst h
    -- The two schemes differ in their first letter.
    simp [eq_comm]
  next h =>
    have hn : ¬ text = "Basic ".toList ++ rest := by
      rw [← Text.dropStart?_eq_some_iff, h]
      exact nofun
    rw [Text.dropStart?_eq_some_iff, or_iff_right hn]

theorem splitLogin_append (hn : username ≠ "") (hc : ':' ∉ username.toList) (secret : String) :
    splitLogin (username ++ ":" ++ secret) = .ok (username, secret) := by
  have ht : (username ++ ":" ++ secret).toList = username.toList ++ ':' :: secret.toList := by
    simp
  have hs := Text.splitFirst?_eq_some_iff.mpr ⟨ht, hc⟩
  simp only [splitLogin, hs, List.isEmpty_iff, String.toList_eq_nil_iff, if_neg hn,
    String.ofList_toList]

theorem splitLogin_eq_ok_iff :
    splitLogin login = .ok (username, secret) ↔
      username ≠ "" ∧ ':' ∉ username.toList ∧ login = username ++ ":" ++ secret := by
  constructor
  · intro h
    unfold splitLogin at h
    split at h
    next => cases h
    next before after hs =>
      split at h
      next => cases h
      next he =>
        cases h
        obtain ⟨ht, hc⟩ := Text.splitFirst?_eq_some_iff.mp hs
        refine ⟨by simpa using he, by rwa [String.toList_ofList], ?_⟩
        rw [← String.toList_inj, ht]
        simp
  · rintro ⟨hn, hc, rfl⟩
    exact splitLogin_append hn hc secret

/-- What a client writes behind the scheme: its name and its password in base64. -/
def writtenLogin (username secret : String) : List Char :=
  Base64.encode Base64.standard true (Bytes.ofText (username ++ ":" ++ secret))

theorem isVisible_of_mem_writtenLogin {c : Char} (h : c ∈ writtenLogin username secret) :
    IsVisible c.toNat :=
  .inl ((Base64.isVisible_of_mem_encode h).imp_left Nat.le_of_lt)

theorem isUnbroken_writtenLogin (username secret : String) :
    Text.IsUnbroken (writtenLogin username secret) := by
  intro c hc
  have hv := Base64.isVisible_of_mem_encode hc
  simp [Text.isBlank]
  omega

theorem decodeLogin_eq_ok_iff :
    decodeLogin encoded = .ok (username, secret) ↔
      username ≠ "" ∧ ':' ∉ username.toList ∧
        Text.trim encoded = writtenLogin username secret := by
  have hd : ∀ login, (Base64.decode? Base64.standard true (Text.trim encoded)).bind
      Bytes.toText? = some login ↔
        Text.trim encoded = Base64.encode Base64.standard true (Bytes.ofText login) := by
    intro login
    simp only [Option.bind_eq_some_iff, Base64.decode?_eq_some_iff Base64.standard_isProper,
      Bytes.toText?_eq_some_iff, exists_eq_right]
  unfold decodeLogin
  split
  next h =>
    refine ⟨nofun, ?_⟩
    rintro ⟨-, -, he⟩
    cases h.symm.trans ((hd _).mpr he)
  next login h =>
    rw [splitLogin_eq_ok_iff, writtenLogin, ← hd, h, Option.some.injEq]

/-- A header value that is the scheme with the written login of a client, maybe between blanks. -/
structure HoldsLogin (header : Bytes) (username secret : String) : Prop where
  username_ne : username ≠ ""
  colon_not_mem : ':' ∉ username.toList
  written : ∃ scheme ∈ ["Basic ", "basic "], ∃ before after : List Char,
    (∀ c ∈ before, c = ' ' ∨ c = '\t') ∧ (∀ c ∈ after, c = ' ' ∨ c = '\t') ∧
    header = Bytes.ofText (String.ofList
      (scheme.toList ++ (before ++ writtenLogin username secret ++ after)))

theorem isVisible_of_mem_scheme {scheme : String} (hs : scheme ∈ ["Basic ", "basic "]) :
    ∀ c ∈ scheme.toList, IsVisible c.toNat := by
  simp only [List.mem_cons, List.not_mem_nil, or_false] at hs
  rcases hs with rfl | rfl <;> simp [IsVisible]

theorem HoldsLogin.basicLogin_eq (h : HoldsLogin header username secret) :
    basicLogin (some header) = .ok (some (username, secret)) := by
  obtain ⟨hn, hc, scheme, hs, before, after, hb, ha, rfl⟩ := h
  have visible : ∀ c : Char, c = ' ' ∨ c = '\t' → IsVisible c.toNat := by
    rintro c (rfl | rfl)
    · exact .inl (by decide)
    · exact .inr rfl
  have blank : ∀ c : Char, c = ' ' ∨ c = '\t' → Text.isBlank c = true := by
    rintro c (rfl | rfl) <;> decide
  have hv : ∀ c ∈ scheme.toList ++ (before ++ writtenLogin username secret ++ after),
      IsVisible c.toNat := by
    simp only [List.forall_mem_append]
    exact ⟨isVisible_of_mem_scheme hs, ⟨fun c hm => visible c (hb c hm),
      fun c hm => isVisible_of_mem_writtenLogin hm⟩, fun c hm => visible c (ha c hm)⟩
  have ht : Text.trim (before ++ writtenLogin username secret ++ after) =
      writtenLogin username secret :=
    Text.trim_append (Text.isTrimmed_of_isUnbroken (isUnbroken_writtenLogin _ _))
      (fun c hm => blank c (hb c hm)) fun c hm => blank c (ha c hm)
  simp only [basicLogin, Option.bind_some, visibleText?_eq_some_iff.mpr ⟨hv, rfl⟩,
    basicScheme?_eq_some_iff.mpr ⟨scheme, hs, rfl⟩, decodeLogin_eq_ok_iff.mpr ⟨hn, hc, ht⟩]
  rfl

theorem HoldsLogin.of_basicLogin (h : basicLogin (some header) = .ok (some (username, secret))) :
    HoldsLogin header username secret := by
  unfold basicLogin at h
  split at h
  next => cases h
  next encoded he =>
    obtain ⟨_, hd, hl⟩ := Except.map_eq_ok_iff.mp h
    cases hl
    obtain ⟨text, hv, hs⟩ := Option.bind_eq_some_iff.mp he
    obtain ⟨visible, rfl⟩ := visibleText?_eq_some_iff.mp hv
    obtain ⟨scheme, hm, rfl⟩ := basicScheme?_eq_some_iff.mp hs
    obtain ⟨hn, hc, ht⟩ := decodeLogin_eq_ok_iff.mp hd
    obtain ⟨-, before, after, rfl, hb, ha⟩ := Text.isInner_iff.mpr ht
    simp only [List.forall_mem_append] at visible
    obtain ⟨-, ⟨vb, -⟩, va⟩ := visible
    exact ⟨hn, hc, scheme, hm, before, after,
      fun c hx => (isBlank_iff_of_isVisible (vb c hx)).mp (hb c hx),
      fun c hx => (isBlank_iff_of_isVisible (va c hx)).mp (ha c hx), rfl⟩

/-- A header is read as a login just if it is the canonical way to write it, and no header is that
for two logins. -/
theorem basicLogin_reads_canonical_headers (username secret : String) :
    (∀ value, basicLogin value = .ok (some (username, secret)) ↔
      ∃ header, value = some header ∧ HoldsLogin header username secret) ∧
    ∀ header other again, HoldsLogin header username secret → HoldsLogin header other again →
      other = username ∧ again = secret := by
  constructor
  · rintro (_ | header)
    · exact ⟨nofun, nofun⟩
    · simp only [Option.some.injEq, exists_eq_left']
      exact ⟨HoldsLogin.of_basicLogin, HoldsLogin.basicLogin_eq⟩
  · intro header other again h ho
    cases h.basicLogin_eq.symm.trans ho.basicLogin_eq
    exact ⟨rfl, rfl⟩

/-- A header in the other spelling of the scheme, with blanks around the base64, holds one login,
whose password ends in a colon. -/
theorem login_between_blanks_is_read :
    basicLogin (some (Bytes.ofText "basic \t w6k6YTo= ")) = .ok (some ("é", "a:")) ∧
      ∀ other again, HoldsLogin (Bytes.ofText "basic \t w6k6YTo= ") other again →
        other = "é" ∧ again = "a:" := by
  have h : HoldsLogin (Bytes.ofText "basic \t w6k6YTo= ") "é" "a:" :=
    ⟨by decide, by decide +kernel, "basic ", by decide, ['\t', ' '], [' '], by simp, by simp,
      by decide +kernel⟩
  exact ⟨((basicLogin_reads_canonical_headers "é" "a:").1 _).mpr ⟨_, rfl, h⟩,
    fun other again ho => (basicLogin_reads_canonical_headers "é" "a:").2 _ other again h ho⟩

/-- Without the padding it is no login, and no request for the anonymous subject either. -/
example : basicLogin (some (Bytes.ofText "Basic YTo")) = .error .malformedBasicHeader := by
  decide +kernel

/-- The header value with which a client sends its name and its password. -/
def basicHeader (username secret : String) : Bytes :=
  Bytes.ofText (String.ofList ("Basic ".toList ++
    Base64.encode Base64.standard true (Bytes.ofText (username ++ ":" ++ secret))))

theorem holdsLogin_basicHeader (hn : username ≠ "") (hc : ':' ∉ username.toList)
    (secret : String) : HoldsLogin (basicHeader username secret) username secret := by
  refine ⟨hn, hc, "Basic ", List.mem_cons_self, [], [], nofun, nofun, ?_⟩
  rw [List.nil_append, List.append_nil]
  rfl

theorem basicLogin_basicHeader (hn : username ≠ "") (hc : ':' ∉ username.toList)
    (secret : String) :
    basicLogin (some (basicHeader username secret)) = .ok (some (username, secret)) :=
  (holdsLogin_basicHeader hn hc secret).basicLogin_eq

end RegistryAuth.Http
