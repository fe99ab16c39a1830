import RegistryAuth.Proofs.Except
import RegistryAuth.Token.SigningKey

/-! # Loading keys for checking

A key that must check signatures is loaded like one that need not, and must then
have a part for checking. Only an asymmetric key without a public part has none.
-/

namespace RegistryAuth.SigningKeyConfig

variable {config : SigningKeyConfig} {files : Files} {algorithm : Algorithm} {key : SigningKey}

def requireChecking (key : SigningKey) : Except KeyLoadError SigningKey :=
  if key.checking.isNone then .error (.publicKeyRequired key.algorithm) else .ok key

theorem requireChecking_eq_ok_iff {other : SigningKey} :
    requireChecking key = .ok other ↔ key = other ∧ key.checking.isSome = true := by
  unfold requireChecking
  cases hk : key.checking <;> simp

theorem loadSecret_eq_ok (h : config.loadSecret algorithm = .ok key) :
    key.checking.isSome = true := by
  unfold loadSecret at h
  split at h
  next => cases h
  next =>
    split at h <;> cases h
    rfl

theorem loadPair_true :
    config.loadPair files algorithm true =
      config.loadPair files algorithm false >>= requireChecking := by
  unfold loadPair
  rcases armour files config.privateKey config.privateKeyFile "private_key" with
    _ | _ | privateArmour
  · rfl
  · rfl
  simp only [bind, Except.bind]
  split
  next => rfl
  next publicArmour _ =>
  split
  next => rfl
  next signing _ =>
  rcases checkingMaterial algorithm.family publicArmour with _ | _ | checking <;> rfl

theorem load_true : config.load files true = config.load files false >>= requireChecking := by
  unfold load
  split
  next => rfl
  next algorithm _ =>
    by_cases hf : algorithm.family = .hmac
    · simp only [hf, if_true]
      cases hs : config.loadSecret algorithm with
      | error e => rfl
      | ok key => exact (requireChecking_eq_ok_iff.mpr ⟨rfl, loadSecret_eq_ok hs⟩).symm
    · simp only [hf, if_false]
      exact loadPair_true

theorem load_true_eq_ok_iff :
    config.load files true = .ok key ↔
      config.load files false = .ok key ∧ key.checking.isSome = true := by
  rw [load_true, Except.bind_eq_ok_iff]
  constructor
  · rintro ⟨_, h, hr⟩
    obtain ⟨rfl, hk⟩ := requireChecking_eq_ok_iff.mp hr
    exact ⟨h, hk⟩
  · rintro ⟨h, hk⟩
    exact ⟨key, h, requireChecking_eq_ok_iff.mpr ⟨rfl, hk⟩⟩

theorem armour_eq_ok_none {inline file : Option String} {field : String}
    (h : armour files inline file field = .ok none) : inline = none ∧ file = none := by
  unfold armour at h
  split at h
  next => cases h
  next => cases h
  next => split at h <;> cases h
  next => exact ⟨rfl, rfl⟩

theorem checkingMaterial_eq_ok_none {family : KeyFamily} {publicArmour : Option Bytes}
    (h : checkingMaterial family publicArmour = .ok none) : publicArmour = none := by
  unfold checkingMaterial at h
  split at h
  next => rfl
  next => split at h <;> cases h

/-- A pair is loaded for the given algorithm, with the part for checking that its public key
makes. -/
theorem loadPair_eq_ok (h : config.loadPair files algorithm false = .ok key) :
    key.algorithm = algorithm ∧ ∃ publicArmour,
      armour files config.publicKey config.publicKeyFile "public_key" = .ok publicArmour ∧
      checkingMaterial algorithm.family publicArmour = .ok key.checking := by
  obtain ⟨privateArmour, -, h⟩ := Except.bind_eq_ok_iff.mp h
  split at h
  next => cases h
  next =>
    obtain ⟨publicArmour, ha, h⟩ := Except.bind_eq_ok_iff.mp h
    obtain ⟨signing, -, h⟩ := Except.bind_eq_ok_iff.mp h
    obtain ⟨checking, hc, h⟩ := Except.bind_eq_ok_iff.mp h
    cases h
    exact ⟨rfl, publicArmour, ha, hc⟩

theorem publicKey_eq_none_of_loadPair (h : config.loadPair files algorithm false = .ok key)
    (hk : key.checking = none) : config.publicKey = none ∧ config.publicKeyFile = none := by
  obtain ⟨-, publicArmour, ha, hc⟩ := loadPair_eq_ok h
  exact armour_eq_ok_none (checkingMaterial_eq_ok_none (hk ▸ hc) ▸ ha)

/-- A loaded key for a keyed hash is a shared secret. -/
theorem exists_secret_of_load {mustCheck : Bool} (h : config.load files mustCheck = .ok key)
    (hk : key.algorithm.family = .hmac) :
    ∃ algorithm secret keyId, Algorithm.family algorithm = .hmac ∧
      key = SigningKey.ofSecret algorithm secret keyId := by
  replace h : config.load files false = .ok key := by
    cases mustCheck with
    | false => exact h
    | true => exact (load_true_eq_ok_iff.mp h).1
  unfold load at h
  split at h
  next => cases h
  next algorithm _ =>
    split at h
    next hf =>
      unfold loadSecret at h
      split at h
      next => cases h
      next =>
        split at h <;> cases h
        exact ⟨algorithm, _, _, hf, rfl⟩
    next hf => exact absurd ((loadPair_eq_ok h).1 ▸ hk) hf

/-- A key without a part for checking is asymmetric, and its configuration has no public key. -/
theorem publicKey_eq_none_of_load (h : config.load files false = .ok key)
    (hk : key.checking = none) :
    ∃ algorithm, Algorithm.ofName? config.algorithm = some algorithm ∧ algorithm.family ≠ .hmac ∧
      config.publicKey = none ∧ config.publicKeyFile = none := by
  unfold load at h
  split at h
  next => cases h
  next algorithm ha =>
    split at h
    next =>
      have hs := loadSecret_eq_ok h
      simp [hk] at hs
    next hf => exact ⟨algorithm, ha, hf, publicKey_eq_none_of_loadPair h hk⟩

end RegistryAuth.SigningKeyConfig
