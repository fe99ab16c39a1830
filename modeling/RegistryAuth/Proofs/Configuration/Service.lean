import RegistryAuth.Proofs.Configuration.Components

/-! # Built components serve

Components of built-in types make up a token service whenever they can be built.
What could be missing is found out before: a user list finds its subjects, and a
refresh token issuer is only built with a key that checks its signatures.
-/

namespace RegistryAuth.Configuration

variable {configuration : Configuration} {registries : Registries} {files : Files} {salt : Bytes}
  {kind : ComponentKind} {built : Built Components}

/-- Each type that the configuration names is a built-in one. The registries may have others. -/
def UsesBuiltin (configuration : Configuration) (registries : Registries) (files : Files)
    (salt : Bytes) : Prop :=
  ∀ kind, ∃ decoder,
    ((Registries.builtin files salt).get kind).resolve? (configuration.settings kind).type =
      some decoder ∧
    (registries.get kind).resolve? (configuration.settings kind).type = some decoder

theorem UsesBuiltin.recipe_eq_ok_iff (h : configuration.UsesBuiltin registries files salt)
    {recipe : Recipe kind.Component} :
    configuration.recipe registries kind = .ok recipe ↔
      configuration.recipe (Registries.builtin files salt) kind = .ok recipe := by
  obtain ⟨decoder, hb, hr⟩ := h kind
  simp only [Configuration.recipe, ComponentSettings.instantiate, Registry.instantiate_eq_ok_iff,
    hb, hr]

theorem UsesBuiltin.buildComponents_eq_ok_iff
    (h : configuration.UsesBuiltin registries files salt) :
    configuration.buildComponents registries = .ok built ↔
      configuration.buildComponents (Registries.builtin files salt) = .ok built := by
  simp only [Configuration.buildComponents_eq_ok_iff, Provides, h.recipe_eq_ok_iff]

/-- Components of built-in types make up a service. Behind this stands that a key which must check
signatures is the key loaded without that demand, and that loading it fails for the demand alone
only where an asymmetric key has no public part. -/
theorem built_components_serve (configuration : Configuration) (registries : Registries)
    (files : Files) (salt : Bytes) :
    (∀ built, configuration.UsesBuiltin registries files salt →
      configuration.buildComponents registries = .ok built →
      ∃ service, built.component.tokenService = .ok service) ∧
    ∀ config : SigningKeyConfig,
      (∀ key, config.load files true = .ok key →
        config.load files false = .ok key ∧ key.checking.isSome = true) ∧
      ∀ key e, config.load files false = .ok key → config.load files true = .error e →
        ∃ algorithm, Algorithm.ofName? config.algorithm = some algorithm ∧
          algorithm.family ≠ .hmac ∧ config.publicKey = none ∧ config.publicKeyFile = none := by
  refine ⟨fun built hu hb => ?_, fun config => ⟨fun key h => ?_, fun key e h he => ?_⟩⟩
  · obtain ⟨deployment, -, -, -, hs⟩ :=
      exists_serving_deployment (hu.buildComponents_eq_ok_iff.mp hb)
    exact ⟨_, hs⟩
  · exact SigningKeyConfig.load_true_eq_ok_iff.mp h
  · cases hk : key.checking with
    | none => exact SigningKeyConfig.publicKey_eq_none_of_load h hk
    | some material =>
      rw [SigningKeyConfig.load_true_eq_ok_iff.mpr ⟨h, by rw [hk]; rfl⟩] at he
      cases he

/-- One user and a shared secret make up a service, also where another authoriser can be named. -/
theorem service_beside_other_authorizer :
    ∃ (configuration : Configuration) (registries : Registries) (built : Built Components)
      (service : TokenService),
      registries.authorizer.names = ["allow_all", "none", "static"] ∧
      configuration.buildComponents registries = .ok built ∧
      built.component.tokenService = .ok service := by
  have hn : "u" ≠ "" := by decide
  have hsecret : minimalSecret ≤ "0123456789abcdef0123456789abcdef".utf8ByteSize := by decide
  obtain ⟨hash, -, hi⟩ := User.exists_passwordHash hn "p"
  obtain ⟨built, hb, -⟩ := exists_built_ofUser ⟨[]⟩ [] (hi true []) hsecret
  let nothing : Decoder Authorizer := fun _ =>
    .ok ⟨.ok (), .ok ⟨⟨fun _ _ => Reply.value []⟩, []⟩⟩
  let registries : Registries := { Registries.builtin ⟨[]⟩ [] with
    authorizer := ⟨"authorizer",
      Registry.insertEntry "none" nothing (Authorizer.registry : Registry Authorizer).entries⟩ }
  have hu : (ofUser "u" hash "0123456789abcdef0123456789abcdef").UsesBuiltin registries ⟨[]⟩ []
    | .passwordAuthenticator => ⟨_, rfl, rfl⟩
    | .authorizer => ⟨_, rfl, rfl⟩
    | .accessTokenIssuer => ⟨_, rfl, rfl⟩
    | .refreshTokenIssuer => ⟨_, rfl, rfl⟩
  have hb := hu.buildComponents_eq_ok_iff.mpr hb
  obtain ⟨service, hs⟩ := (built_components_serve _ registries ⟨[]⟩ []).1 built hu hb
  exact ⟨_, registries, built, service, by decide, hb, hs⟩

end RegistryAuth.Configuration
