import RegistryAuth.Proofs.Configuration.Assembly
import RegistryAuth.Proofs.Issuance.Deployment
import RegistryAuth.Proofs.Token.KeyLoading

/-! # What a configuration builds

If the components of a configuration are built and make up a service, then its
sections were read and validated, and the service is the one of a deployment
with the users of the configuration. One user and a shared secret are enough for
a service.
-/

namespace RegistryAuth

section Registries

variable {α β : Type} {registry : Registry α} {recipe : Recipe α}

theorem Registry.instantiate_eq_ok_iff {name : String} {settings : Json} :
    registry.instantiate name settings = .ok recipe ↔
      ∃ decoder, registry.resolve? name = some decoder ∧ decoder settings = .ok recipe := by
  unfold instantiate
  cases registry.resolve? name <;> simp

/-- A recipe comes from a decoder that the registry keeps. -/
theorem Registry.mem_of_instantiate {name : String} {settings : Json}
    (h : registry.instantiate name settings = .ok recipe) :
    ∃ decoder, (name, decoder) ∈ registry.entries ∧ decoder settings = .ok recipe := by
  obtain ⟨decoder, hr, hd⟩ := instantiate_eq_ok_iff.mp h
  obtain ⟨before, after, he, -⟩ := List.lookup_eq_some_iff.mp hr
  exact ⟨decoder, by simp [he], hd⟩

/-- What a section reads as. A missing one is read like an empty one. -/
def Json.ReadsAs (json : Json) (reader : JsonReader β) (config : β) : Prop :=
  reader (match json with
    | .null => .object []
    | other => other) = .ok config

theorem Decoder.ofReader_eq_ok_iff {reader : JsonReader β} {make : β → Recipe α} {json : Json} :
    Decoder.ofReader reader make json = .ok recipe ↔
      ∃ config, json.ReadsAs reader config ∧ make config = recipe :=
  Except.map_eq_ok_iff

end Registries

namespace ComponentSettings

variable {settings : ComponentSettings} {files : Files}

theorem instantiate_users {salt : Bytes} {recipe : Recipe PasswordAuthenticator}
    (h : settings.instantiate (PasswordAuthenticator.registry salt) = .ok recipe) :
    ∃ users, settings.config.ReadsAs UserConfig.reader users ∧ users.recipe salt = recipe := by
  obtain ⟨decoder, hm, hd⟩ := Registry.mem_of_instantiate h
  obtain ⟨-, rfl⟩ := Prod.mk.inj (List.mem_singleton.mp hm)
  exact Decoder.ofReader_eq_ok_iff.mp hd

/-- Each recipe of an authoriser builds a policy. -/
theorem instantiate_policy {recipe : Recipe Authorizer} {built : Built Authorizer}
    (h : settings.instantiate Authorizer.registry = .ok recipe) (hb : recipe.build = .ok built) :
    ∃ policy : Policy, built.component = policy.authorizer := by
  obtain ⟨decoder, hm, hd⟩ := Registry.mem_of_instantiate h
  rcases List.mem_cons.mp hm with he | hm
  · obtain ⟨-, rfl⟩ := Prod.mk.inj he
    obtain ⟨_, -, rfl⟩ := Decoder.ofReader_eq_ok_iff.mp hd
    cases hb
    exact ⟨.allowAll, rfl⟩
  · obtain ⟨-, rfl⟩ := Prod.mk.inj (List.mem_singleton.mp hm)
    obtain ⟨ruleSet, -, rfl⟩ := Decoder.ofReader_eq_ok_iff.mp hd
    cases hb
    exact ⟨.rules ruleSet, rfl⟩

theorem instantiate_accessIssuer {recipe : Recipe AccessTokenIssuer}
    {built : Built AccessTokenIssuer}
    (h : settings.instantiate (AccessTokenIssuer.registry files) = .ok recipe)
    (hb : recipe.build = .ok built) :
    ∃ issuer : JwtAccessIssuer, built.component = issuer.component := by
  obtain ⟨decoder, hm, hd⟩ := Registry.mem_of_instantiate h
  obtain ⟨-, rfl⟩ := Prod.mk.inj (List.mem_singleton.mp hm)
  obtain ⟨config, -, rfl⟩ := Decoder.ofReader_eq_ok_iff.mp hd
  simp only [AccessIssuerConfig.recipe, AccessIssuerConfig.build] at hb
  split at hb <;> cases hb
  exact ⟨_, rfl⟩

/-- A refresh token issuer is built with a key that checks its signatures. -/
theorem instantiate_refreshIssuer {recipe : Recipe RefreshTokenIssuer}
    {built : Built RefreshTokenIssuer}
    (h : settings.instantiate (RefreshTokenIssuer.registry files) = .ok recipe)
    (hb : recipe.build = .ok built) :
    ∃ issuer : JwtRefreshIssuer, built.component = issuer.component ∧
      issuer.key.checking.isSome = true := by
  obtain ⟨decoder, hm, hd⟩ := Registry.mem_of_instantiate h
  obtain ⟨-, rfl⟩ := Prod.mk.inj (List.mem_singleton.mp hm)
  obtain ⟨config, -, rfl⟩ := Decoder.ofReader_eq_ok_iff.mp hd
  simp only [RefreshIssuerConfig.recipe, RefreshIssuerConfig.build] at hb
  split at hb <;> cases hb
  next key hk => exact ⟨⟨_, _, key⟩, rfl, (SigningKeyConfig.load_true_eq_ok_iff.mp hk).2⟩

end ComponentSettings

theorem Deployment.verifier?_component {deployment : Deployment}
    (h : deployment.refreshIssuer.key.checking.isSome = true) :
    deployment.refreshIssuer.component.verifier? = some deployment.verifier :=
  if_pos h

section Build

variable {configuration : Configuration} {files : Files} {salt : Bytes}
  {built : Built Components} {service : TokenService}

/-- The components of a configuration are those of a deployment with its users, and serve. -/
theorem Configuration.exists_serving_deployment
    (hb : configuration.buildComponents (Registries.builtin files salt) = .ok built) :
    ∃ deployment : Deployment,
      configuration.passwordAuthenticator.config.ReadsAs UserConfig.reader deployment.users ∧
      deployment.refreshIssuer.key.checking.isSome = true ∧
      built.component.refreshTokenIssuer.verifier? = some deployment.verifier ∧
      built.component.tokenService = .ok deployment.pipeline.service.logged := by
  obtain ⟨⟨usersPart, policyPart, accessPart, refreshPart⟩, hp, rfl⟩ :=
    buildComponents_eq_ok_iff.mp hb
  obtain ⟨_, hu, hvu, hub⟩ := hp .passwordAuthenticator
  obtain ⟨_, ha, -, hab⟩ := hp .authorizer
  obtain ⟨_, hi, -, hib⟩ := hp .accessTokenIssuer
  obtain ⟨_, hf, -, hfb⟩ := hp .refreshTokenIssuer
  obtain ⟨users, hur, rfl⟩ := ComponentSettings.instantiate_users hu
  obtain ⟨policy, (hpc : policyPart.component = _)⟩ := ComponentSettings.instantiate_policy ha hab
  obtain ⟨access, (hac : accessPart.component = _)⟩ :=
    ComponentSettings.instantiate_accessIssuer hi hib
  obtain ⟨refresh, (hrc : refreshPart.component = _), hk⟩ :=
    ComponentSettings.instantiate_refreshIssuer hf hfb
  cases hub
  let deployment : Deployment := ⟨users, salt, policy, access, refresh, hvu⟩
  have hv : refresh.component.verifier? = some deployment.verifier :=
    deployment.verifier?_component hk
  refine ⟨deployment, hur, hk, ?_, ?_⟩
  · simp only [Built.ofParts, hrc, hv]
  · simp only [Components.tokenService, Authenticator.ofComponents, Built.ofParts, hpc, hac, hrc, hv]
    rfl

/-- The service of a configuration is that of a deployment with its users. -/
theorem Configuration.exists_deployment
    (hb : configuration.buildComponents (Registries.builtin files salt) = .ok built)
    (hs : built.component.tokenService = .ok service) :
    ∃ deployment : Deployment,
      configuration.passwordAuthenticator.config.ReadsAs UserConfig.reader deployment.users ∧
      built.component.refreshTokenIssuer.verifier? = some deployment.verifier ∧
      service = deployment.pipeline.service.logged := by
  obtain ⟨deployment, hu, -, hv, hd⟩ := exists_serving_deployment hb
  exact ⟨deployment, hu, hv, Except.ok.inj (hs.symm.trans hd)⟩

end Build

/-! A service of one user. -/

section SingleUser

variable {username hash secret : String}

def SigningKeyConfig.ofSecret (secret : String) : SigningKeyConfig :=
  ⟨"HS256", some secret, none, none, none, none, none⟩

theorem SigningKeyConfig.load_ofSecret (hs : minimalSecret ≤ secret.utf8ByteSize)
    (files : Files) (mustCheck : Bool) :
    (ofSecret secret).load files mustCheck =
      .ok (SigningKey.ofSecret .hs256 (Bytes.ofText secret) none) := by
  have hl : (ofSecret secret).loadSecret .hs256 =
      .ok (SigningKey.ofSecret .hs256 (Bytes.ofText secret) none) :=
    if_neg (Nat.not_lt.mpr hs)
  exact hl

/-- A configuration with one user, whose tokens are signed with a shared secret. -/
def Configuration.ofUser (username hash secret : String) : Configuration where
  server := ⟨"0.0.0.0:8080", "r", 10, false⟩
  passwordAuthenticator := ⟨"user", .object [("entries", .array [.object [
    ("username", .string username), ("password_hash", .string hash), ("enabled", .bool true)]])]⟩
  authorizer := ⟨"allow_all", .null⟩
  accessTokenIssuer := ⟨"jwt", .object [("issuer", .string "i"),
    ("signing_key", .object [("secret", .string secret)])]⟩
  refreshTokenIssuer := ⟨"jwt", .object [("issuer", .string "i"),
    ("signing_key", .object [("secret", .string secret)])]⟩

def Deployment.ofUser (salt : Bytes) (secret : String)
    (hi : User.IsValid ⟨username, hash, true, []⟩) : Deployment where
  users := ⟨[⟨username, hash, true, []⟩]⟩
  decoySalt := salt
  policy := .allowAll
  accessIssuer := ⟨"i", none, 300, SigningKey.ofSecret .hs256 (Bytes.ofText secret) none⟩
  refreshIssuer := ⟨"i", 604800, SigningKey.ofSecret .hs256 (Bytes.ofText secret) none⟩
  users_valid := UserConfig.validate_singleton hi

/-- One valid user and a secret that is long enough make up a service. -/
theorem Configuration.exists_built_ofUser (files : Files) (salt : Bytes)
    (hi : User.IsValid ⟨username, hash, true, []⟩) (hs : minimalSecret ≤ secret.utf8ByteSize) :
    ∃ built, (ofUser username hash secret).buildComponents (Registries.builtin files salt) =
        .ok built ∧
      built.component.tokenService = .ok (Deployment.ofUser salt secret hi).pipeline.service.logged := by
  let deployment := Deployment.ofUser salt secret hi
  let access : AccessIssuerConfig := ⟨"i", none, 300, .ofSecret secret⟩
  let refresh : RefreshIssuerConfig := ⟨"i", 604800, .ofSecret secret⟩
  have ha := SigningKeyConfig.load_ofSecret hs files false
  have hf := SigningKeyConfig.load_ofSecret hs files true
  have hav : access.validate files = .ok () := by
    simp only [access, AccessIssuerConfig.validate, ha]
    rfl
  have hfv : refresh.validate files = .ok () := by
    simp only [refresh, RefreshIssuerConfig.validate, hf]
    rfl
  have hab : access.build files = .ok ⟨deployment.accessIssuer.component, []⟩ := by
    simp only [access, AccessIssuerConfig.build, ha]
    rfl
  have hfb : refresh.build files = .ok ⟨deployment.refreshIssuer.component, []⟩ := by
    simp only [refresh, RefreshIssuerConfig.build, hf]
    rfl
  let parts : PerComponent Built := ⟨⟨deployment.table.component, []⟩,
    ⟨deployment.policy.authorizer, [Authorizer.allowAllWarning]⟩,
    ⟨deployment.accessIssuer.component, []⟩, ⟨deployment.refreshIssuer.component, []⟩⟩
  have hp : ∀ kind, (ofUser username hash secret).Provides (Registries.builtin files salt) kind
      (parts.get kind)
    | .passwordAuthenticator =>
      ⟨deployment.users.recipe salt, rfl, deployment.users_valid, rfl⟩
    | .authorizer => ⟨Authorizer.allowAllRecipe, rfl, rfl, rfl⟩
    | .accessTokenIssuer => ⟨access.recipe files, rfl, hav, hab⟩
    | .refreshTokenIssuer => ⟨refresh.recipe files, rfl, hfv, hfb⟩
  exact ⟨_, buildComponents_eq_ok_iff.mpr ⟨parts, hp, rfl⟩, rfl⟩

end SingleUser

end RegistryAuth
