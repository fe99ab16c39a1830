import RegistryAuth.Proofs.Configuration.Guessing
import RegistryAuth.Proofs.Configuration.Layers

/-! # Two ways to override the realm

The realm of a file can be overridden by a variable and by an override proper.
Both ways fail with the same errors and make up configurations that differ in
nothing but the realm. The override keeps the realm as it is. The variable keeps
it only if it is written like what it is taken for.
-/

namespace RegistryAuth

/-- A path that leads neither to the realm nor to anything that holds it. -/
def KeyPath.LeavesRealm (path : KeyPath) : Prop :=
  path.root = "server" → ∃ name rest, path.steps = .name name :: rest ∧ name ≠ "realm"

namespace Setting

variable {root other : Setting} {path : KeyPath} {layer : Layer} {text : String}

/-- The tables differ at most in the realm of their server sections. -/
structure AlikeBeyondRealm (root other : Setting) : Prop where
  sections : ∀ name, name ≠ "server" → root.lookup? name = other.lookup? name
  fields : ∀ name, name ≠ "realm" →
    (root.lookup? "server").bind (·.lookup? name) = (other.lookup? "server").bind (·.lookup? name)

/-- The section has a realm that is read as the text. -/
structure HasRealm (server : Setting) (text : String) : Prop where
  isTable : server.IsTable
  realm : ∃ realm, server.lookup? "realm" = some realm ∧ realm.toText = .ok text

def SaysRealm (root : Setting) (text : String) : Prop :=
  ∃ server, root.lookup? "server" = some server ∧ server.HasRealm text

theorem isTable_overlayAt_name (below : Option Setting) (setting : Setting) (name : String)
    (steps : List KeyStep) : (overlayAt below setting (.name name :: steps)).IsTable :=
  isTable_table _ _

theorem lookup?_server_assign_realm (root : Setting) (value : Scalar) (origin : Origin) :
    (root.assign ServerField.realm.path (.scalar value origin)).lookup? "server" =
      some (overlayAt (root.lookup? "server") (.scalar value origin) [.name "realm"]) :=
  (lookup?_assign _ _ _ _).trans (if_pos rfl)

theorem alike_assign_realm (root : Setting) (value : Scalar) (origin : Origin) :
    (root.assign ServerField.realm.path (.scalar value origin)).AlikeBeyondRealm root where
  sections name hn := (lookup?_assign _ _ _ _).trans (if_neg hn)
  fields name hn := by
    rw [lookup?_server_assign_realm, Option.bind_some, lookup?_overlayAt_name, if_neg hn]

theorem saysRealm_assign_realm (root : Setting) {value : Scalar} {origin : Origin}
    (h : (scalar value origin).toText = .ok text) :
    (root.assign ServerField.realm.path (.scalar value origin)).SaysRealm text := by
  refine ⟨_, lookup?_server_assign_realm root value origin, isTable_overlayAt_name _ _ _ _, _, ?_, h⟩
  rw [lookup?_overlayAt_name, if_pos rfl]
  simp only [overlayAt, overlay]

theorem AlikeBeyondRealm.symm (h : root.AlikeBeyondRealm other) : other.AlikeBeyondRealm root :=
  ⟨fun name hn => (h.sections name hn).symm, fun name hn => (h.fields name hn).symm⟩

theorem AlikeBeyondRealm.trans {last : Setting} (h : root.AlikeBeyondRealm other)
    (h' : other.AlikeBeyondRealm last) : root.AlikeBeyondRealm last :=
  ⟨fun name hn => (h.sections name hn).trans (h'.sections name hn),
    fun name hn => (h.fields name hn).trans (h'.fields name hn)⟩

theorem AlikeBeyondRealm.assign (h : root.AlikeBeyondRealm other) (hp : path.LeavesRealm)
    (setting : Setting) :
    (root.assign path setting).AlikeBeyondRealm (other.assign path setting) where
  sections name hn := by
    rw [lookup?_assign, lookup?_assign, h.sections name hn]
    by_cases hr : name = path.root
    · rw [if_pos hr, if_pos hr, h.sections path.root (hr ▸ hn)]
    · rw [if_neg hr, if_neg hr]
  fields name hn := by
    rw [lookup?_assign, lookup?_assign]
    by_cases hr : "server" = path.root
    · obtain ⟨first, rest, hs, hf⟩ := hp hr.symm
      rw [if_pos hr, if_pos hr, ← hr, hs, Option.bind_some, Option.bind_some,
        lookup?_overlayAt_name, lookup?_overlayAt_name, h.fields first hf, h.fields name hn]
    · rw [if_neg hr, if_neg hr, h.fields name hn]

theorem SaysRealm.assign (h : root.SaysRealm text) (hp : path.LeavesRealm) (setting : Setting) :
    (root.assign path setting).SaysRealm text := by
  obtain ⟨server, hs, ht, realm, hm, hr⟩ := h
  by_cases hroot : "server" = path.root
  · obtain ⟨first, rest, hsteps, hf⟩ := hp hroot.symm
    refine ⟨_, (lookup?_assign _ _ _ _).trans (if_pos hroot), ?_, realm, ?_, hr⟩
    · rw [hsteps]
      exact isTable_overlayAt_name _ _ _ _
    · rw [hsteps, lookup?_overlayAt_name, if_neg hf.symm, ← hroot, hs, Option.bind_some, hm]
  · exact ⟨server, ((lookup?_assign _ _ _ _).trans (if_neg hroot)).trans hs, ht, realm, hm, hr⟩

theorem AlikeBeyondRealm.lay (h : root.AlikeBeyondRealm other)
    (hl : ∀ entry ∈ layer, entry.1.LeavesRealm) :
    (root.lay layer).AlikeBeyondRealm (other.lay layer) := by
  induction layer generalizing root other with
  | nil => exact h
  | cons entry rest ih =>
    obtain ⟨hp, hrest⟩ := List.forall_mem_cons.mp hl
    exact ih (h.assign hp entry.2) hrest

theorem SaysRealm.lay (h : root.SaysRealm text) (hl : ∀ entry ∈ layer, entry.1.LeavesRealm) :
    (root.lay layer).SaysRealm text := by
  induction layer generalizing root with
  | nil => exact h
  | cons entry rest ih =>
    obtain ⟨hp, hrest⟩ := List.forall_mem_cons.mp hl
    exact ih (h.assign hp entry.2) hrest

end Setting

namespace ServerSettings

def withRealm (server : ServerSettings) (realm : String) : ServerSettings :=
  { server with realm := realm }

variable {entries : List (String × Setting)} {origin : Origin} {part₁ part₂ : Setting}
  {r₁ r₂ : String}

theorem ofSetting_of_hasRealm (h : (Setting.table entries origin).HasRealm r₁) :
    ofSetting (.table entries origin) = do
      let listenAddress ← (Fields.entries entries).read? "listen_addr" 0 Setting.toText
      let requestTimeout ← (Fields.entries entries).read? "request_timeout" 2 Setting.toNatural
      let rotateRefreshTokens ←
        (Fields.entries entries).read? "rotate_refresh_tokens" 3 Setting.toBool
      return {
        listenAddress := listenAddress.getD defaults.listenAddress
        realm := r₁
        requestTimeout := requestTimeout.getD defaults.requestTimeout
        rotateRefreshTokens := rotateRefreshTokens.getD defaults.rotateRefreshTokens } := by
  obtain ⟨-, realm, he, ht⟩ := h
  rw [Setting.lookup?_table] at he
  have hf : Fields.ofSetting "ServerConfig" (.table entries origin) = pure (.entries entries) := rfl
  have hr : (Fields.entries entries).read? "realm" 1 Setting.toText = pure (some r₁) := by
    rw [Fields.read?_entries_of_some he, ht]
    rfl
  simp only [ofSetting, hf, pure_bind, hr, Option.getD_some]

theorem ofSetting_of_alike (h₁ : part₁.HasRealm r₁) (h₂ : part₂.HasRealm r₂)
    (h : ∀ name, name ≠ "realm" → part₁.lookup? name = part₂.lookup? name) :
    ofSetting part₂ = (ofSetting part₁).map (·.withRealm r₂) := by
  obtain ⟨entries₁, origin₁, rfl⟩ := h₁.isTable
  obtain ⟨entries₂, origin₂, rfl⟩ := h₂.isTable
  simp only [Setting.lookup?_table] at h
  rw [ofSetting_of_hasRealm h₁, ofSetting_of_hasRealm h₂,
    ← Fields.read?_entries_congr (h "listen_addr" (by decide)),
    ← Fields.read?_entries_congr (h "request_timeout" (by decide)),
    ← Fields.read?_entries_congr (h "rotate_refresh_tokens" (by decide))]
  cases (Fields.entries entries₁).read? "listen_addr" 0 Setting.toText with
  | error e => rfl
  | ok address =>
    cases (Fields.entries entries₁).read? "request_timeout" 2 Setting.toNatural with
    | error e => rfl
    | ok timeout =>
      cases (Fields.entries entries₁).read? "rotate_refresh_tokens" 3 Setting.toBool <;> rfl

theorem realm_of_ofSetting {server : ServerSettings} (h : part₁.HasRealm r₁)
    (hs : ofSetting part₁ = .ok server) : server.realm = r₁ := by
  obtain ⟨realm, he, ht⟩ := h.realm
  have hr := ((ofSetting_eq_ok_iff h.isTable).mp hs).realm
  simp only [ServerField.name, he, Setting.Gives] at hr
  exact Except.ok.inj (hr.symm.trans ht)

end ServerSettings

namespace Configuration

/-- The configuration with another realm. -/
def withRealm (configuration : Configuration) (realm : String) : Configuration :=
  { configuration with server := configuration.server.withRealm realm }

variable {root₁ root₂ : Setting} {r₁ r₂ : String} {layers₁ layers₂ : List Layer}

theorem ofSetting_of_alike (ht₁ : root₁.IsTable) (ht₂ : root₂.IsTable)
    (h : root₁.AlikeBeyondRealm root₂) (h₁ : root₁.SaysRealm r₁) (h₂ : root₂.SaysRealm r₂) :
    ofSetting root₂ = (ofSetting root₁).map (·.withRealm r₂) := by
  obtain ⟨part₁, hs₁, hr₁⟩ := h₁
  obtain ⟨part₂, hs₂, hr₂⟩ := h₂
  have hfields := h.fields
  simp only [hs₁, hs₂, Option.bind_some] at hfields
  have hserver := ServerSettings.ofSetting_of_alike hr₁ hr₂ hfields
  obtain ⟨entries₁, origin₁, rfl⟩ := ht₁
  obtain ⟨entries₂, origin₂, rfl⟩ := ht₂
  have ho := h.sections
  simp only [Setting.lookup?_table] at hs₁ hs₂ ho
  have hf (entries : List (String × Setting)) (origin : Origin) :
      Fields.ofSetting "AppConfig" (.table entries origin) = pure (.entries entries) := rfl
  simp only [ofSetting, hf, pure_bind, Fields.read?_entries_of_some hs₁,
    Fields.read?_entries_of_some hs₂, hserver,
    ← Fields.read?_entries_congr (ho "password_authenticator" (by decide)),
    ← Fields.read?_entries_congr (ho "authorizer" (by decide)),
    ← Fields.read?_entries_congr (ho "access_token_issuer" (by decide)),
    ← Fields.read?_entries_congr (ho "refresh_token_issuer" (by decide))]
  -- All sections are read before the first one that is missing is reported.
  cases ServerSettings.ofSetting part₁ with
  | error e => rfl
  | ok server =>
    cases (Fields.entries entries₁).read? "password_authenticator" 1
        ComponentSettings.ofSetting with
    | error e => rfl
    | ok passwordAuthenticator =>
      cases (Fields.entries entries₁).read? "authorizer" 2 ComponentSettings.ofSetting with
      | error e => rfl
      | ok authorizer =>
        cases (Fields.entries entries₁).read? "access_token_issuer" 3
            ComponentSettings.ofSetting with
        | error e => rfl
        | ok accessTokenIssuer =>
          cases (Fields.entries entries₁).read? "refresh_token_issuer" 4
              ComponentSettings.ofSetting with
          | error e => rfl
          | ok refreshTokenIssuer =>
            cases passwordAuthenticator <;> cases authorizer <;> cases accessTokenIssuer <;>
              cases refreshTokenIssuer <;> rfl

theorem realm_of_ofSetting {configuration : Configuration} (ht : root₁.IsTable)
    (h : root₁.SaysRealm r₁) (hs : ofSetting root₁ = .ok configuration) :
    configuration.server.realm = r₁ := by
  obtain ⟨part, hp, hr⟩ := h
  obtain ⟨⟨server, hserver, hread⟩, -⟩ := (ofSetting_eq_ok_iff ht).mp hs
  cases hp.symm.trans hserver
  exact ServerSettings.realm_of_ofSetting hr hread

theorem validate_withRealm {configuration : Configuration} {realm : String}
    (h : configuration.server.realm = "" ↔ realm = "") :
    (configuration.withRealm realm).validate = configuration.validate := by
  have hs : (configuration.server.withRealm realm).validate = configuration.server.validate :=
    ServerSettings.validate_congr h.symm rfl rfl
  simp only [validate, withRealm, hs]

/-- Layers that agree but for the realm make up configurations that do, or fail alike. -/
theorem ofLayers_of_alike
    (h : (Setting.ofLayers layers₁).AlikeBeyondRealm (Setting.ofLayers layers₂))
    (h₁ : (Setting.ofLayers layers₁).SaysRealm r₁) (h₂ : (Setting.ofLayers layers₂).SaysRealm r₂)
    (hr : r₁ = "" ↔ r₂ = "") :
    ofLayers layers₂ = (ofLayers layers₁).map (·.withRealm r₂) ∧
      ∀ configuration, ofLayers layers₁ = .ok configuration → configuration.server.realm = r₁ := by
  have hread := ofSetting_of_alike (Setting.isTable_ofLayers _) (Setting.isTable_ofLayers _) h h₁ h₂
  cases hs : ofSetting (Setting.ofLayers layers₁) with
  | error cause =>
    rw [hs] at hread
    rw [ofLayers_of_ofSetting_error hs, ofLayers_of_ofSetting_error hread]
    exact ⟨rfl, nofun⟩
  | ok composed =>
    have hrealm := realm_of_ofSetting (Setting.isTable_ofLayers _) h₁ hs
    rw [hs] at hread
    rw [ofLayers_of_ofSetting_ok hs, ofLayers_of_ofSetting_ok hread,
      validate_withRealm (hrealm.symm ▸ hr)]
    refine ⟨?_, fun configuration hc => ?_⟩
    · cases composed.validate <;> rfl
    · obtain ⟨_, -, rfl⟩ := Except.map_eq_ok_iff.mp hc
      exact hrealm

theorem eq_map_withRealm_iff {loaded : Except ConfigError Configuration} {realm text : String}
    (h : ∀ configuration, loaded = .ok configuration → configuration.server.realm = text) :
    loaded = loaded.map (·.withRealm realm) ↔ (∃ e, loaded = .error e) ∨ text = realm := by
  cases loaded with
  | error e => exact iff_of_true rfl (.inl ⟨e, rfl⟩)
  | ok configuration =>
    rw [← h configuration rfl]
    constructor
    · intro hc
      exact .inr (congrArg (fun c : Configuration => c.server.realm) (Except.ok.inj hc))
    · rintro (⟨e, he⟩ | hr)
      · cases he
      · rw [← hr]
        rfl

/-- A variable for the realm and an override of it, with the same other variables. -/
theorem realm_overrides_differ_in_realm (files : Files) (directory path : String)
    (before : List (String × String)) {after : List (String × String)}
    (ha : ∀ entry ∈ Layer.ofEnvironment after, entry.1.LeavesRealm) (realm : String) :
    load files directory path (before ++ after) [("server.realm", realm)] =
      (load files directory path (before ++ ("REGISTRY_AUTH__SERVER__REALM", realm) :: after)
        []).map (·.withRealm realm) ∧
    ∀ configuration, load files directory path
        (before ++ ("REGISTRY_AUTH__SERVER__REALM", realm) :: after) [] = .ok configuration →
      configuration.server.realm = Layer.rewritten realm := by
  change load files directory path (before ++ after) (Layer.overridesOf [(.realm, realm)]) =
      (load files directory path _ (Layer.overridesOf [])).map _ ∧
    ∀ configuration, load files directory path _ (Layer.overridesOf []) = .ok configuration → _
  cases hf : Layer.ofFile files directory path with
  | error cause =>
    rw [load_eq_error hf, load_eq_error hf]
    exact ⟨rfl, nofun⟩
  | ok file =>
    have hv : Layer.ofEnvironment (before ++ ("REGISTRY_AUTH__SERVER__REALM", realm) :: after) =
        Layer.ofEnvironment before ++ (ServerField.realm.path,
          .scalar (Layer.readVariable realm) Layer.environmentOrigin) ::
            Layer.ofEnvironment after := by
      have hc : Layer.ofVariable "REGISTRY_AUTH__SERVER__REALM" realm = some (_, _) :=
        ServerField.ofVariable_variableName .realm realm
      rw [Layer.ofEnvironment_append, Layer.ofEnvironment_cons_some hc]
    rw [load_overridesOf hf, load_overridesOf hf, hv, Layer.ofEnvironment_append]
    let base := (Setting.ofLayers [file]).lay (Layer.ofEnvironment before)
    -- The variable stands among others, and the override after all of them.
    have h₁ : Setting.ofLayers [file, Layer.ofEnvironment before ++ (ServerField.realm.path,
          .scalar (Layer.readVariable realm) Layer.environmentOrigin) ::
            Layer.ofEnvironment after, Layer.ofFields []] =
        (base.assign ServerField.realm.path (.scalar (Layer.readVariable realm)
          Layer.environmentOrigin)).lay (Layer.ofEnvironment after) := by
      rw [Setting.ofLayers_cons, List.flatten_cons, List.flatten_cons, List.flatten_nil,
        Layer.ofFields, List.map_nil, List.append_nil, List.append_nil, Setting.lay_append,
        Setting.lay_cons]
    have h₂ : Setting.ofLayers [file, Layer.ofEnvironment before ++ Layer.ofEnvironment after,
          Layer.ofFields [(.realm, realm)]] =
        (base.lay (Layer.ofEnvironment after)).assign ServerField.realm.path
          (.scalar (.text realm) none) := by
      rw [Setting.ofLayers_cons, List.flatten_cons, List.flatten_cons, List.flatten_nil,
        Layer.ofFields, List.map_cons, List.map_nil, List.append_nil, Setting.lay_append,
        Setting.lay_append, Setting.lay_cons, Setting.lay_nil]
    refine ofLayers_of_alike ?alike ?says₁ ?says₂ Layer.rewritten_eq_empty_iff
    case alike =>
      rw [h₁, h₂]
      exact ((Setting.alike_assign_realm base _ _).lay ha).trans
        (Setting.alike_assign_realm _ _ _).symm
    case says₁ =>
      rw [h₁]
      exact (Setting.saysRealm_assign_realm base (Layer.toText_readVariable realm _)).lay ha
    case says₂ =>
      rw [h₂]
      exact Setting.saysRealm_assign_realm _ rfl

/-- A variable for the realm and an override of it agree just if there is an error, which is the
same, or if the variable keeps the realm. They never differ in anything but the realm. -/
theorem realm_overrides_agree_iff (files : Files) (directory path : String)
    (before : List (String × String)) {after : List (String × String)}
    (ha : ∀ entry ∈ Layer.ofEnvironment after, entry.1.LeavesRealm) (realm : String) :
    let fromVariable := load files directory path
      (before ++ ("REGISTRY_AUTH__SERVER__REALM", realm) :: after) []
    let overridden := load files directory path (before ++ after) [("server.realm", realm)]
    overridden = fromVariable.map (·.withRealm realm) ∧
    (∀ configuration, fromVariable = .ok configuration →
      configuration.server.realm = Layer.rewritten realm) ∧
    (fromVariable = overridden ↔ (∃ e, fromVariable = .error e) ∨ Layer.IsKept realm) ∧
    ((∃ c ∈ realm.toList, ¬ Decimal.IsScalarChar c) → fromVariable = overridden) := by
  intro fromVariable overridden
  obtain ⟨hmap, hrealm⟩ := realm_overrides_differ_in_realm files directory path before ha realm
  have hiff : fromVariable = overridden ↔
      (∃ e, fromVariable = .error e) ∨ Layer.rewritten realm = realm :=
    (Eq.congr_right hmap).trans (eq_map_withRealm_iff hrealm)
  exact ⟨hmap, hrealm, by rw [hiff, Layer.rewritten_eq_self_iff],
    fun hc => hiff.mpr (.inr (Layer.rewritten_of_not_isScalarChar hc))⟩

/-- A file that leaves the realm to others. -/
def nameless : Files :=
  ⟨[("config.yaml", ("password_authenticator:\n  type: user\nauthorizer:\n  type: static\n" ++
      "access_token_issuer:\n  type: jwt\nrefresh_token_issuer:\n  type: jwt\n").toUTF8)]⟩

theorem exists_load_nameless : ∃ configuration,
    load nameless "/" "config.yaml" [("REGISTRY_AUTH__SERVER__REALM", "1.50")] [] =
      .ok configuration := by
  have h : (load nameless "/" "config.yaml" [("REGISTRY_AUTH__SERVER__REALM", "1.50")]
      []).toOption.any (fun _ => true) := by
    decide +kernel
  obtain ⟨configuration, hc, -⟩ := Except.any_toOption_iff.mp h
  exact ⟨configuration, hc⟩

theorem address_is_kept_and_number_is_not :
    (∃ configuration,
      load nameless "/" "config.yaml" [("REGISTRY_AUTH__SERVER__REALM", "1.50")] [] =
        .ok configuration ∧
      configuration.server.realm = "1.5" ∧
      load nameless "/" "config.yaml" [] [("server.realm", "1.50")] =
        .ok (configuration.withRealm "1.50")) ∧
    load nameless "/" "config.yaml" [("REGISTRY_AUTH__SERVER__REALM", "https://auth"),
        ("REGISTRY_AUTH__SERVER__REQUEST_TIMEOUT", "3")] [] =
      load nameless "/" "config.yaml" [("REGISTRY_AUTH__SERVER__REQUEST_TIMEOUT", "3")]
        [("server.realm", "https://auth")] := by
  have hv : Layer.ofEnvironment [("REGISTRY_AUTH__SERVER__REQUEST_TIMEOUT", "3")] =
      [(ServerField.requestTimeout.path,
        .scalar (Layer.readVariable "3") Layer.environmentOrigin)] :=
    Layer.ofEnvironment_cons_some (ServerField.ofVariable_variableName .requestTimeout "3") []
  have hl : ∀ entry ∈ Layer.ofEnvironment [("REGISTRY_AUTH__SERVER__REQUEST_TIMEOUT", "3")],
      entry.1.LeavesRealm := by
    rw [hv]
    rintro entry hm -
    rw [List.mem_singleton.mp hm]
    exact ⟨_, _, rfl, by decide⟩
  have hnone : ∀ entry ∈ Layer.ofEnvironment [], entry.1.LeavesRealm := nofun
  obtain ⟨configuration, hc⟩ := exists_load_nameless
  obtain ⟨hmap, hrealm, -⟩ := realm_overrides_agree_iff nameless "/" "config.yaml" []
    hnone "1.50"
  obtain ⟨-, -, -, hkept⟩ := realm_overrides_agree_iff nameless "/" "config.yaml" []
    hl "https://auth"
  refine ⟨⟨configuration, hc, (hrealm configuration hc).trans (by decide +kernel), ?_⟩,
    hkept ⟨':', by decide, by decide⟩⟩
  rw [List.nil_append] at hmap
  exact hmap.trans (congrArg _ hc)

/-- The realm `1.50` is the number one and a half for the variable, and a text for the override. -/
theorem number_realm_is_rewritten :
    load nameless "/" "config.yaml" [("REGISTRY_AUTH__SERVER__REALM", "1.50")] [] ≠
      load nameless "/" "config.yaml" [] [("server.realm", "1.50")] := by
  have hnone : ∀ entry ∈ Layer.ofEnvironment [], entry.1.LeavesRealm := nofun
  obtain ⟨configuration, hc⟩ := exists_load_nameless
  obtain ⟨hmap, hrealm⟩ := realm_overrides_differ_in_realm nameless "/" "config.yaml" []
    hnone "1.50"
  intro h
  rcases (eq_map_withRealm_iff hrealm).mp (h.trans hmap) with ⟨e, he⟩ | hr
  · cases hc.symm.trans he
  · exact absurd hr (by decide +kernel)

end Configuration

end RegistryAuth
