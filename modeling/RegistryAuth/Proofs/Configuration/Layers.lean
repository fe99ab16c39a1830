import RegistryAuth.Configuration.Load
import RegistryAuth.Proofs.Configuration.Reading

/-! # Which layer decides a field

A layer that is laid over a file replaces the entries that it sets and no other
one. So each field of the server section comes from the last override that sets
it, else from the environment, else from the file, else it has its default. The
sections of the components are those of the file. Only what the layers make up
together is validated.
-/

namespace RegistryAuth

namespace Setting

variable {root setting : Setting} {below : Option Setting} {name other : String}
  {path : KeyPath} {steps : List KeyStep}

theorem lookup_tableParts : (tableParts below).1.lookup name = below.bind (·.lookup? name) := by
  cases below <;> rfl

theorem isTable_assign (root : Setting) (path : KeyPath) (setting : Setting) :
    (root.assign path setting).IsTable :=
  isTable_table _ _

theorem lookup?_overlayAt_name (below : Option Setting) (setting : Setting) (name other : String)
    (steps : List KeyStep) :
    (overlayAt below setting (.name name :: steps)).lookup? other =
      if other = name then some (overlayAt (below.bind (·.lookup? name)) setting steps)
      else below.bind (·.lookup? other) := by
  simp only [overlayAt, lookup?_table, ← lookup_tableParts]
  split
  next h => rw [h, lookup_put_self]
  next h => rw [lookup_put_of_ne h]

theorem lookup?_assign (root : Setting) (path : KeyPath) (setting : Setting) (other : String) :
    (root.assign path setting).lookup? other =
      if other = path.root then some (overlayAt (root.lookup? path.root) setting path.steps)
      else root.lookup? other := by
  rw [assign, lookup?_overlayAt_name]
  rfl

/-- The settings with the entries of a layer laid over them one by one. -/
def lay (root : Setting) (layer : Layer) : Setting :=
  layer.foldl (fun root (path, setting) => root.assign path setting) root

@[simp]
theorem lay_nil (root : Setting) : root.lay [] = root := rfl

@[simp]
theorem lay_cons (root : Setting) (path : KeyPath) (setting : Setting) (rest : Layer) :
    root.lay ((path, setting) :: rest) = (root.assign path setting).lay rest := rfl

theorem lay_append (root : Setting) (layer upper : Layer) :
    root.lay (layer ++ upper) = (root.lay layer).lay upper :=
  List.foldl_append

theorem ofLayers_cons (file : Layer) (upper : List Layer) :
    ofLayers (file :: upper) = (ofLayers [file]).lay upper.flatten := by
  simp only [ofLayers, List.flatten_cons, List.flatten_nil, List.append_nil, List.foldl_append]
  rfl

theorem isTable_lay (layer : Layer) (h : root.IsTable) : (root.lay layer).IsTable := by
  induction layer generalizing root with
  | nil => exact h
  | cons entry rest ih => exact ih (isTable_assign _ _ _)

theorem isTable_ofLayers (layers : List Layer) : (ofLayers layers).IsTable :=
  isTable_lay _ (isTable_table _ _)

end Setting

namespace ServerField

/-- The key that an override sets the field under. -/
def overrideKey : ServerField → String
  | listenAddress => "server.listen_addr"
  | realm => "server.realm"
  | requestTimeout => "server.request_timeout"
  | rotateRefreshTokens => "server.rotate_refresh_tokens"

/-- The variable that the environment sets the field by. -/
def variableName : ServerField → String
  | listenAddress => "REGISTRY_AUTH__SERVER__LISTEN_ADDR"
  | realm => "REGISTRY_AUTH__SERVER__REALM"
  | requestTimeout => "REGISTRY_AUTH__SERVER__REQUEST_TIMEOUT"
  | rotateRefreshTokens => "REGISTRY_AUTH__SERVER__ROTATE_REFRESH_TOKENS"

def path (field : ServerField) : KeyPath := ⟨"server", [.name field.name]⟩

variable {field other : ServerField}

theorem name_injective : Function.Injective name := by
  intro field other
  cases field <;> cases other <;> decide

theorem variableName_injective : Function.Injective variableName := by
  intro field other
  cases field <;> cases other <;> decide

theorem path_injective : Function.Injective path := by
  intro field other h
  simp only [path, KeyPath.mk.injEq, List.cons.injEq, KeyStep.name.injEq, and_true, true_and] at h
  exact name_injective h

theorem parse_overrideKey (field : ServerField) :
    KeyPath.parse field.overrideKey = .ok field.path := by
  cases field <;> rfl

theorem ofVariable_variableName (field : ServerField) (value : String) :
    Layer.ofVariable field.variableName value =
      some (field.path, .scalar (Layer.readVariable value) Layer.environmentOrigin) := by
  have hk : ((Text.dropStart? Layer.environmentMark (Text.lowercase field.variableName.toList)).map
      fun key => Layer.pathOf (String.ofList (Text.replace Layer.separator ['.'] key))) =
        some field.path := by
    cases field <;> decide +kernel
  obtain ⟨key, hd, hp⟩ := Option.map_eq_some_iff.mp hk
  rw [Layer.ofVariable, hd, Option.map_some, hp]

end ServerField

namespace Layer

variable {root : Setting} {layer : Layer} {environment : List (String × String)}
  {entries : List (String × Setting)} {origin : Origin}

/-- The layer sets fields of the server section to scalars, and nothing else. -/
def SetsFields (layer : Layer) : Prop :=
  ∀ entry ∈ layer, ∃ field value origin, entry = (ServerField.path field, .scalar value origin)

/-- What a layer sets a field to, by its last entry for the field. -/
def set? (layer : Layer) (field : ServerField) : Option Setting :=
  layer.reverse.lookup field.path

theorem set?_cons (path : KeyPath) (setting : Setting) (layer : Layer) (field : ServerField) :
    set? ((path, setting) :: layer) field =
      (layer.set? field).or (if field.path = path then some setting else none) := by
  simp only [set?, List.reverse_cons, List.lookup_append]
  congr 1
  by_cases h : field.path = path
  · simp [h]
  · rw [if_neg h, List.lookup_cons, beq_false_of_ne h, List.lookup_nil]

theorem SetsFields.append {upper : Layer} (h : layer.SetsFields) (hu : upper.SetsFields) :
    SetsFields (layer ++ upper) := fun entry hm =>
  (List.mem_append.mp hm).elim (h entry) (hu entry)

theorem set?_append (layer upper : Layer) (field : ServerField) :
    (layer ++ upper).set? field = (upper.set? field).or (layer.set? field) := by
  simp only [set?, List.reverse_append, List.lookup_append]

/-- Setting a field puts it into the server section. -/
theorem lookup?_server_assign (hs : root.lookup? "server" = some (.table entries origin))
    (field : ServerField) (value : Scalar) (place : Origin) :
    (root.assign field.path (.scalar value place)).lookup? "server" =
      some (.table (Setting.put entries field.name (.scalar value place)) origin) := by
  rw [Setting.lookup?_assign, ServerField.path, if_pos rfl, hs]
  simp only [Setting.overlayAt, Setting.tableParts, Setting.overlay]

theorem lookup_put_name (entries : List (String × Setting)) (field other : ServerField)
    (setting : Setting) :
    (Setting.put entries field.name setting).lookup other.name =
      (if other.path = field.path then some setting else none).or (entries.lookup other.name) := by
  by_cases h : other = field
  · rw [h, Setting.lookup_put_self, if_pos rfl, Option.some_or]
  · rw [Setting.lookup_put_of_ne (mt (fun hn => ServerField.name_injective hn) h),
      if_neg (mt (fun hp => ServerField.path_injective hp) h), Option.none_or]

/-- Entries for fields are put into the server section and leave all other sections alone. -/
theorem SetsFields.lay (h : SetsFields layer)
    (hs : root.lookup? "server" = some (.table entries origin)) :
    (∃ server : Setting, (root.lay layer).lookup? "server" = some server ∧ server.IsTable ∧
      ∀ field : ServerField, server.lookup? field.name =
        (layer.set? field).or (entries.lookup field.name)) ∧
    ∀ name, name ≠ "server" → (root.lay layer).lookup? name = root.lookup? name := by
  induction layer generalizing root entries with
  | nil => exact ⟨⟨_, hs, Setting.isTable_table _ _, fun _ => rfl⟩, fun _ _ => rfl⟩
  | cons entry rest ih =>
    obtain ⟨⟨field, value, place, rfl⟩, hrest⟩ := List.forall_mem_cons.mp h
    obtain ⟨⟨server, he, ht, hf⟩, ho⟩ := ih hrest (lookup?_server_assign hs field value place)
    refine ⟨⟨server, he, ht, fun other => ?_⟩, fun name hn => ?_⟩
    · rw [hf, set?_cons, Option.or_assoc, lookup_put_name]
    · exact (ho name hn).trans ((Setting.lookup?_assign _ _ _ _).trans (if_neg hn))

section Environment

/-- The name of a variable that counts. -/
def Counts (name : String) : Prop :=
  environmentMark <+: Text.lowercase name.toList

/-- Of the variables of the environment only those for fields of the server section count. -/
def OnlyFieldsCount (environment : List (String × String)) : Prop :=
  ∀ entry ∈ environment, Counts entry.1 → ∃ field, entry.1 = ServerField.variableName field

variable {name value : String}

theorem ofVariable_eq_none_iff : ofVariable name value = none ↔ ¬ Counts name := by
  rw [ofVariable, Option.map_eq_none_iff, Option.eq_none_iff_forall_ne_some, Counts,
    List.prefix_iff_exists_append_eq, not_exists]
  exact forall_congr' fun rest => not_congr (Text.dropStart?_eq_some_iff.trans eq_comm)

theorem ofEnvironment_cons_some {entry : KeyPath × Setting} (h : ofVariable name value = some entry)
    (rest : List (String × String)) :
    ofEnvironment ((name, value) :: rest) = entry :: ofEnvironment rest :=
  List.filterMap_cons_some h

theorem ofEnvironment_cons_none (h : ofVariable name value = none)
    (rest : List (String × String)) :
    ofEnvironment ((name, value) :: rest) = ofEnvironment rest :=
  List.filterMap_cons_none h

theorem ofEnvironment_append (environment more : List (String × String)) :
    ofEnvironment (environment ++ more) = ofEnvironment environment ++ ofEnvironment more :=
  List.filterMap_append

theorem counts_variableName (field : ServerField) : Counts field.variableName := by
  refine Classical.byContradiction fun h => ?_
  have hv := ServerField.ofVariable_variableName field ""
  cases hv.symm.trans (ofVariable_eq_none_iff.mpr h)

theorem setsFields_ofEnvironment (h : OnlyFieldsCount environment) :
    (ofEnvironment environment).SetsFields := by
  intro entry he
  obtain ⟨⟨name, value⟩, hm, hv⟩ := List.mem_filterMap.mp he
  have hc : Counts name :=
    Classical.byContradiction fun hc => nomatch (ofVariable_eq_none_iff.mpr hc).symm.trans hv
  obtain ⟨field, rfl⟩ := h _ hm hc
  cases (ServerField.ofVariable_variableName field value).symm.trans hv
  exact ⟨field, _, _, rfl⟩

theorem lookup_ofEnvironment (h : OnlyFieldsCount environment) (field : ServerField) :
    (ofEnvironment environment).lookup field.path =
      (environment.lookup field.variableName).map fun value =>
        .scalar (readVariable value) environmentOrigin := by
  induction environment with
  | nil => rfl
  | cons entry rest ih =>
    obtain ⟨name, value⟩ := entry
    obtain ⟨hname, hrest⟩ := List.forall_mem_cons.mp h
    by_cases hc : Counts name
    · obtain ⟨other, rfl⟩ := hname hc
      rw [ofEnvironment_cons_some (ServerField.ofVariable_variableName other value),
        List.lookup_cons, List.lookup_cons]
      by_cases hf : field = other
      · simp [hf]
      · rw [beq_false_of_ne (mt (fun hp => ServerField.path_injective hp) hf),
          beq_false_of_ne (mt (fun hn => ServerField.variableName_injective hn) hf)]
        exact ih hrest
    · have hn : field.variableName ≠ name := fun hn => hc (hn ▸ counts_variableName field)
      rw [ofEnvironment_cons_none (ofVariable_eq_none_iff.mpr hc), List.lookup_cons,
        beq_false_of_ne hn]
      exact ih hrest

theorem set?_ofEnvironment (h : OnlyFieldsCount environment) (field : ServerField) :
    (ofEnvironment environment).set? field =
      (environment.reverse.lookup field.variableName).map fun value =>
        .scalar (readVariable value) environmentOrigin := by
  rw [set?, ofEnvironment, ← List.filterMap_reverse]
  exact lookup_ofEnvironment (fun entry hm => h entry (List.mem_reverse.mp hm)) field

end Environment

section Overrides

/-- Overrides of fields of the server section. -/
def overridesOf (overrides : List (ServerField × String)) : List (String × String) :=
  overrides.map fun (field, text) => (field.overrideKey, text)

def ofFields (overrides : List (ServerField × String)) : Layer :=
  overrides.map fun (field, text) => (field.path, .scalar (.text text) none)

variable (overrides : List (ServerField × String))

theorem ofOverrides_overridesOf :
    ofOverrides (overridesOf overrides) = .ok (ofFields overrides) := by
  induction overrides with
  | nil => rfl
  | cons override rest ih =>
    unfold ofOverrides overridesOf at ih ⊢
    rw [List.map_cons, List.mapM_cons, ih]
    simp only [ServerField.parse_overrideKey]
    rfl

theorem setsFields_ofFields : (ofFields overrides).SetsFields := by
  intro entry he
  obtain ⟨⟨field, text⟩, -, rfl⟩ := List.mem_map.mp he
  exact ⟨field, _, _, rfl⟩

theorem set?_ofFields (field : ServerField) :
    (ofFields overrides).set? field =
      (overrides.reverse.lookup field).map fun text => .scalar (.text text) none := by
  rw [set?, ofFields, ← List.map_reverse]
  induction overrides.reverse with
  | nil => rfl
  | cons override rest ih =>
    obtain ⟨other, text⟩ := override
    rw [List.map_cons, List.lookup_cons, List.lookup_cons]
    by_cases hf : field = other
    · simp [hf]
    · rw [beq_false_of_ne (mt (fun hp => ServerField.path_injective hp) hf), beq_false_of_ne hf]
      exact ih

end Overrides

end Layer

/-- What decides a field: the last override of it, else the last variable for it, else the file. -/
def ServerField.setting? (field : ServerField) (file : Layer)
    (environment : List (String × String)) (overrides : List (ServerField × String)) :
    Option Setting :=
  ((overrides.reverse.lookup field).map fun text => .scalar (.text text) none).or
    (((environment.reverse.lookup field.variableName).map fun value =>
        .scalar (Layer.readVariable value) Layer.environmentOrigin).or
      (((Setting.ofLayers [file]).lookup? "server").bind (·.lookup? field.name)))

theorem ComponentKind.sectionName_ne_server (kind : ComponentKind) :
    kind.sectionName ≠ "server" := by
  cases kind <;> decide

namespace Configuration

variable {file : Layer} {environment : List (String × String)}
  {overrides : List (ServerField × String)} {configuration : Configuration} {layers : List Layer}
  {server : Setting}

/-- What the layers make up together, valid or not: each field of the server section is read from
what decides it, and the sections of the components are read from the file. -/
structure Composes (configuration : Configuration) (file : Layer)
    (environment : List (String × String)) (overrides : List (ServerField × String)) : Prop where
  server : configuration.server.ReadsFrom fun field => field.setting? file environment overrides
  components : ∀ kind : ComponentKind, ∃ part,
    (Setting.ofLayers [file]).lookup? kind.sectionName = some part ∧
      ComponentSettings.ofSetting part = .ok (configuration.settings kind)

theorem ofLayers_of_ofSetting_ok (h : ofSetting (Setting.ofLayers layers) = .ok configuration) :
    ofLayers layers = configuration.validate.map fun _ => configuration := by
  rw [ofLayers, h]
  change (configuration.validate >>= fun _ => pure configuration) = _
  cases configuration.validate <;> rfl

theorem ofLayers_of_ofSetting_error {cause : BuildError}
    (h : ofSetting (Setting.ofLayers layers) = .error cause) :
    ofLayers layers = .error (.build cause) := by
  rw [ofLayers, h]
  rfl

theorem load_overridesOf {files : Files} {directory path : String}
    (hf : Layer.ofFile files directory path = .ok file) (environment : List (String × String))
    (overrides : List (ServerField × String)) :
    load files directory path environment (Layer.overridesOf overrides) =
      ofLayers [file, Layer.ofEnvironment environment, Layer.ofFields overrides] := by
  rw [load, Layer.ofOverrides_overridesOf, hf]
  rfl

theorem load_eq_error {files : Files} {directory path : String} {cause : BuildError}
    (hf : Layer.ofFile files directory path = .error cause) (environment : List (String × String))
    (overrides : List (ServerField × String)) :
    load files directory path environment (Layer.overridesOf overrides) =
      .error (.build cause) := by
  rw [load, Layer.ofOverrides_overridesOf, hf]
  rfl

theorem composes_iff (hs : (Setting.ofLayers [file]).lookup? "server" = some server)
    (ht : server.IsTable) (he : Layer.OnlyFieldsCount environment) :
    ofSetting (Setting.ofLayers
        [file, Layer.ofEnvironment environment, Layer.ofFields overrides]) = .ok configuration ↔
      configuration.Composes file environment overrides := by
  obtain ⟨entries, origin, rfl⟩ := ht
  have hl : (Layer.ofEnvironment environment ++ Layer.ofFields overrides).SetsFields :=
    (Layer.setsFields_ofEnvironment he).append (Layer.setsFields_ofFields overrides)
  obtain ⟨⟨server, hserver, htable, hfield⟩, hother⟩ := hl.lay hs
  rw [ofSetting_eq_ok_iff (Setting.isTable_ofLayers _), Setting.ofLayers_cons, List.flatten_cons,
    List.flatten_cons, List.flatten_nil, List.append_nil, hserver]
  have hsettings : (fun field : ServerField => server.lookup? field.name) =
      fun field => field.setting? file environment overrides := by
    funext field
    rw [hfield, Layer.set?_append, Layer.set?_ofFields, Layer.set?_ofEnvironment he,
      ServerField.setting?, hs, Option.bind_some, Setting.lookup?_table, Option.or_assoc]
  constructor
  · rintro ⟨⟨_, hsome, hread⟩, hparts⟩
    cases hsome
    refine ⟨hsettings ▸ (ServerSettings.ofSetting_eq_ok_iff htable).mp hread, fun kind => ?_⟩
    rw [← hother _ kind.sectionName_ne_server]
    exact hparts kind
  · rintro ⟨hread, hparts⟩
    refine ⟨⟨server, rfl, (ServerSettings.ofSetting_eq_ok_iff htable).mpr (hsettings ▸ hread)⟩,
      fun kind => ?_⟩
    rw [hother _ kind.sectionName_ne_server]
    exact hparts kind

/-- Each field of the server section is decided on its own, by the highest layer that sets it, and
what comes of it is validated as a whole: it is the configuration if it is valid, whatever the
single layers are, and otherwise its fault is the error. -/
theorem layers_compose_by_field {files : Files} {directory path : String}
    (hf : Layer.ofFile files directory path = .ok file)
    (hs : (Setting.ofLayers [file]).lookup? "server" = some server) (ht : server.IsTable)
    (he : Layer.OnlyFieldsCount environment) :
    (∀ configuration : Configuration,
      load files directory path environment (Layer.overridesOf overrides) = .ok configuration ↔
        configuration.Composes file environment overrides ∧ configuration.validate = .ok ()) ∧
    (∀ (configuration : Configuration) (error : ConfigError),
      configuration.Composes file environment overrides → configuration.validate = .error error →
        load files directory path environment (Layer.overridesOf overrides) = .error error) ∧
    ((¬ ∃ configuration : Configuration, configuration.Composes file environment overrides) →
      ∃ cause, load files directory path environment (Layer.overridesOf overrides) =
        .error (.build cause)) := by
  rw [load_overridesOf hf]
  cases hread : ofSetting (Setting.ofLayers
      [file, Layer.ofEnvironment environment, Layer.ofFields overrides]) with
  | error cause =>
    have hnone : ∀ configuration : Configuration,
        ¬ configuration.Composes file environment overrides := fun configuration hc =>
      nomatch hread.symm.trans ((composes_iff hs ht he).mpr hc)
    rw [ofLayers_of_ofSetting_error hread]
    exact ⟨fun configuration => iff_of_false nofun fun h => hnone _ h.1,
      fun configuration _ h => absurd h (hnone configuration), fun _ => ⟨cause, rfl⟩⟩
  | ok composed =>
    have hcomposed := (composes_iff hs ht he).mp hread
    have hunique : ∀ configuration : Configuration,
        configuration.Composes file environment overrides → composed = configuration :=
      fun configuration hc => Except.ok.inj (hread.symm.trans ((composes_iff hs ht he).mpr hc))
    rw [ofLayers_of_ofSetting_ok hread]
    refine ⟨fun configuration => ⟨fun h => ?_, fun ⟨hc, hv⟩ => ?_⟩,
      fun configuration error hc hv => ?_, fun h => absurd ⟨composed, hcomposed⟩ h⟩
    · obtain ⟨_, hv, rfl⟩ := Except.map_eq_ok_iff.mp h
      exact ⟨hcomposed, hv⟩
    · rw [hunique configuration hc, hv]
      rfl
    · rw [hunique configuration hc, hv]
      rfl

/-- A file that has no realm, no address and no time for a request. -/
def unfinished : Files :=
  ⟨[("config.yaml", ("server:\n  listen_addr: nowhere\n  request_timeout: 0\n" ++
      "password_authenticator:\n  type: user\nauthorizer:\n  type: allow_all\n" ++
      "access_token_issuer:\n  type: jwt\nrefresh_token_issuer:\n  type: jwt\n").toUTF8)]⟩

theorem unfinished_file_is_completed :
    let environment := [("PATH", "/usr/bin"),
      ("REGISTRY_AUTH__SERVER__REALM", "https://auth.example.com/token"),
      ("REGISTRY_AUTH__SERVER__REQUEST_TIMEOUT", "30")]
    let overrides := [(ServerField.listenAddress, "127.0.0.1:8080")]
    ∃ file, Layer.ofFile unfinished "/" "config.yaml" = .ok file ∧
      (∃ server, (Setting.ofLayers [file]).lookup? "server" = some server ∧ server.IsTable) ∧
      Layer.OnlyFieldsCount environment ∧
      ∃ configuration : Configuration, configuration.Composes file environment overrides ∧
        configuration.validate = .ok () ∧
        configuration.server =
          ⟨"127.0.0.1:8080", "https://auth.example.com/token", 30, false⟩ := by
  intro environment overrides
  have he : Layer.OnlyFieldsCount environment := by
    intro entry hm hc
    simp only [environment, List.mem_cons, List.not_mem_nil, or_false] at hm
    rcases hm with rfl | rfl | rfl
    · exact absurd hc (by unfold Layer.Counts; decide +kernel)
    · exact ⟨.realm, rfl⟩
    · exact ⟨.requestTimeout, rfl⟩
  have hread : (Layer.ofFile unfinished "/" "config.yaml").toOption.any fun file =>
      ((Setting.ofLayers [file]).lookup? "server").any (fun server => decide server.IsTable) &&
        (ofLayers [file, Layer.ofEnvironment environment,
          Layer.ofFields overrides]).toOption.any fun configuration => configuration.server =
            ⟨"127.0.0.1:8080", "https://auth.example.com/token", 30, false⟩ := by
    decide +kernel
  obtain ⟨file, hf, hread⟩ := Except.any_toOption_iff.mp hread
  obtain ⟨hs, hc⟩ := Bool.and_eq_true_iff.mp hread
  obtain ⟨server, hs, ht⟩ := (Option.any_eq_true ..).mp hs
  obtain ⟨configuration, hc, hserver⟩ := Except.any_toOption_iff.mp hc
  obtain ⟨hcomposed, hv⟩ := ((layers_compose_by_field hf hs (of_decide_eq_true ht) he).1
    configuration).mp ((load_overridesOf hf environment overrides).trans hc)
  exact ⟨file, hf, ⟨server, hs, of_decide_eq_true ht⟩, he, configuration, hcomposed, hv,
    of_decide_eq_true hserver⟩

end Configuration

end RegistryAuth
