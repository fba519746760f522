import Monitra.Cli

/-!
# What the commands about the configuration do

For each program of `Cli.lean` its triple: what it leaves in the files and what it has printed, when it returns and when it fails.
The shells are those that leave no file half written.
-/

namespace Monitra

open Std.Do

/-- No write stops in the middle. -/
def Shell.Whole (shell : Shell) : Prop := ∀ n error left, shell.faults n ≠ some (.torn error left)

/-- Some operation on a file fails. -/
def Shell.Faulty (shell : Shell) : Prop := ∃ n, (shell.faults n).isSome

/-- The configuration in a file: the default one if there is no file, none if it does not parse. -/
def fileConfig (toml : Toml) (files : HashMap String String) (path : String) : Option ConfigFile :=
  match files.lookup path with
  | none => some .default
  | some contents => (toml.fromStr contents).toOption

/-- The files after a configuration was saved. -/
def Saved (toml : Toml) (path : String) (files files' : HashMap String String) (config : ConfigFile) : Prop :=
  ∃ contents, toml.toStringPretty config = .ok contents ∧ files' = files.insert path contents

/-- The files after a command that changes the configuration by `f`. It does not write what is there already. -/
def Changed (toml : Toml) (shell : Shell) (files files' : HashMap String String) (f : ConfigFile → ConfigFile) : Prop :=
  ∃ path config, xdgConfigPath shell.vars = some path ∧ fileConfig toml files path = some config ∧
    (files' = files ∧ f config = config ∨ Saved toml path files files' (f config))

/-- The configuration in effect: what the layers come to that a command finds. Without a path there is no file of the user. -/
def effective (toml : Toml) (shell : Shell) (files : HashMap String String) (configOverride : Option String)
    (flags : FlagOverrides) : Option ResolvedConfig := do
  let xdg ←
    match xdgConfigPath shell.vars with
    | some path => fileConfig toml files path
    | none => some .default
  let project ← fileConfig toml files (configOverride.getD projectConfigPath)
  return resolve ⟨some xdg, some project, gatherEnv shell.vars, flags⟩

/-- The configuration in effect for a daemon that is booted. -/
def bootConfig (toml : Toml) (shell : Shell) (files : HashMap String String) (config : Option String)
    (retentionDays : Option UInt64) : Option ResolvedConfig :=
  effective toml shell files config { FlagOverrides.default with retentionDays := retentionDays.map toString }

/-- A token was generated: it is in the configuration file, which had none, and it was printed. -/
def TokenGenerated (toml : Toml) (shell : Shell) (host : Host) (files : HashMap String String) (m : Machine) : Prop :=
  ∃ path config, xdgConfigPath shell.vars = some path ∧ fileConfig toml files path = some config ∧ config.apiToken = none ∧
    Saved toml path files m.files { config with apiToken := some (generateApiToken host.randomBytes) } ∧
    generatedLine (generateApiToken host.randomBytes) ∈ m.stdout

/-- A daemon is what its configuration says. -/
structure BootedFrom (host : Host) (resolved : ResolvedConfig) (daemon : Daemon) : Prop where
  store : resolved.store.value = none
  cache : resolved.cache.value = none
  token : daemon.token = resolved.apiToken.value.getD (generateApiToken host.randomBytes)
  notifier : buildNotifier host.slackFeature resolved.notifier.value = .ok daemon.notifier
  k8s : daemon.k8sClusters = resolved.k8s.map (·.name)
  retention : (retentionOf resolved).map (· * 86400) = .ok daemon.retentionSecs

/-- What was entered at the prompt, if anything. -/
def Shell.entered (shell : Shell) : Option String :=
  match shell.stdin with
  | .ok line => if (Str.trim line).isEmpty then none else some (Str.trim line)
  | .error _ => none

/-- What booting did about the token. -/
def Tokened (toml : Toml) (shell : Shell) (host : Host) (files : HashMap String String) (resolved : ResolvedConfig) (m : Machine) :
    Prop :=
  if resolved.apiToken.value.isSome then m.files = files ∧ m.stdout = [] else TokenGenerated toml shell host files m

/-- What a command asks of the configuration. -/
def SessionCommand.asked (command : SessionCommand) (shell : Shell) (c : ConfigFile) : ConfigFile :=
  match command with
  | .setup => shell.entered.elim c fun url => { c with notifier := some url }
  | .service (.attach url) => { c with notifier := some url }
  | .service (.detach name) => ((c.cleared name).map (·.1)).getD c
  | .k8s (.attach cluster) => c.withCluster cluster
  | .k8s (.detach name) => c.withoutCluster name
  | _ => c

/-- What a command did, by its result. -/
def Did (toml : Toml) (shell : Shell) (files : HashMap String String) (command : SessionCommand)
    (result : Except String CommandOutcome) (m : Machine) : Prop :=
  match command with
  | .boot host config retentionDays =>
    match result with
    | .ok outcome => ∃ daemon resolved, outcome = .booted daemon ∧ bootConfig toml shell files config retentionDays = some resolved ∧
        BootedFrom host resolved daemon ∧ Tokened toml shell host files resolved m
    | .error _ => m.files = files ∧ m.stdout = [] ∨ TokenGenerated toml shell host files m
  | .remote _ token => m.files = files ∧ ∀ outcome, result = .ok outcome →
      ∃ bearer resolved, outcome = .bearer bearer ∧ effective toml shell files none .default = some resolved ∧
        token.or resolved.apiToken.value = some bearer
  | .service .list | .k8s .list => m.files = files
  | command =>
    match result with
    | .ok _ => Changed toml shell files m.files (command.asked shell)
    | .error _ => m.files = files

/-- The machine and the host as the world that a daemon is booted in. The files are read twice, and the user's a third time if a token
is generated. -/
def Machine.world (toml : Toml) (shell : Shell) (host : Host) (config : Option String) (m : Machine) : World :=
  let opened := (gatherSources toml shell config).exec m
  let gathered := (gatherSources toml shell config).exec opened.2
  let loaded := (loadWritableConfig toml shell).exec gathered.2
  { sourcesAtOpen := opened.1
    sources := gathered.1
    dataPath := xdgDataPath shell.vars
    createDirAll := host.createDirAll
    file := host.file
    unixepoch := host.unixepoch
    healthCheck := host.healthCheck
    randomBytes := host.randomBytes
    loadWritableConfig := loaded.1
    saveWritableConfig := fun c => ((saveWritableConfig toml shell c).exec loaded.2).1
    slackFeature := host.slackFeature }

namespace CliAux

set_option mvcgen.warning false

variable {toml : Toml} {shell : Shell} {host : Host} {fs : HashMap String String} {out : List String}

@[spec] theorem println_spec (line : String) :
    ⦃fun m => ⌜m.files = fs ∧ m.stdout = out⌝⦄ println line
    ⦃post⟨fun _ m => ⌜m.files = fs ∧ m.stdout = out ++ [line]⌝, fun _ _ => ⌜False⌝⟩⦄ := by
  mvcgen [println]
  simp_all +zetaDelta

@[spec] theorem loadFile_spec (path : String) :
    ⦃fun m => ⌜m.files = fs ∧ m.stdout = out⌝⦄ loadFile toml shell path
    ⦃post⟨fun r m => ⌜(m.files = fs ∧ m.stdout = out) ∧ fileConfig toml fs path = some (r.getD .default)⌝,
      fun _ m => ⌜(m.files = fs ∧ m.stdout = out) ∧ (shell.Faulty ∨ fileConfig toml fs path = none)⌝⟩⦄ := by
  mvcgen [loadFile, nextFault]
  case vc1 hfault => exact ⟨by simp_all +zetaDelta, Or.inl ⟨_, Option.isSome_of_eq_some hfault⟩⟩
  all_goals simp_all +zetaDelta [fileConfig, Except.toOption]

@[spec] theorem writeFile_spec (path : String) (config : ConfigFile) (hw : shell.Whole) :
    ⦃fun m => ⌜m.files = fs ∧ m.stdout = out⌝⦄ writeFile toml shell path config
    ⦃post⟨fun _ m => ⌜Saved toml path fs m.files config ∧ m.stdout = out⌝,
      fun _ m => ⌜(m.files = fs ∧ m.stdout = out) ∧ (shell.Faulty ∨ ∃ e, toml.toStringPretty config = .error e)⌝⟩⦄ := by
  mvcgen [writeFile, nextFault]
  case vc1 hfault | vc3 hfault => exact ⟨by simp_all +zetaDelta, Or.inl ⟨_, Option.isSome_of_eq_some hfault⟩⟩
  case vc4 => exact absurd ‹_› (hw _ _ _)
  all_goals simp_all +zetaDelta [Saved]

@[spec] theorem loadWritableConfig_spec :
    ⦃fun m => ⌜m.files = fs ∧ m.stdout = out⌝⦄ loadWritableConfig toml shell
    ⦃post⟨fun c m => ⌜(m.files = fs ∧ m.stdout = out) ∧
        ∃ path, xdgConfigPath shell.vars = some path ∧ fileConfig toml fs path = some c⌝,
      fun _ m => ⌜(m.files = fs ∧ m.stdout = out) ∧
        (shell.Faulty ∨ (xdgConfigPath shell.vars).bind (fileConfig toml fs) = none)⌝⟩⦄ := by
  mvcgen [loadWritableConfig, writableConfigPath]
  all_goals simp_all +zetaDelta

@[spec] theorem saveWritableConfig_spec (config : ConfigFile) (hw : shell.Whole) :
    ⦃fun m => ⌜m.files = fs ∧ m.stdout = out⌝⦄ saveWritableConfig toml shell config
    ⦃post⟨fun _ m => ⌜(∃ path, xdgConfigPath shell.vars = some path ∧ Saved toml path fs m.files config) ∧ m.stdout = out⌝,
      fun _ m => ⌜(m.files = fs ∧ m.stdout = out) ∧
        (shell.Faulty ∨ xdgConfigPath shell.vars = none ∨ ∃ e, toml.toStringPretty config = .error e)⌝⟩⦄ := by
  mvcgen [saveWritableConfig, writableConfigPath]
  all_goals simp_all +zetaDelta

/-- A file that does not exist counts as the default one. -/
theorem resolve_getD (xdg project : Option ConfigFile) (env : HashMap String String) (flags : FlagOverrides) :
    resolve ⟨some (xdg.getD .default), some (project.getD .default), env, flags⟩ = resolve ⟨xdg, project, env, flags⟩ := by
  cases xdg <;> cases project <;> simp [resolve, ConfigSources.field, layer, overlay, ConfigFile.default]

@[spec] theorem gatherSources_spec (configOverride : Option String) :
    ⦃fun m => ⌜m.files = fs ∧ m.stdout = out⌝⦄ gatherSources toml shell configOverride
    ⦃post⟨fun sources m => ⌜(m.files = fs ∧ m.stdout = out) ∧ sources.flags = .default ∧
        ∀ flags, effective toml shell fs configOverride flags = some (resolve { sources with flags })⌝,
      fun _ m => ⌜(m.files = fs ∧ m.stdout = out) ∧
        (shell.Faulty ∨ ∀ flags, effective toml shell fs configOverride flags = none)⌝⟩⦄ := by
  cases hpath : xdgConfigPath shell.vars
  all_goals
    mvcgen [gatherSources]
    all_goals simp_all [effective]
  case vc1 => exact fun flags => resolve_getD _ _ _ flags
  case vc4 => exact fun flags => resolve_getD none _ _ flags
  all_goals grind

@[spec] theorem prompt_spec (label : String) :
    ⦃fun m => ⌜m.files = fs⌝⦄ prompt shell label
    ⦃post⟨fun url m => ⌜m.files = fs ∧ url = shell.entered⌝, fun _ m => ⌜m.files = fs⌝⟩⦄ := by
  mvcgen [prompt]
  all_goals simp_all +zetaDelta [Shell.entered]

/-! ## Commands that change the configuration -/

@[spec] theorem runSetup_spec (hw : shell.Whole) :
    ⦃fun m => ⌜m.files = fs⌝⦄ runSetup toml shell
    ⦃post⟨fun _ m => ⌜Changed toml shell fs m.files fun c => shell.entered.elim c fun url => { c with notifier := some url }⌝,
      fun _ m => ⌜m.files = fs⌝⟩⦄ := by
  mvcgen [runSetup, writableConfigPath]
  all_goals simp_all [Changed]

/-- The schemes that are accepted are those of notifiers. -/
theorem category_eq_notifier {url : String} {category : ProviderCategory} (h : categoryForScheme url = .ok category) :
    category = .notifier := by
  unfold categoryForScheme at h
  dsimp only at h
  repeat' split at h
  all_goals cases h
  rfl

@[spec] theorem attachService_spec (hw : shell.Whole) (url : String) :
    ⦃fun m => ⌜m.files = fs⌝⦄ attachService toml shell url
    ⦃post⟨fun _ m => ⌜Changed toml shell fs m.files fun c => { c with notifier := some url }⌝, fun _ m => ⌜m.files = fs⌝⟩⦄ := by
  have hcategory : ∀ category, categoryForScheme url = .ok category → category = .notifier := fun _ => category_eq_notifier
  cases hpath : xdgConfigPath shell.vars
  all_goals
    mvcgen [attachService]
    all_goals simp_all [Changed]

/-- A category that had no provider is cleared without a change. -/
theorem cleared_eq_false {config config' : ConfigFile} {name : String} (h : config.cleared name = some (config', false)) :
    config' = config := by
  unfold ConfigFile.cleared at h
  repeat' split at h
  all_goals
    cases config
    simp_all

@[spec] theorem detachService_spec (hw : shell.Whole) (name : String) :
    ⦃fun m => ⌜m.files = fs⌝⦄ detachService toml shell name
    ⦃post⟨fun _ m => ⌜Changed toml shell fs m.files fun c => ((c.cleared name).map (·.1)).getD c⌝,
      fun _ m => ⌜m.files = fs⌝⟩⦄ := by
  cases hpath : xdgConfigPath shell.vars
  all_goals
    mvcgen [detachService]
    all_goals simp_all [Changed]
  exact fun _ _ => Or.inl (cleared_eq_false ‹_›)

@[spec] theorem attachCluster_spec (hw : shell.Whole) (cluster : K8sClusterConfig) :
    ⦃fun m => ⌜m.files = fs⌝⦄ attachCluster toml shell cluster
    ⦃post⟨fun _ m => ⌜Changed toml shell fs m.files fun c => c.withCluster cluster⌝, fun _ m => ⌜m.files = fs⌝⟩⦄ := by
  cases hpath : xdgConfigPath shell.vars
  all_goals
    mvcgen [attachCluster]
    all_goals simp_all [Changed]

/-- A configuration that loses no cluster is the same. -/
theorem withoutCluster_eq {config : ConfigFile} {name : String} (h : (config.withoutCluster name).k8s.length = config.k8s.length) :
    config.withoutCluster name = config := by
  rw [ConfigFile.withoutCluster] at h ⊢
  rw [List.filter_eq_self.mpr (List.length_filter_eq_length_iff.mp h)]

@[spec] theorem detachCluster_spec (hw : shell.Whole) (name : String) :
    ⦃fun m => ⌜m.files = fs⌝⦄ detachCluster toml shell name
    ⦃post⟨fun _ m => ⌜Changed toml shell fs m.files fun c => c.withoutCluster name⌝, fun _ m => ⌜m.files = fs⌝⟩⦄ := by
  cases hpath : xdgConfigPath shell.vars
  all_goals
    mvcgen [detachCluster]
    all_goals simp_all +zetaDelta [Changed]
  exact fun _ _ => Or.inl (withoutCluster_eq ‹_›)

/-! ## Commands that only show it -/

@[spec] theorem listServices_spec :
    ⦃fun m => ⌜m.files = fs⌝⦄ listServices toml shell ⦃post⟨fun _ m => ⌜m.files = fs⌝, fun _ m => ⌜m.files = fs⌝⟩⦄ := by
  mvcgen [listServices]
  all_goals simp_all

@[spec] theorem listClusters_spec :
    ⦃fun m => ⌜m.files = fs⌝⦄ listClusters toml shell ⦃post⟨fun _ m => ⌜m.files = fs⌝, fun _ m => ⌜m.files = fs⌝⟩⦄ := by
  mvcgen [listClusters] invariants
  | inv1 => post⟨fun _ m => ⌜m.files = fs⌝, fun _ m => ⌜m.files = fs⌝⟩
  | inv2 => post⟨fun _ m => ⌜m.files = fs⌝, fun _ m => ⌜m.files = fs⌝⟩
  all_goals simp_all

@[spec] theorem remoteBearer_spec (command : String) (token : Option String) :
    ⦃fun m => ⌜m.files = fs⌝⦄ remoteBearer toml shell command token
    ⦃post⟨fun bearer m => ⌜m.files = fs ∧ ∃ resolved, effective toml shell fs none .default = some resolved ∧
        token.or resolved.apiToken.value = some bearer⌝,
      fun _ m => ⌜m.files = fs⌝⟩⦄ := by
  mvcgen [remoteBearer]
  all_goals simp_all +zetaDelta

/-! ## Booting -/

/-- The configured store does not depend on the other flags. -/
theorem store_resolve {sources : ConfigSources} {flags : FlagOverrides} (h : flags.store = sources.flags.store) :
    (resolve { sources with flags }).store = (resolve sources).store := by
  simp only [resolve, ConfigSources.field, h]

@[spec] theorem openStore_spec (configOverride : Option String) :
    ⦃fun m => ⌜m.files = fs ∧ m.stdout = out⌝⦄ openStore toml shell host configOverride
    ⦃post⟨fun _ m => ⌜(m.files = fs ∧ m.stdout = out) ∧
        ∀ flags resolved, effective toml shell fs configOverride flags = some resolved → flags.store = none →
          resolved.store.value = none⌝,
      fun _ m => ⌜m.files = fs ∧ m.stdout = out⌝⟩⦄ := by
  mvcgen [openStore]
  case vc3 m h sources resolved after hnone parent hparent m' hgathered made m'' hmade db m₂ =>
    obtain ⟨rfl, rfl⟩ := h
    obtain ⟨⟨hfiles, hout⟩, hflags, heffective⟩ := hgathered
    rintro rfl -
    rw [hmade.1]
    refine ⟨⟨hfiles, hout⟩, fun flags resolved' hresolved hstore => ?_⟩
    cases (heffective flags).symm.trans hresolved
    rw [store_resolve (by rw [hflags, hstore]; rfl)]
    simpa [resolved] using hnone
  all_goals simp_all

@[spec] theorem resolveOrGenerateToken_spec (hw : shell.Whole) (resolved : ResolvedConfig) :
    ⦃fun m => ⌜m.files = fs ∧ m.stdout = out⌝⦄ resolveOrGenerateToken toml shell host resolved
    ⦃post⟨fun token m => ⌜token = resolved.apiToken.value.getD (generateApiToken host.randomBytes) ∧
        if resolved.apiToken.value.isSome then m.files = fs ∧ m.stdout = out
        else ∃ path config, xdgConfigPath shell.vars = some path ∧ fileConfig toml fs path = some config ∧
          Saved toml path fs m.files { config with apiToken := some (generateApiToken host.randomBytes) } ∧
          m.stdout = out ++ [generatedLine (generateApiToken host.randomBytes), "Written to " ++ path ++ "."]⌝,
      fun _ m => ⌜m.files = fs ∧ m.stdout = out⌝⟩⦄ := by
  cases hpath : xdgConfigPath shell.vars
  all_goals
    mvcgen [resolveOrGenerateToken, writableConfigPath]
    all_goals simp_all +zetaDelta

/-- No token resolves when there is none in the file of the user. -/
theorem apiToken_of_effective {configOverride : Option String} {flags : FlagOverrides} {resolved : ResolvedConfig} {path : String}
    {config : ConfigFile} (h : effective toml shell fs configOverride flags = some resolved)
    (hnone : resolved.apiToken.value = none) (hpath : xdgConfigPath shell.vars = some path)
    (hconfig : fileConfig toml fs path = some config) : config.apiToken = none := by
  simp only [effective, hpath, hconfig, Option.bind_eq_bind, Option.bind_some, Option.bind_eq_some_iff] at h
  obtain ⟨project, -, h⟩ := h
  cases h
  rw [apiToken_resolve] at hnone
  simp only [Option.or_eq_none_iff] at hnone
  exact hnone.2.2

theorem tokened_iff {resolved : ResolvedConfig} {m : Machine} (h : Tokened toml shell host fs resolved m) :
    m.files = fs ∧ m.stdout = [] ∨ TokenGenerated toml shell host fs m := by
  unfold Tokened at h
  split at h
  · exact Or.inl h
  · exact Or.inr h

theorem tokened_of_saved {config : Option String} {flags : FlagOverrides} {resolved : ResolvedConfig} {m₀ m : Machine}
    (hresolved : effective toml shell fs config flags = some resolved) (h₀ : m₀.files = fs ∧ m₀.stdout = [])
    (h : if resolved.apiToken.value.isSome then m.files = m₀.files ∧ m.stdout = m₀.stdout
      else ∃ path config, xdgConfigPath shell.vars = some path ∧ fileConfig toml m₀.files path = some config ∧
        Saved toml path m₀.files m.files { config with apiToken := some (generateApiToken host.randomBytes) } ∧
        m.stdout = m₀.stdout ++ [generatedLine (generateApiToken host.randomBytes), "Written to " ++ path ++ "."]) :
    Tokened toml shell host fs resolved m := by
  obtain ⟨rfl, hempty⟩ := h₀
  unfold Tokened
  split at h
  · rw [if_pos ‹_›, ← hempty]
    exact h
  · rename_i hsome
    obtain ⟨path, c, hpath, hconfig, hsaved, hout⟩ := h
    rw [if_neg hsome]
    refine ⟨path, c, hpath, hconfig, apiToken_of_effective hresolved (by simpa using hsome) hpath hconfig, hsaved, ?_⟩
    simp [hout]

/-- The configuration that is gathered for booting. -/
theorem bootConfig_of_gathered {config : Option String} {retentionDays : Option UInt64} {sources : ConfigSources}
    (hflags : sources.flags = .default)
    (heffective : ∀ flags, effective toml shell fs config flags = some (resolve { sources with flags })) :
    bootConfig toml shell fs config retentionDays =
      some (resolve { sources with flags := { sources.flags with retentionDays := retentionDays.map toString } }) := by
  rw [bootConfig, heffective, hflags]

@[spec] theorem boot_spec (hw : shell.Whole) (config : Option String) (retentionDays : Option UInt64) :
    ⦃fun m => ⌜m.files = fs ∧ m.stdout = []⌝⦄ boot toml shell host config retentionDays
    ⦃post⟨fun daemon m => ⌜∃ resolved, bootConfig toml shell fs config retentionDays = some resolved ∧
        BootedFrom host resolved daemon ∧ Tokened toml shell host fs resolved m⌝,
      fun _ m => ⌜m.files = fs ∧ m.stdout = [] ∨ TokenGenerated toml shell host fs m⌝⟩⦄ := by
  mvcgen [boot]
  case vc2 m₀ h₀ db m₁ hopen sources resolved m₂ hsources days m₃ hdays u₁ m₄ hcache token m₅ htoken notifier m₆ hnotifier u₂ m₇
      hstore =>
    have hresolved : bootConfig toml shell fs config retentionDays = some resolved :=
      bootConfig_of_gathered hsources.2.1 (by simp_all)
    refine ⟨resolved, hresolved, ⟨?_, ?_, htoken.1, hnotifier.2, rfl, ?_⟩, ?_⟩
    · rw [h₀.1] at hopen
      exact hopen.2 _ _ hresolved rfl
    · have hnone := hcache.2
      unfold buildCache at hnone
      split at hnone
      · cases hnone
      · exact Option.not_isSome_iff_eq_none.mp ‹_›
    · rw [hdays.2]
      rfl
    · rw [hstore.1, hnotifier.1]
      exact tokened_of_saved hresolved (by simp_all) htoken.2
  case vc3 m₀ h₀ db m₁ hopen sources resolved m₂ hsources days m₃ hdays u₁ m₄ hcache token m₅ htoken notifier m₆ hnotifier e m₇ =>
    rintro rfl -
    have hresolved : bootConfig toml shell fs config retentionDays = some resolved :=
      bootConfig_of_gathered hsources.2.1 (by simp_all)
    rw [hnotifier.1]
    exact tokened_iff (tokened_of_saved hresolved (by simp_all) htoken.2)
  case vc4 m₀ h₀ db m₁ hopen sources resolved m₂ hsources days m₃ hdays u₁ m₄ hcache token m₅ htoken e m₆ =>
    rintro rfl -
    have hresolved : bootConfig toml shell fs config retentionDays = some resolved :=
      bootConfig_of_gathered hsources.2.1 (by simp_all)
    exact tokened_iff (tokened_of_saved hresolved (by simp_all) htoken.2)
  all_goals simp_all

/-! ## Booting in a world -/

section

open Program

variable {m : Machine}

/-- Opening the store is what it is in that world. -/
theorem exec_openStore (config : Option String) :
    (openStore toml shell host config).exec m =
      ((m.world toml shell host config).openStore, ((gatherSources toml shell config).exec m).2) := by
  simp only [openStore, exec_bind, World.openStore, Machine.world]
  generalize (gatherSources toml shell config).exec m = x
  obtain ⟨r, m₁⟩ := x
  cases r with
  | error e => rfl
  | ok sources =>
    change (ite _ _ _ : Program String Machine Db).exec m₁ = (ite _ _ _, m₁)
    split
    · rfl
    · cases xdgDataPath shell.vars with
      | none => rfl
      | some parent =>
        dsimp only
        rw [exec_bind, exec_ofExcept]
        cases host.createDirAll parent with
        | error e => rfl
        | ok _ =>
          dsimp only [Except.mapError, Host.sqliteOpen, bind, Except.bind]
          rw [exec_ofExcept]

/-- What was saved has a path. -/
theorem writable_of_saved {c : ConfigFile} {m' : Machine} (h : (saveWritableConfig toml shell c).exec m = (.ok (), m')) :
    ∃ path, xdgConfigPath shell.vars = some path := by
  rw [saveWritableConfig, exec_bind, writableConfigPath] at h
  cases hpath : xdgConfigPath shell.vars with
  | some path => exact ⟨path, rfl⟩
  | none =>
    rw [hpath] at h
    cases h

/-- So is the token. -/
theorem exec_token (config : Option String) (resolved : ResolvedConfig) {m₁ m₂ : Machine}
    (h₁ : m₁ = ((gatherSources toml shell config).exec m).2) (h₂ : m₂ = ((gatherSources toml shell config).exec m₁).2) :
    ((resolveOrGenerateToken toml shell host resolved).exec m₂).1 =
      (m.world toml shell host config).resolveOrGenerateToken resolved := by
  subst h₁ h₂
  simp only [resolveOrGenerateToken, World.resolveOrGenerateToken, Machine.world]
  cases resolved.apiToken.value with
  | some token => rfl
  | none =>
    dsimp only
    rw [exec_bind]
    generalize (loadWritableConfig toml shell).exec _ = x
    obtain ⟨r, m₃⟩ := x
    cases r with
    | error e => rfl
    | ok c =>
      dsimp only
      rw [exec_bind]
      dsimp only [bind, Except.bind]
      generalize hsave : (saveWritableConfig toml shell _).exec m₃ = x
      obtain ⟨r, m₄⟩ := x
      cases r with
      | error e => rfl
      | ok _ =>
        obtain ⟨path, hpath⟩ := writable_of_saved hsave
        simp only [writableConfigPath, hpath]
        rfl

/-- Booting is what it is in that world. -/
theorem exec_boot (config : Option String) (retentionDays : Option UInt64) :
    ((boot toml shell host config retentionDays).exec m).1 = bootDaemon (m.world toml shell host config) retentionDays := by
  have hworld : (m.world toml shell host config).sources =
    ((gatherSources toml shell config).exec ((gatherSources toml shell config).exec m).2).1 := rfl
  simp only [boot, exec_bind, exec_openStore, bootDaemon, hworld]
  cases (m.world toml shell host config).openStore with
  | error e => rfl
  | ok store =>
    have htoken := fun resolved => @exec_token toml shell host m config resolved _ _ rfl rfl
    dsimp only [bind, Except.bind]
    revert htoken
    generalize (gatherSources toml shell config).exec ((gatherSources toml shell config).exec m).2 = x
    obtain ⟨r, m₂⟩ := x
    intro htoken
    cases r with
    | error e => rfl
    | ok sources =>
      simp only [exec_ofExcept]
      generalize resolve _ = resolved
      cases retentionOf resolved with
      | error e => rfl
      | ok days =>
      cases buildCache resolved.cache.value with
      | error e => rfl
      | ok _ =>
      dsimp only
      rw [← htoken resolved]
      generalize (resolveOrGenerateToken toml shell host resolved).exec m₂ = x
      obtain ⟨r, m₃⟩ := x
      cases r with
      | error e => rfl
      | ok token =>
      dsimp only
      have hslack : (m.world toml shell host config).slackFeature = host.slackFeature := rfl
      have hhealth : (m.world toml shell host config).healthCheck = host.healthCheck := rfl
      rw [hslack, hhealth]
      cases buildNotifier host.slackFeature resolved.notifier.value with
      | error e => rfl
      | ok notifier =>
      cases (resolveStore host.healthCheck).mapError (·.text) <;> rfl

end

/-! ## All commands -/

@[spec] theorem run_spec (hw : shell.Whole) (command : SessionCommand) :
    ⦃fun m => ⌜m.files = fs ∧ m.stdout = []⌝⦄ command.run toml shell
    ⦃post⟨fun outcome m => ⌜Did toml shell fs command (.ok outcome) m⌝, fun e m => ⌜Did toml shell fs command (.error e) m⌝⟩⦄ := by
  cases command with
  | setup =>
    mvcgen [SessionCommand.run]
    all_goals simp_all [Did]
    assumption
  | service command =>
    cases command
    all_goals
      mvcgen [SessionCommand.run, runService]
      all_goals simp_all [Did]
    all_goals assumption
  | k8s command =>
    cases command
    all_goals
      mvcgen [SessionCommand.run, runK8s]
      all_goals simp_all [Did]
    all_goals assumption
  | boot host config retentionDays =>
    mvcgen [SessionCommand.run]
    all_goals simp_all [Did]
  | remote command token =>
    mvcgen [SessionCommand.run]
    all_goals simp_all [Did]

/-- What a command of a session did. -/
theorem did_of_step {m m' : Machine} {ev : List CommandRun} {command : SessionCommand} (hw : shell.Whole)
    (h : m.step toml (.run shell command) = some (m', ev)) :
    ∃ result, ev = [⟨shell, command, m, result, m'.stdout⟩] ∧ Did toml shell m.files command result m' := by
  have hrun := Program.of_triple (@run_spec toml shell m.files hw command) (s := { m with stdout := [] }) ⟨rfl, rfl⟩
  simp only [Machine.step] at h
  generalize (command.run toml shell).exec { m with stdout := [] } = x at h hrun
  obtain ⟨result, m₁⟩ := x
  cases h
  refine ⟨result, rfl, ?_⟩
  cases result <;> exact hrun

end CliAux

end Monitra
