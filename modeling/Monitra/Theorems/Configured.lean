import Monitra.Theorems.Tokens

/-!
# The daemon that was configured

What boots on a machine where everything works is the daemon that the commands before it asked for: its sink is the notifier that was
set last, it watches the clusters that are attached, and its token is the one that was generated first. What stops it is a notifier
that cannot be built, or a retention that is out of range.
-/

namespace Monitra

open Runs

/-- A host on which a daemon boots with a database. -/
structure Host.Opens (host : Host) (shell : Shell) (db : Db) : Prop where
  path : ∃ parent, xdgDataPath shell.vars = some parent ∧ host.createDirAll parent = .ok () ∧
    host.sqliteOpen (parent ++ "/monitra.db") = .ok db
  healthy : host.healthCheck = .ok ()

/-- No variable of the environment configures anything. -/
def Shell.Silent (shell : Shell) : Prop := ∀ key, (gatherEnv shell.vars).lookup key = none

/-- A configuration can be written. -/
def Toml.Prints (toml : Toml) (c : ConfigFile) : Prop := ∃ contents, toml.toStringPretty c = .ok contents

/-- A configuration that leaves to the defaults what no command sets. -/
structure ConfigFile.Embedded (c : ConfigFile) : Prop where
  store : c.store = none
  cache : c.cache = none
  retentionDays : c.retentionDays = none

/-- A command that, if it set a notifier, attached it by a URL and not by a bare scheme. -/
def CommandRun.Attached (x : CommandRun) : Prop :=
  x.result.isOk = true → match x.command with
    | .setup => x.shell.entered = none
    | .service (.attach url) => (Str.splitOnce "://" url).isSome
    | _ => True

/-- What comes of booting with a configuration, where everything works. -/
def ConfigFile.bootResult (c : ConfigFile) (host : Host) (db : Db) (retentionDays : Option UInt64) : Except String CommandOutcome :=
  let days := retentionDays.getD 7
  if 1 ≤ days ∧ days ≤ 3650 then
    (buildNotifier host.slackFeature c.notifier).map fun notifier => .booted {
      store := db, token := c.apiToken.getD (generateApiToken host.randomBytes), notifier,
      k8sClusters := c.k8s.map (·.name), retentionSecs := days * 86400 }
  else .error "config: retention_days must be in 1..=3650"

namespace ConfiguredAux

open CliAux SettingsAux Program

variable {toml : Toml} {shell : Shell} {host : Host} {m : Machine} {path : String} {c : ConfigFile} {db : Db}

/-! ## What no command sets -/

theorem embedded_after {x : CommandRun} (h : c.Embedded) : (c.after x).Embedded := by
  have hasked : ∀ command : SessionCommand, (command.asked x.shell c).Embedded := by
    intro command
    cases command with
    | setup =>
      simp only [SessionCommand.asked]
      cases x.shell.entered with
      | none => exact h
      | some url => exact ⟨h.store, h.cache, h.retentionDays⟩
    | service command =>
      cases command with
      | attach url => exact ⟨h.store, h.cache, h.retentionDays⟩
      | detach name =>
        simp only [SessionCommand.asked, ConfigFile.cleared]
        repeat' split
        · exact ⟨rfl, h.cache, h.retentionDays⟩
        · exact ⟨h.store, rfl, h.retentionDays⟩
        · exact ⟨h.store, h.cache, h.retentionDays⟩
        · exact h
      | list => exact h
    | k8s command =>
      cases command with
      | attach | detach => exact ⟨h.store, h.cache, h.retentionDays⟩
      | list => exact h
    | boot | remote => exact h
  unfold ConfigFile.after
  dsimp only
  split
  · exact ⟨(hasked _).store, (hasked _).cache, (hasked _).retentionDays⟩
  · exact ⟨h.store, h.cache, h.retentionDays⟩

theorem embedded_foldl {log : List CommandRun} (h : c.Embedded) : (log.foldl ConfigFile.after c).Embedded := by
  induction log generalizing c with
  | nil => exact h
  | cons x log ih => exact ih (embedded_after h)

/-! ## Booting where everything works -/

/-- A field in effect: that of the highest layer that has it. -/
theorem value_field (sources : ConfigSources) (pick : ConfigFile → Option String) (key : String) (flag : Option String) :
    (sources.field pick key flag).value =
      flag.or ((sources.env.lookup key).or ((sources.project.bind pick).or (sources.xdg.bind pick))) := by
  simp only [ConfigSources.field, layer, overlay]
  cases flag <;> cases sources.env.lookup key <;> cases sources.project.bind pick <;> cases sources.xdg.bind pick <;> rfl

/-- The configuration in effect is the user's when no other layer has any. -/
theorem effective_silent (hsilent : shell.Silent) (hpath : xdgConfigPath shell.vars = some path)
    (hc : fileConfig toml m.files path = some c) (hproject : fileConfig toml m.files projectConfigPath = some .default)
    (flags : FlagOverrides) :
    ∃ resolved, effective toml shell m.files none flags = some resolved ∧
      resolved.store.value = flags.store.or c.store ∧ resolved.cache.value = flags.cache.or c.cache ∧
      resolved.notifier.value = flags.notifier.or c.notifier ∧ resolved.apiToken.value = c.apiToken ∧
      resolved.retentionDays.value = flags.retentionDays.or (c.retentionDays.map toString) ∧ resolved.k8s = c.k8s := by
  refine ⟨resolve ⟨some c, some .default, gatherEnv shell.vars, flags⟩, ?_, ?_⟩
  · simp only [effective, hpath, Option.getD_none, hproject, hc]
    rfl
  · simp only [resolve, value_field, hsilent _]
    simp [ConfigFile.default]

section

variable (hfaults : ¬shell.Faulty)

include hfaults

/-- Without faults, the layers are gathered. -/
theorem exec_gatherSources {configOverride : Option String}
    (heffective : ∀ flags, ∃ resolved, effective toml shell m.files configOverride flags = some resolved) :
    ∃ sources m', (gatherSources toml shell configOverride).exec m = (.ok sources, m') ∧ m'.files = m.files ∧
      sources.flags = .default ∧
        ∀ flags, effective toml shell m.files configOverride flags = some (resolve { sources with flags }) := by
  have h := of_triple (@gatherSources_spec toml shell m.files m.stdout configOverride)
    (s := m) ⟨rfl, rfl⟩
  generalize (gatherSources toml shell configOverride).exec m = x at h
  obtain ⟨r, m'⟩ := x
  cases r with
  | ok sources => exact ⟨sources, m', rfl, h.1.1, h.2⟩
  | error e =>
    rcases h.2 with hfaulty | hnone
    · exact absurd hfaulty hfaults
    · obtain ⟨resolved, hresolved⟩ := heffective .default
      rw [hnone] at hresolved
      cases hresolved

/-- Without faults, the user's configuration is read. -/
theorem exec_loadWritableConfig (hpath : xdgConfigPath shell.vars = some path) (hc : fileConfig toml m.files path = some c) :
    ∃ m', (loadWritableConfig toml shell).exec m = (.ok c, m') ∧ m'.files = m.files := by
  have h := of_triple (@loadWritableConfig_spec toml shell m.files m.stdout) (s := m) ⟨rfl, rfl⟩
  generalize (loadWritableConfig toml shell).exec m = x at h
  obtain ⟨r, m'⟩ := x
  cases r with
  | ok c' =>
    obtain ⟨⟨hfiles, -⟩, path', hpath', hc'⟩ := h
    cases hpath.symm.trans hpath'
    cases hc.symm.trans hc'
    exact ⟨m', rfl, hfiles⟩
  | error e =>
    rcases h.2 with hfaulty | hnone
    · exact absurd hfaulty hfaults
    · rw [hpath, Option.bind_some, hc] at hnone
      cases hnone

/-- Without faults, it is written if it can be. -/
theorem exec_saveWritableConfig (hpath : xdgConfigPath shell.vars = some path) (hprints : toml.Prints c) :
    ((saveWritableConfig toml shell c).exec m).1 = .ok () := by
  have hw : shell.Whole := fun n error left hn => hfaults ⟨n, Option.isSome_of_eq_some hn⟩
  have h := of_triple (@saveWritableConfig_spec toml shell m.files m.stdout c hw)
    (s := m) ⟨rfl, rfl⟩
  generalize (saveWritableConfig toml shell c).exec m = x at h
  obtain ⟨r, m'⟩ := x
  cases r with
  | ok _ => rfl
  | error e =>
    obtain ⟨contents, hcontents⟩ := hprints
    rcases h.2 with hfaulty | hnone | ⟨e, he⟩
    · exact absurd hfaulty hfaults
    · rw [hpath] at hnone
      cases hnone
    · rw [hcontents] at he
      cases he

/-- The world of a machine where everything works. -/
theorem world_ready (hprints : toml.Prints { c with apiToken := some (generateApiToken host.randomBytes) })
    (hopens : host.Opens shell db) (hsilent : shell.Silent)
    (hpath : xdgConfigPath shell.vars = some path) (hc : fileConfig toml m.files path = some c) (hembedded : c.Embedded)
    (hproject : fileConfig toml m.files projectConfigPath = some .default) (flags : FlagOverrides) :
    (m.world toml shell host none).openStore = .ok db ∧
      ∃ sources, (m.world toml shell host none).sources = .ok sources ∧ sources.flags = .default ∧
        effective toml shell m.files none flags = some (resolve { sources with flags }) ∧
        ∀ resolved, resolved.apiToken.value = c.apiToken → (m.world toml shell host none).resolveOrGenerateToken resolved =
          .ok (c.apiToken.getD (generateApiToken host.randomBytes)) := by
  have heffective := fun flags => effective_silent hsilent hpath hc hproject flags
  obtain ⟨sources, m₁, hopened, hfiles, hflags, hsources⟩ :=
    exec_gatherSources hfaults fun flags => (heffective flags).imp fun _ h => h.1
  obtain ⟨sources', m₂, hgathered, hfiles', hflags', hsources'⟩ :=
    exec_gatherSources (m := m₁) hfaults (by rw [hfiles]; exact fun flags => (heffective flags).imp fun _ h => h.1)
  rw [hfiles] at hsources' hfiles'
  obtain ⟨m₃, hloaded, hfiles₃⟩ := exec_loadWritableConfig (m := m₂) hfaults hpath (by rw [hfiles']; exact hc)
  obtain ⟨parent, hparent, hdir, hdb⟩ := hopens.path
  constructor
  · obtain ⟨resolved, hresolved, hstore, -⟩ := heffective sources.flags
    cases (hsources sources.flags).symm.trans hresolved
    have hnone : (resolve sources).store.value = none := hstore.trans (by rw [hflags, hembedded.store]; rfl)
    simp only [World.openStore, Machine.world, hopened, hparent, hdir]
    change ite _ _ _ = _
    rw [hnone]
    exact hdb
  · refine ⟨sources', by simp only [Machine.world, hopened, hgathered], hflags', hsources' flags, fun resolved htoken => ?_⟩
    simp only [World.resolveOrGenerateToken, Machine.world, hopened, hgathered, hloaded, htoken]
    cases c.apiToken with
    | some token => rfl
    | none =>
      change (do
        ((saveWritableConfig toml shell { c with apiToken := some (generateApiToken host.randomBytes) }).exec m₃).1
        return generateApiToken host.randomBytes) = _
      rw [exec_saveWritableConfig hfaults hpath hprints]
      rfl

end

/-- Without a retention of its own, a configuration is kept for seven days, or for what the flag says. -/
theorem retentionOf_flag {resolved : ResolvedConfig} {retentionDays : Option UInt64}
    (h : resolved.retentionDays.value = retentionDays.map toString) :
    retentionOf resolved =
      if 1 ≤ retentionDays.getD 7 ∧ retentionDays.getD 7 ≤ 3650 then .ok (retentionDays.getD 7)
      else .error "config: retention_days must be in 1..=3650" := by
  have hparse : Str.parseU64 (resolved.retentionDays.value.getD "7") = .ok (retentionDays.getD 7) := by
    rw [h]
    cases retentionDays with
    | none => decide
    | some days => exact Str.parseU64_toString days
  rw [retentionOf, hparse]
  rfl

/-- In a world that lets it, booting is a matter of the retention and of the notifier. -/
theorem bootDaemon_eq {w : World} {store : Db} {sources : ConfigSources} {resolved : ResolvedConfig} {token : String}
    {retentionDays : Option UInt64} (hstore : w.openStore = .ok store) (hsources : w.sources = .ok sources)
    (hresolved : resolve { sources with flags := { sources.flags with retentionDays := retentionDays.map toString } } = resolved)
    (hcache : resolved.cache.value = none) (htoken : w.resolveOrGenerateToken resolved = .ok token)
    (hhealth : w.healthCheck = .ok ()) :
    bootDaemon w retentionDays = do
      let days ← retentionOf resolved
      let notifier ← buildNotifier w.slackFeature resolved.notifier.value
      return { store, token, notifier, k8sClusters := resolved.k8s.map (·.name), retentionSecs := days * 86400 } := by
  unfold bootDaemon
  rw [hstore, hsources]
  dsimp only [bind, Except.bind]
  rw [hresolved]
  cases retentionOf resolved with
  | error e => rfl
  | ok days =>
    rw [hcache, htoken, hhealth]
    rfl

/-- What comes of booting where everything works. -/
theorem bootDaemon_ready (hfaults : ¬shell.Faulty)
    (hprints : toml.Prints { c with apiToken := some (generateApiToken host.randomBytes) }) (hopens : host.Opens shell db)
    (hsilent : shell.Silent)
    (hpath : xdgConfigPath shell.vars = some path) (hc : fileConfig toml m.files path = some c) (hembedded : c.Embedded)
    (hproject : fileConfig toml m.files projectConfigPath = some .default) (retentionDays : Option UInt64) :
    (bootDaemon (m.world toml shell host none) retentionDays).map .booted = c.bootResult host db retentionDays := by
  obtain ⟨hstore, sources, hsources, hflags, hresolved, htoken⟩ :=
    world_ready hfaults hprints hopens hsilent hpath hc hembedded hproject
      { FlagOverrides.default with retentionDays := retentionDays.map toString }
  obtain ⟨resolved, hresolved', -, hcache, hnotifier, hapiToken, hretention, hk8s⟩ :=
    effective_silent hsilent hpath hc hproject { FlagOverrides.default with retentionDays := retentionDays.map toString }
  rw [hembedded.retentionDays, Option.map_none, Option.or_none] at hretention
  rw [hembedded.cache] at hcache
  have hbooting := Option.some_inj.mp (hresolved.symm.trans hresolved')
  rw [← hflags] at hbooting
  rw [bootDaemon_eq hstore hsources hbooting hcache (htoken resolved hapiToken) hopens.healthy, retentionOf_flag hretention, hnotifier,
    hk8s]
  have hslack : (m.world toml shell host none).slackFeature = host.slackFeature := rfl
  rw [ConfigFile.bootResult, hslack]
  dsimp only
  split
  · change Except.map _ (Except.bind (buildNotifier host.slackFeature c.notifier) _) = _
    cases buildNotifier host.slackFeature c.notifier <;> rfl
  · rfl

/-! ## Notifiers that were attached -/

/-- A URL that is attached is of a scheme that is known. -/
def KnownScheme (x : CommandRun) : Prop :=
  ∀ url, x.command = .service (.attach url) → x.result.isOk = true → categoryForScheme url = .ok .notifier

theorem knownScheme_of_step {m' : Machine} {ev : List CommandRun} {a : SessionAction} (hs : m.step toml a = some (m', ev)) :
    ∀ x ∈ ev, KnownScheme x := by
  cases a with
  | edit path contents =>
    cases hs
    exact List.forall_mem_nil _
  | run shell command =>
    cases hs
    rw [List.forall_mem_singleton]
    rintro url hcommand hok
    cases hcommand
    cases hcategory : categoryForScheme url with
    | ok category => rw [category_eq_notifier hcategory]
    | error e =>
      have hrefused : ((SessionCommand.run toml shell (.service (.attach url))).exec { m with stdout := [] }).1 = .error e.text := by
        simp only [SessionCommand.run, runService, attachService, hcategory]
        rfl
      change Except.isOk ((SessionCommand.run toml shell (.service (.attach url))).exec { m with stdout := [] }).1 = true at hok
      rw [hrefused] at hok
      cases hok

/-- A URL of a known scheme is a notifier that can be built. -/
theorem buildNotifier_of_scheme {url : String} (h : categoryForScheme url = .ok .notifier)
    (hsplit : (Str.splitOnce "://" url).isSome) : ∃ notifier, buildNotifier true (some url) = .ok notifier := by
  obtain ⟨⟨scheme, rest⟩, hsplit⟩ := Option.isSome_iff_exists.mp hsplit
  have hstarts := Str.startsWith_of_splitOnce hsplit
  have hscheme : scheme = "slack" ∨ scheme = "webhook" := by
    simp only [categoryForScheme, hsplit, Option.map_some, Option.getD_some] at h
    split at h
    · cases h
    · split at h
      · cases h
      · split at h
        · assumption
        · cases h
  unfold buildNotifier
  dsimp only
  split
  · exact ⟨_, rfl⟩
  · rcases hscheme with rfl | rfl
    · exact ⟨_, if_pos hstarts⟩
    · contradiction

/-- The notifier of a configuration, if it has one, can be built with all features. -/
def Buildable (c : ConfigFile) : Prop := ∃ notifier, buildNotifier true c.notifier = .ok notifier

theorem buildable_after {x : CommandRun} (hknown : KnownScheme x) (hattached : x.Attached) (h : Buildable c) : Buildable (c.after x) := by
  have hafter : (c.after x).notifier = (if x.result.isOk then x.command.asked x.shell c else c).notifier := rfl
  unfold Buildable
  rw [hafter]
  split
  · rename_i hok
    have hattached := hattached hok
    cases hcommand : x.command with
    | setup =>
      rw [hcommand] at hattached
      simp only [SessionCommand.asked]
      rw [hattached]
      exact h
    | service command =>
      cases command with
      | attach url =>
        rw [hcommand] at hattached
        exact buildNotifier_of_scheme (hknown url hcommand hok) hattached
      | detach name =>
        simp only [SessionCommand.asked, ConfigFile.cleared]
        repeat' split
        · exact h
        · exact h
        · exact ⟨_, rfl⟩
        · exact h
      | list => exact h
    | k8s command => cases command <;> exact h
    | boot | remote => exact h
  · exact h

theorem buildable_foldl {log : List CommandRun} (hknown : ∀ x ∈ log, KnownScheme x) (hattached : ∀ x ∈ log, x.Attached)
    (h : Buildable c) : Buildable (log.foldl ConfigFile.after c) := by
  induction log generalizing c with
  | nil => exact h
  | cons x log ih =>
    rw [List.forall_mem_cons] at hknown hattached
    exact ih hknown.2 hattached.2 (buildable_after hknown.1 hattached.1 h)

end ConfiguredAux

open CliAux SettingsAux ConfiguredAux Program

/-- What boots is the daemon that was configured. After every session of commands by any users, with any operations on files failing
but none half done, from a user's configuration that leaves to the defaults what no command sets: booting, where everything works and
nothing else configures the daemon, gives the daemon with the notifier that the commands set last, the clusters that they attached,
the token that there was and else a new one, and the retention of the flag; or the error about that retention or notifier. With
nothing but attached URLs and all features, there is no such error about the notifier. -/
theorem the_configured_daemon_boots {toml : Toml} (hround : toml.RoundTrips) {path : String}
    {ok : Machine → SessionAction → Prop}
    (hwhole : ∀ m shell command, ok m (.run shell command) → shell.Whole)
    (hedit : ∀ m path' contents, ok m (.edit path' contents) → path' ≠ path)
    {m₀ m : Machine} {log : List CommandRun} (h : Run (Machine.step toml) ok m₀ m log) {c₀ : ConfigFile}
    (h0 : fileConfig toml m₀.files path = some c₀) (hembedded : c₀.Embedded)
    {shell : Shell} (hfaults : ¬shell.Faulty) (hsilent : shell.Silent) (hpath : xdgConfigPath shell.vars = some path)
    (hproject : fileConfig toml m.files projectConfigPath = some .default) {host : Host} {db : Db} (hopens : host.Opens shell db)
    (retentionDays : Option UInt64) {m' : Machine} {x : CommandRun}
    (hs : m.step toml (.run shell (.boot host none retentionDays)) = some (m', [x])) :
    let c := (log.filter (·.concerns path)).foldl ConfigFile.after c₀
    toml.Prints { c with apiToken := some (generateApiToken host.randomBytes) } →
    x.result = c.bootResult host db retentionDays ∧
      (host.slackFeature = true → c₀.notifier = none → (∀ y ∈ log, y.Attached) →
        1 ≤ retentionDays.getD 7 → retentionDays.getD 7 ≤ 3650 → x.result.isOk = true) := by
  intro c hprints
  have hc : fileConfig toml m.files path = some c := fileConfig_of_run hround hwhole hedit h h0
  have hresult : x.result = c.bootResult host db retentionDays := by
    rw [← bootDaemon_ready (m := { m with stdout := [] }) hfaults hprints hopens hsilent hpath hc (embedded_foldl hembedded) hproject
      retentionDays, ← exec_boot]
    simp only [Machine.step, SessionCommand.run, exec_bind] at hs
    generalize (boot toml shell host none retentionDays).exec { m with stdout := [] } = y at hs ⊢
    obtain ⟨r, m₁⟩ := y
    cases r <;>
      cases hs
    · rfl
    · rfl
  refine ⟨hresult, fun hslack hnone hattached hlow hhigh => ?_⟩
  have hknown : ∀ y ∈ log, KnownScheme y := by
    refine h.invariant (I := fun _ log => ∀ y ∈ log, KnownScheme y) (List.forall_mem_nil _) fun m m' log ev a hI ha hs => ?_
    rw [List.forall_mem_append]
    exact ⟨hI, knownScheme_of_step hs⟩
  have hbuildable : Buildable c := buildable_foldl (fun y hy => hknown y (List.mem_filter.mp hy).1)
    (fun y hy => hattached y (List.mem_filter.mp hy).1) ⟨_, by rw [hnone]; rfl⟩
  obtain ⟨notifier, hnotifier⟩ := hbuildable
  rw [hresult, ConfigFile.bootResult, hslack, hnotifier, if_pos ⟨hlow, hhigh⟩]
  rfl

open SessionExample in
theorem the_configured_daemon_boots_attached :
    ∃ m log m' x db, Machine.step toml start (.run shell (.service (.attach "webhook://host"))) = some (m, log) ∧
      m.step toml (.run shell (.boot host none none)) = some (m', [x]) ∧
      x.result = attached.bootResult host db none ∧ x.result.isOk = true := by
  obtain ⟨m, log, hs⟩ : ∃ m log, Machine.step toml start (.run shell (.service (.attach "webhook://host"))) = some (m, log) :=
    ⟨_, _, rfl⟩
  have hrun : Run (Machine.step toml) own start m log := Run.single ⟨_, rfl⟩ hs
  have hstart : fileConfig toml start.files path = some .default := by decide +kernel
  obtain ⟨m', x, hboot⟩ :
      ∃ m' x, m.step toml (.run shell (.boot host none none)) = some (m', [x]) := ⟨_, _, rfl⟩
  obtain ⟨db, hdb⟩ : ∃ db, host.sqliteOpen "/root/.local/share/monitra/monitra.db" = .ok db := by
    have hopen : (host.sqliteOpen "/root/.local/share/monitra/monitra.db").isOk = true := by decide +kernel
    cases h : host.sqliteOpen "/root/.local/share/monitra/monitra.db" with
    | ok db => exact ⟨db, rfl⟩
    | error e =>
      rw [h] at hopen
      cases hopen
  have hempty : gatherEnv shell.vars = ∅ := AList.ext (by decide +kernel)
  have hsilent : shell.Silent := fun key => by
    rw [hempty]
    rfl
  have hfaults : ¬shell.Faulty := by
    rintro ⟨n, hn⟩
    cases hn
  have hattached : ∀ y ∈ log, y.Attached := by
    cases hs
    rw [List.forall_mem_singleton]
    exact fun _ => by decide +kernel
  have hfold : (log.filter (·.concerns path)).foldl ConfigFile.after .default = attached := by
    cases hs
    decide +kernel
  have hbooted := the_configured_daemon_boots toml_roundTrips own_whole own_edit hrun hstart ⟨rfl, rfl, rfl⟩ hfaults hsilent
    (by decide +kernel) (by cases hs; decide +kernel) ⟨⟨"/root/.local/share/monitra", by decide +kernel, rfl, hdb⟩, rfl⟩ none hboot
  dsimp only at hbooted
  rw [hfold] at hbooted
  have htoken : generateApiToken host.randomBytes = zeros := by decide +kernel
  rw [htoken] at hbooted
  obtain ⟨hresult, hok⟩ := hbooted ⟨"notifier = \"webhook://host\"\napi_token = \"" ++ zeros ++ "\"\n", by decide +kernel⟩
  exact ⟨m, log, m', x, db, hs, hboot, hresult, hok rfl rfl hattached (by decide) (by decide)⟩

end Monitra
