import Monitra.Library.Runs
import Monitra.Lemmas.Cli

/-!
# The settings of a session

What the configuration file of a user comes to after any commands is known from what the user saw of them: which succeeded, what was
entered at a prompt, and the token that a booting daemon printed.
-/

namespace Monitra

open Runs

/-- What is saved can be read again. -/
def Toml.RoundTrips (toml : Toml) : Prop :=
  ∀ config contents, toml.toStringPretty config = .ok contents → toml.fromStr contents = .ok config

/-- A command that is about the file at a path. -/
def CommandRun.concerns (path : String) (x : CommandRun) : Bool := xdgConfigPath x.shell.vars = some path

/-- The token that a command said it generated. -/
def CommandRun.generated (x : CommandRun) : Option String :=
  match x.command with
  | .boot host _ _ =>
    if generatedLine (generateApiToken host.randomBytes) ∈ x.printed then some (generateApiToken host.randomBytes) else none
  | _ => none

/-- The configuration after a command, going by what was seen of it. -/
def ConfigFile.after (c : ConfigFile) (x : CommandRun) : ConfigFile :=
  let asked := if x.result.isOk then x.command.asked x.shell c else c
  { asked with apiToken := x.generated.or asked.apiToken }

/-- No two clusters have one name. -/
def ConfigFile.DistinctClusters (c : ConfigFile) : Prop := (c.k8s.map (·.name)).Nodup

namespace SettingsAux

variable {toml : Toml} {shell : Shell} {host : Host} {fs fs' : HashMap String String} {path : String} {c : ConfigFile}

/-- The file that was saved has what was saved, and no other file changed. -/
theorem fileConfig_of_saved (hround : toml.RoundTrips) (h : Saved toml path fs fs' c) (path' : String) :
    fileConfig toml fs' path' = if path' = path then some c else fileConfig toml fs path' := by
  obtain ⟨contents, hprint, rfl⟩ := h
  unfold fileConfig
  rw [HashMap.lookup_insert]
  by_cases hp : path' = path
  · simp [hp, hround c contents hprint, Except.toOption]
  · simp [hp]

/-- A change of the configuration, seen at a path. -/
theorem fileConfig_of_changed (hround : toml.RoundTrips) {f : ConfigFile → ConfigFile} (h : Changed toml shell fs fs' f) :
    (xdgConfigPath shell.vars = some path → fileConfig toml fs path = some c → fileConfig toml fs' path = some (f c)) ∧
      (xdgConfigPath shell.vars ≠ some path → fileConfig toml fs' path = fileConfig toml fs path) := by
  obtain ⟨path', config, hpath, hconfig, ⟨rfl, hsame⟩ | hsaved⟩ := h
  · refine ⟨fun hpath' hc => ?_, fun _ => rfl⟩
    cases hpath.symm.trans hpath'
    cases hconfig.symm.trans hc
    rw [hsame]
    exact hconfig
  · refine ⟨fun hpath' hc => ?_, fun hne => ?_⟩
    · cases hpath.symm.trans hpath'
      cases hconfig.symm.trans hc
      rw [fileConfig_of_saved hround hsaved, if_pos rfl]
    · rw [fileConfig_of_saved hround hsaved, if_neg (fun he : path = path' => hne (he ▸ hpath))]

/-- A generated token, seen at a path. -/
theorem fileConfig_of_tokenGenerated (path : String) (c : ConfigFile) (hround : toml.RoundTrips) {m : Machine}
    (h : TokenGenerated toml shell host fs m) :
    (xdgConfigPath shell.vars = some path → fileConfig toml fs path = some c →
        c.apiToken = none ∧ fileConfig toml m.files path = some { c with apiToken := some (generateApiToken host.randomBytes) }) ∧
      (xdgConfigPath shell.vars ≠ some path → fileConfig toml m.files path = fileConfig toml fs path) := by
  obtain ⟨path', config, hpath, hconfig, hnone, hsaved, -⟩ := h
  refine ⟨fun hpath' hc => ?_, fun hne => ?_⟩
  · cases hpath.symm.trans hpath'
    cases hconfig.symm.trans hc
    rw [fileConfig_of_saved hround hsaved, if_pos rfl]
    exact ⟨hnone, rfl⟩
  · rw [fileConfig_of_saved hround hsaved, if_neg (fun he : path = path' => hne (he ▸ hpath))]

/-- Without a generated token, what was asked is what is there. -/
theorem after_eq {x : CommandRun} (h : x.generated = none) : c.after x = if x.result.isOk then x.command.asked x.shell c else c := by
  simp only [ConfigFile.after, h, Option.none_or]

/-- A command that changes the configuration. -/
theorem of_changed (hround : toml.RoundTrips) {m m' : Machine} {x : CommandRun} (hg : x.generated = none)
    (h : match x.result with
      | .ok _ => Changed toml x.shell m.files m'.files (x.command.asked x.shell)
      | .error _ => m'.files = m.files) :
    (x.concerns path = true → fileConfig toml m.files path = some c → fileConfig toml m'.files path = some (c.after x)) ∧
      (x.concerns path = false → fileConfig toml m'.files path = fileConfig toml m.files path) := by
  rw [after_eq hg]
  cases hr : x.result with
  | ok outcome =>
    rw [hr] at h
    obtain ⟨hown, hother⟩ := fileConfig_of_changed hround h
    exact ⟨fun hc => hown (of_decide_eq_true hc), fun hc => hother (of_decide_eq_false hc)⟩
  | error e =>
    rw [hr] at h
    dsimp only at h
    rw [h]
    exact ⟨fun _ hc => hc, fun _ => rfl⟩

/-- A command that leaves the files. -/
theorem of_unchanged {m m' : Machine} {x : CommandRun} (hg : x.generated = none) (hasked : x.command.asked x.shell c = c)
    (h : m'.files = m.files) :
    (x.concerns path = true → fileConfig toml m.files path = some c → fileConfig toml m'.files path = some (c.after x)) ∧
      (x.concerns path = false → fileConfig toml m'.files path = fileConfig toml m.files path) := by
  rw [after_eq hg, hasked, ite_self, h]
  exact ⟨fun _ hc => hc, fun _ => rfl⟩

/-- Booting, whatever came of it. -/
theorem of_boot (hround : toml.RoundTrips) {m m' : Machine} {config : Option String} {retentionDays : Option UInt64}
    {result : Except String CommandOutcome} {x : CommandRun}
    (hx : x = ⟨shell, .boot host config retentionDays, m, result, m'.stdout⟩)
    (h : m'.files = m.files ∧ m'.stdout = [] ∨ TokenGenerated toml shell host m.files m') :
    (x.concerns path = true → fileConfig toml m.files path = some c → fileConfig toml m'.files path = some (c.after x)) ∧
      (x.concerns path = false → fileConfig toml m'.files path = fileConfig toml m.files path) := by
  rcases h with ⟨hfiles, hout⟩ | h
  · exact of_unchanged (by simp [hx, CommandRun.generated, hout]) (by rw [hx]; rfl) hfiles
  · obtain ⟨hown, hother⟩ := fileConfig_of_tokenGenerated path c hround h
    have hgenerated : x.generated = some (generateApiToken host.randomBytes) := by
      obtain ⟨_, _, _, _, _, _, hprinted⟩ := h
      simp [hx, CommandRun.generated, hprinted]
    subst hx
    refine ⟨fun hc hconfig => ?_, fun hc => hother (of_decide_eq_false hc)⟩
    rw [(hown (of_decide_eq_true hc) hconfig).2]
    simp [ConfigFile.after, hgenerated, SessionCommand.asked]

/-- What a command did, seen at a path: at its own the configuration is the one that follows from what was seen, any other file is as
it was. -/
theorem fileConfig_of_did (path : String) (hround : toml.RoundTrips) {m m' : Machine} {command : SessionCommand}
    {result : Except String CommandOutcome} (h : Did toml shell m.files command result m') {x : CommandRun}
    (hx : x = ⟨shell, command, m, result, m'.stdout⟩) :
    (x.concerns path = true → fileConfig toml m.files path = some c → fileConfig toml m'.files path = some (c.after x)) ∧
      (x.concerns path = false → fileConfig toml m'.files path = fileConfig toml m.files path) := by
  subst hx
  cases command with
  | setup => exact of_changed hround rfl h
  | service command =>
    cases command with
    | attach url => exact of_changed hround rfl h
    | detach name => exact of_changed hround rfl h
    | list => exact of_unchanged rfl rfl h
  | k8s command =>
    cases command with
    | attach cluster => exact of_changed hround rfl h
    | detach name => exact of_changed hround rfl h
    | list => exact of_unchanged rfl rfl h
  | remote command token => exact of_unchanged rfl rfl h.1
  | boot host config retentionDays =>
    refine of_boot hround rfl ?_
    cases result with
    | ok outcome =>
      obtain ⟨daemon, resolved, -, -, -, htoken⟩ := h
      exact CliAux.tokened_iff htoken
    | error e => exact h

/-- Other files are written by others. -/
theorem fileConfig_of_edit {m m' : Machine} {path' : String} {contents : Option String} {ev : List CommandRun} (hne : path' ≠ path)
    (h : m.step toml (.edit path' contents) = some (m', ev)) : fileConfig toml m'.files path = fileConfig toml m.files path := by
  cases h
  cases contents with
  | none => simp only [Option.elim, fileConfig, HashMap.lookup_erase, if_neg hne.symm]
  | some contents => simp only [Option.elim, fileConfig, HashMap.lookup_insert, if_neg hne.symm]

/-- The file at a path after a session. -/
theorem fileConfig_of_run (hround : toml.RoundTrips) {ok : Machine → SessionAction → Prop}
    (hwhole : ∀ m shell command, ok m (.run shell command) → shell.Whole)
    (hedit : ∀ m path' contents, ok m (.edit path' contents) → path' ≠ path)
    {m₀ m : Machine} {log : List CommandRun} (h : Run (Machine.step toml) ok m₀ m log) (h0 : fileConfig toml m₀.files path = some c) :
    fileConfig toml m.files path = some ((log.filter (·.concerns path)).foldl ConfigFile.after c) := by
  refine h.invariant (I := fun m log => fileConfig toml m.files path = some ((log.filter (·.concerns path)).foldl ConfigFile.after c))
    h0 fun m m' log ev a hI ha hs => ?_
  cases a with
  | edit path' contents =>
    rw [fileConfig_of_edit (hedit m path' contents ha) hs]
    cases hs
    rw [List.append_nil]
    exact hI
  | run shell command =>
    obtain ⟨result, rfl, hdid⟩ := CliAux.did_of_step (hwhole m shell command ha) hs
    obtain ⟨hown, hother⟩ := fileConfig_of_did path hround hdid rfl
    rw [List.filter_append, List.foldl_append, List.filter_singleton]
    cases hc : CommandRun.concerns path ⟨shell, command, m, result, m'.stdout⟩ with
    | true => exact hown hc hI
    | false => exact (hother hc).trans hI

/-! ## Clusters -/

theorem distinct_asked {command : SessionCommand} (h : c.DistinctClusters) : (command.asked shell c).DistinctClusters := by
  cases command with
  | setup =>
    simp only [SessionCommand.asked]
    cases shell.entered <;> exact h
  | service command =>
    cases command with
    | attach url => exact h
    | detach name =>
      simp only [SessionCommand.asked, ConfigFile.cleared]
      repeat' split
      all_goals exact h
    | list => exact h
  | k8s command =>
    cases command with
    | attach cluster =>
      simp only [SessionCommand.asked, ConfigFile.DistinctClusters, ConfigFile.withCluster, List.map_append, List.map_singleton]
      refine List.Nodup.append (h.sublist (List.filter_sublist.map _)) (List.nodup_singleton _) ?_
      simp [List.disjoint_singleton]
    | detach name => exact h.sublist (List.filter_sublist.map _)
    | list => exact h
  | boot | remote => exact h

theorem distinct_after {x : CommandRun} (h : c.DistinctClusters) : (c.after x).DistinctClusters := by
  simp only [ConfigFile.after]
  split
  · exact distinct_asked h
  · exact h

theorem distinct_foldl {log : List CommandRun} (h : c.DistinctClusters) : (log.foldl ConfigFile.after c).DistinctClusters := by
  induction log generalizing c with
  | nil => exact h
  | cons x log ih => exact ih (distinct_after h)

end SettingsAux

open SettingsAux

/-- The configuration of a user is what the commands made of it that succeeded. In every session of commands by any users, with any
operations on files failing but none half done, and with others writing other files: the file at a path has what the commands about
it asked for that succeeded, and the token that was printed if one was generated. A command that fails changes nothing else, and no
two clusters ever have one name. -/
theorem settings_are_what_was_commanded {toml : Toml} (hround : toml.RoundTrips) {path : String}
    {ok : Machine → SessionAction → Prop}
    (hwhole : ∀ m shell command, ok m (.run shell command) → shell.Whole)
    (hedit : ∀ m path' contents, ok m (.edit path' contents) → path' ≠ path)
    {m₀ m : Machine} {log : List CommandRun} (h : Run (Machine.step toml) ok m₀ m log) {c₀ : ConfigFile}
    (h0 : fileConfig toml m₀.files path = some c₀) :
    let c := (log.filter (·.concerns path)).foldl ConfigFile.after c₀
    fileConfig toml m.files path = some c ∧ (c₀.DistinctClusters → c.DistinctClusters) :=
  ⟨fileConfig_of_run hround hwhole hedit h h0, distinct_foldl⟩

namespace SessionExample

def attached : ConfigFile := { ConfigFile.default with notifier := some "webhook://host" }

/-- The token of 32 zero bytes. -/
def zeros : String := "0000000000000000000000000000000000000000000000000000000000000000"

def booted : ConfigFile := { attached with apiToken := some zeros }

def cluster : K8sClusterConfig := { name := "prod", kubeconfig := "/root/.kube/config", context := none, nameSpace := none }

def clustered : ConfigFile := booted.withCluster cluster

/-- The configurations of the example, as they are written. -/
def written : List (ConfigFile × String) :=
  let attachedText := "notifier = \"webhook://host\"\n"
  let bootedText := attachedText ++ "api_token = \"" ++ zeros ++ "\"\n"
  [(.default, ""), (attached, attachedText), (booted, bootedText),
    (clustered, bootedText ++ "\n[[k8s]]\nname = \"prod\"\nkubeconfig = \"/root/.kube/config\"\n")]

def toml : Toml where
  toStringPretty config := ((written.find? fun x => x.1 = config).map (·.2)).elim (.error "not in the example") .ok
  fromStr contents := ((written.find? fun x => x.2 = contents).map (·.1)).elim (.error "not in the example") .ok

theorem toml_roundTrips : toml.RoundTrips := by
  intro config contents h
  have hread : ∀ x ∈ written, toml.fromStr x.2 = .ok x.1 := by decide +kernel
  simp only [toml] at h
  cases hfind : written.find? fun x => decide (x.1 = config) with
  | none =>
    rw [hfind] at h
    cases h
  | some x =>
    rw [hfind] at h
    cases h
    have hconfig := List.find?_some hfind
    rw [← of_decide_eq_true hconfig]
    exact hread x (List.mem_of_find?_eq_some hfind)

def shell : Shell := ⟨(∅ : HashMap String String).insert "HOME" "/root", fun _ => none, .ok "", .ok ()⟩

/-- A host with a new database, and a build with all features. -/
def host : Host := ⟨fun _ => .ok (), .ok Sql.Database.empty, 1700000000, .ok (), Vector.replicate 32 0, true⟩

def path : String := "/root/.config/monitra/config.toml"

def start : Machine := ⟨∅, [], 0⟩

/-- Commands of the one user. -/
def own (_ : Machine) (a : SessionAction) : Prop := ∃ command, a = .run shell command

theorem own_whole : ∀ m shell' command, own m (.run shell' command) → shell'.Whole := by
  rintro m shell' command ⟨command', h⟩
  cases h
  exact nofun

theorem own_edit : ∀ m path' contents, own m (.edit path' contents) → path' ≠ path := by
  rintro m path' contents ⟨command', h⟩
  cases h

/-- A command of the user, run. -/
theorem run_command (m : Machine) (command : SessionCommand) :
    Run (Machine.step toml) own m (after (Machine.step toml) always m [.run shell command]).1
      (after (Machine.step toml) always m [.run shell command]).2 := Run.single ⟨command, rfl⟩ rfl

end SessionExample

open SessionExample in
/-- Of four commands the second is refused, and the third is a boot that prints a token. -/
theorem settings_are_what_was_commanded_session :
    ∃ m log, Run (Machine.step toml) own start m log ∧ log.map (·.result.isOk) = [true, false, true, true] ∧
      log.map (·.generated) = [none, none, some zeros, none] ∧ fileConfig toml m.files path = some clustered := by
  have hsession := (run_command start (.service (.attach "webhook://host"))).trans
    ((run_command _ (.service (.detach "queue"))).trans
      ((run_command _ (.boot host none none)).trans (run_command _ (.k8s (.attach cluster)))))
  have hstart : fileConfig toml start.files path = some .default := by decide +kernel
  have hsettings := (settings_are_what_was_commanded toml_roundTrips own_whole own_edit hsession hstart).1
  exact ⟨_, _, hsession, by decide +kernel, by decide +kernel, hsettings.trans (by decide +kernel)⟩

end Monitra
