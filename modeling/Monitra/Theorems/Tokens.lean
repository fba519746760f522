import Monitra.Theorems.Settings

/-!
# One token for good

A daemon that boots without a token generates one and keeps it in the configuration file of its user. From then on every daemon that
boots with that file comes up with it, and so does every client that takes its token from there.
-/

namespace Monitra

open Runs

/-- The token that a command came up with, if it is for the file at a path to say: it succeeded, and neither its environment nor the
file of the project, nor the command line, has a token. -/
def CommandRun.ownToken (toml : Toml) (path : String) (x : CommandRun) : Option String :=
  let silent (configOverride : Option String) : Bool :=
    x.concerns path && (x.shell.vars.lookup "MONITRA_API_TOKEN").isNone &&
      ((fileConfig toml x.before.files (configOverride.getD projectConfigPath)).bind (·.apiToken)).isNone
  match x.command, x.result with
  | .boot _ config _, .ok (.booted daemon) => if silent config then some daemon.token else none
  | .remote _ none, .ok (.bearer bearer) => if silent none then some bearer else none
  | _, _ => none

/-- A command about the file at a path that generated a token. -/
def CommandRun.generates (path : String) (x : CommandRun) : Bool := x.concerns path && x.generated.isSome

namespace TokensAux

open CliAux SettingsAux

variable {toml : Toml} {shell : Shell} {host : Host} {fs : HashMap String String} {path : String} {c : ConfigFile}

theorem lookup_gatherEnv (vars : HashMap String String) :
    (gatherEnv vars).lookup "MONITRA_API_TOKEN" = vars.lookup "MONITRA_API_TOKEN" := by
  rw [gatherEnv, HashMap.lookup_retain]
  cases vars.lookup "MONITRA_API_TOKEN" <;> rfl

/-- The token in effect, by the layers. -/
theorem apiToken_effective {configOverride : Option String} {flags : FlagOverrides} {resolved : ResolvedConfig}
    (h : effective toml shell fs configOverride flags = some resolved) (hpath : xdgConfigPath shell.vars = some path)
    (hc : fileConfig toml fs path = some c) :
    resolved.apiToken.value = (shell.vars.lookup "MONITRA_API_TOKEN").or
      (((fileConfig toml fs (configOverride.getD projectConfigPath)).bind (·.apiToken)).or c.apiToken) := by
  simp only [effective, hpath, hc, Option.bind_eq_bind, Option.bind_some, Option.bind_eq_some_iff] at h
  obtain ⟨project, hproject, h⟩ := h
  cases h
  rw [apiToken_resolve, lookup_gatherEnv, hproject]
  rfl

/-- No command but a boot touches the token. -/
theorem apiToken_asked (command : SessionCommand) : (command.asked shell c).apiToken = c.apiToken := by
  cases command with
  | setup =>
    simp only [SessionCommand.asked]
    cases shell.entered <;> rfl
  | service command =>
    cases command with
    | detach name =>
      simp only [SessionCommand.asked, ConfigFile.cleared]
      repeat' split
      all_goals rfl
    | attach | list => rfl
  | k8s command => cases command <;> rfl
  | boot | remote => rfl

theorem apiToken_after (x : CommandRun) : (c.after x).apiToken = x.generated.or c.apiToken := by
  simp only [ConfigFile.after]
  split
  · rw [apiToken_asked]
  · rfl

section

variable {m m' : Machine} {command : SessionCommand} {result : Except String CommandOutcome} {x : CommandRun}

/-- A token is generated only if there is none, and then it is the one. -/
theorem of_generated (h : Did toml shell m.files command result m') (hx : x = ⟨shell, command, m, result, m'.stdout⟩)
    (hc : fileConfig toml m.files path = some c) (hconcerns : x.concerns path = true) {token : String}
    (hg : x.generated = some token) : c.apiToken = none := by
  subst hx
  unfold CommandRun.generated at hg
  split at hg
  · rename_i host config retentionDays hcommand
    subst hcommand
    have hprinted : generatedLine (generateApiToken host.randomBytes) ∈ m'.stdout := by
      split at hg
      · assumption
      · cases hg
    have htoken : m'.files = m.files ∧ m'.stdout = [] ∨ TokenGenerated toml shell host m.files m' := by
      cases result with
      | ok outcome =>
        obtain ⟨daemon, resolved, -, -, -, htoken⟩ := h
        exact tokened_iff htoken
      | error e => exact h
    rcases htoken with ⟨-, hout⟩ | ⟨path', config', hpath, hconfig, hnone, -⟩
    · rw [hout] at hprinted
      cases hprinted
    · cases hpath.symm.trans (of_decide_eq_true hconcerns)
      cases hconfig.symm.trans hc
      exact hnone
  · cases hg

/-- A token that there is stays. -/
theorem apiToken_kept (h : Did toml shell m.files command result m') (hx : x = ⟨shell, command, m, result, m'.stdout⟩)
    (hc : fileConfig toml m.files path = some c) (hconcerns : x.concerns path = true) {token : String}
    (htoken : c.apiToken = some token) : (c.after x).apiToken = some token := by
  rw [apiToken_after]
  cases hg : x.generated with
  | none => exact htoken
  | some token' =>
    rw [of_generated h hx hc hconcerns hg] at htoken
    cases htoken

/-- The token that a daemon or a client comes up with is the one in the file afterwards. -/
theorem of_ownToken (h : Did toml shell m.files command result m') (hx : x = ⟨shell, command, m, result, m'.stdout⟩)
    (hc : fileConfig toml m.files path = some c) {token : String} (htoken : x.ownToken toml path = some token) :
    x.concerns path = true ∧ (c.after x).apiToken = some token := by
  subst hx
  unfold CommandRun.ownToken at htoken
  dsimp only at htoken
  split at htoken
  · rename_i host config retentionDays daemon
    split at htoken
    · rename_i hsilent
      cases htoken
      simp only [Bool.and_eq_true, Option.isNone_iff_eq_none] at hsilent
      obtain ⟨⟨hconcerns, henv⟩, hproject⟩ := hsilent
      obtain ⟨daemon', resolved, hdaemon, hresolved, hbooted, htokened⟩ := h
      cases hdaemon
      have hvalue := apiToken_effective hresolved (of_decide_eq_true hconcerns) hc
      rw [henv, hproject, Option.none_or, Option.none_or] at hvalue
      refine ⟨hconcerns, ?_⟩
      rw [apiToken_after, hbooted.token, hvalue]
      unfold Tokened at htokened
      rw [hvalue] at htokened
      cases htok : c.apiToken with
      | some t =>
        rw [htok] at htokened
        simp [CommandRun.generated, htokened.2]
      | none =>
        rw [htok] at htokened
        obtain ⟨_, _, _, _, _, _, hprinted⟩ := htokened
        simp [CommandRun.generated, hprinted]
    · cases htoken
  · rename_i client bearer
    split at htoken
    · rename_i hsilent
      cases htoken
      simp only [Bool.and_eq_true, Option.isNone_iff_eq_none] at hsilent
      obtain ⟨⟨hconcerns, henv⟩, hproject⟩ := hsilent
      obtain ⟨-, hbearer⟩ := h
      obtain ⟨bearer', resolved, hout, hresolved, hvalue⟩ := hbearer _ rfl
      cases hout
      rw [apiToken_effective hresolved (of_decide_eq_true hconcerns) hc, henv, hproject] at hvalue
      refine ⟨hconcerns, ?_⟩
      rw [apiToken_after]
      exact hvalue
    · cases htoken
  · cases htoken

end

/-- What holds of the commands so far and the token in the file. -/
structure OneToken (toml : Toml) (path : String) (before : Option String) (log : List CommandRun) (c : ConfigFile) : Prop where
  first : ∀ token, before = some token → c.apiToken = some token
  own : ∀ x ∈ log, ∀ token, x.ownToken toml path = some token ∨ x.concerns path = true ∧ x.generated = some token →
    c.apiToken = some token
  count : log.countP (·.generates path) ≤ if before.isNone ∧ c.apiToken.isSome then 1 else 0

/-- One more command. -/
theorem oneToken_snoc {m m' : Machine} {command : SessionCommand} {result : Except String CommandOutcome} {x : CommandRun}
    {before : Option String} {log : List CommandRun} (h : Did toml shell m.files command result m')
    (hx : x = ⟨shell, command, m, result, m'.stdout⟩) (hc : fileConfig toml m.files path = some c)
    (hI : OneToken toml path before log c) :
    OneToken toml path before (log ++ [x]) (if x.concerns path then c.after x else c) := by
  have hkept : ∀ token, c.apiToken = some token → (if x.concerns path then c.after x else c).apiToken = some token := by
    intro token htoken
    split
    · exact apiToken_kept h hx hc ‹_› htoken
    · exact htoken
  refine ⟨fun token htoken => hkept token (hI.first token htoken), fun y hy token htoken => ?_, ?_⟩
  · rcases List.mem_append.mp hy with hy | hy
    · exact hkept token (hI.own y hy token htoken)
    · cases List.mem_singleton.mp hy
      rcases htoken with htoken | ⟨hconcerns, hg⟩
      · obtain ⟨hconcerns, hown⟩ := of_ownToken h hx hc htoken
        rw [if_pos hconcerns]
        exact hown
      · rw [if_pos hconcerns, apiToken_after, hg]
        rfl
  · rw [List.countP_append, List.countP_singleton]
    have hcount := hI.count
    by_cases hgenerates : x.generates path = true
    · obtain ⟨hconcerns, hsome⟩ := Bool.and_eq_true_iff.mp hgenerates
      obtain ⟨token, hg⟩ := Option.isSome_iff_exists.mp hsome
      have hnone := of_generated h hx hc hconcerns hg
      have hbefore : before = none := Option.eq_none_iff_forall_ne_some.mpr fun t ht => by
        rw [hI.first t ht] at hnone
        cases hnone
      have hafter : (c.after x).apiToken = some token := by
        rw [apiToken_after, hg]
        rfl
      rw [hnone] at hcount
      simp only [hconcerns, if_true, hafter, hbefore, hgenerates]
      simpa using hcount
    · rw [if_neg hgenerates, Nat.add_zero]
      refine hcount.trans ?_
      cases htok : c.apiToken with
      | none => simp
      | some token => simp [hkept token htok]

end TokensAux

open CliAux SettingsAux TokensAux

/-- There is one token for good. In every session of commands by any users, with any operations on files failing but none half done,
and with others writing other files: all the daemons that boot, and all the clients, whose token is for the file at a path to say come
up with the same one, which is the one in the file at the start if there was one; and a token is generated for that file once at most,
and never if there was one. -/
theorem one_token_for_good {toml : Toml} (hround : toml.RoundTrips) {path : String} {ok : Machine → SessionAction → Prop}
    (hwhole : ∀ m shell command, ok m (.run shell command) → shell.Whole)
    (hedit : ∀ m path' contents, ok m (.edit path' contents) → path' ≠ path)
    {m₀ m : Machine} {log : List CommandRun} (h : Run (Machine.step toml) ok m₀ m log) {c₀ : ConfigFile}
    (h0 : fileConfig toml m₀.files path = some c₀) :
    (∃ token, (∀ t, c₀.apiToken = some t → t = token) ∧
        ∀ x ∈ log, ∀ t, x.ownToken toml path = some t ∨ x.concerns path = true ∧ x.generated = some t → t = token) ∧
      log.countP (·.generates path) ≤ if c₀.apiToken.isNone then 1 else 0 := by
  obtain ⟨c, -, hI⟩ : ∃ c, fileConfig toml m.files path = some c ∧ OneToken toml path c₀.apiToken log c := by
    refine h.invariant (I := fun m log => ∃ c, fileConfig toml m.files path = some c ∧ OneToken toml path c₀.apiToken log c)
      ⟨c₀, h0, fun token ht => ht, by simp, by simp⟩ ?_
    rintro m m' log ev a ⟨c, hc, hI⟩ ha hs
    cases a with
    | edit path' contents =>
      refine ⟨c, ?_, ?_⟩
      · rw [fileConfig_of_edit (hedit m path' contents ha) hs, hc]
      · cases hs
        rw [List.append_nil]
        exact hI
    | run shell command =>
      obtain ⟨result, rfl, hdid⟩ := did_of_step (hwhole m shell command ha) hs
      refine ⟨_, ?_, oneToken_snoc hdid rfl hc hI⟩
      obtain ⟨hown, hother⟩ := fileConfig_of_did path hround hdid rfl
      split
      · exact hown ‹_› hc
      · rw [hother (Bool.eq_false_of_not_eq_true ‹_›), hc]
  constructor
  · refine ⟨c.apiToken.getD "", fun t ht => ?_, fun x hx t ht => ?_⟩
    · rw [hI.first t ht, Option.getD_some]
    · rw [hI.own x hx t ht, Option.getD_some]
  · refine hI.count.trans ?_
    split
    · rw [if_pos (by tauto)]
    · exact Nat.zero_le _

open SessionExample in
theorem one_token_for_good_booted :
    ∃ m log, Run (Machine.step toml) own start m log ∧ log.map (·.ownToken toml path) = [none, some zeros, some zeros] ∧
      ∃ token, ∀ x ∈ log, ∀ t, x.ownToken toml path = some t → t = token := by
  have hsession := (run_command start (.service (.attach "webhook://host"))).trans
    ((run_command _ (.boot host none none)).trans (run_command _ (.remote "web" none)))
  refine ⟨_, _, hsession, by decide +kernel, ?_⟩
  have hstart : fileConfig toml start.files path = some .default := by decide +kernel
  obtain ⟨⟨token, -, hown⟩, -⟩ := one_token_for_good toml_roundTrips own_whole own_edit hsession hstart
  exact ⟨token, fun x hx t ht => hown x hx t (Or.inl ht)⟩

end Monitra
