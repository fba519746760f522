import Monitra.Lemmas.Tab

/-!
# What a tab shows

A snapshot on the screen is the last one that was fetched for the dashboard it is on, with what the daemon answered, and it is called
live unless a fetch has failed since. The token is read from the storage at every fetch: a tab that cannot store it shows nothing.
-/

namespace Monitra

open Runs Serde

open Web RouterAux TabAux

namespace BrowserAux

variable {V : Type} {browser : Browser V} {path : String}

/-! ## The last snapshot of a dashboard -/

/-- The snapshot is the last one that was fetched for the dashboard, and it is live when no fetch has failed since. -/
def Last (log : List Settled) (mount : Nat) (snapshot : Snapshot) (live : Prop) : Prop :=
  ∃ earlier x later, log = earlier ++ x :: later ∧ x.refresh.mount = mount ∧ x.result = .ok snapshot ∧
    (∀ y ∈ later, y.refresh.mount = mount → y.result.isOk = false) ∧
      (live ↔ ∀ y ∈ later, y.refresh.mount = mount → y.unauthorized = true)

theorem Last.append {log : List Settled} {mount : Nat} {snapshot : Snapshot} {live live' : Prop} {y : Settled}
    (h : Last log mount snapshot live) (hy : y.refresh.mount = mount → y.result.isOk = false)
    (hlive : live' ↔ live ∧ (y.refresh.mount = mount → y.unauthorized = true)) : Last (log ++ [y]) mount snapshot live' := by
  obtain ⟨earlier, x, later, rfl, hmount, hresult, hnone, hall⟩ := h
  refine ⟨earlier, x, later ++ [y], by simp, hmount, hresult, ?_, ?_⟩
  · intro z hz
    rcases List.mem_append.mp hz with hz | hz
    · exact hnone z hz
    · rw [List.mem_singleton.mp hz]
      exact hy
  · rw [hlive, hall]
    simp only [List.forall_mem_append, List.forall_mem_singleton]

theorem Last.of_ok {log : List Settled} {snapshot : Snapshot} {live : Prop} {y : Settled} (hy : y.result = .ok snapshot)
    (hlive : live) : Last (log ++ [y]) y.refresh.mount snapshot live :=
  ⟨log, y, [], rfl, rfl, hy, by simp, by simpa using hlive⟩

/-- What a tab is, after the refreshes that have settled. -/
structure Shows (s : Tab) (log : List Settled) : Prop where
  settled : ∀ x ∈ log, x.refresh.mount < s.mounts
  inFlight : ∀ refresh ∈ s.inFlight, refresh.mount < s.mounts
  mounted : ∀ mount, s.mount = some mount → mount < s.mounts
  checking : s.checking.isSome → s.authed = false ∧ s.mount = none
  authed : s.authed = true → ∀ x ∈ log, s.mount = some x.refresh.mount → x.unauthorized = false
  last : ∀ mount snapshot, s.mount = some mount → s.snapshot = some snapshot → Last log mount snapshot (s.lastError = none)

variable {s s' : Tab} {log ev : List Settled} {a : TabAction}

/-- An action that leaves the dashboard, and of the fetches under way starts only some for it. -/
theorem Shows.kept (hI : Shows s log) (hmount : s'.mount = s.mount) (hmounts : s'.mounts = s.mounts)
    (hsnapshot : s'.snapshot = s.snapshot) (herror : s'.lastError = s.lastError)
    (hinFlight : ∀ refresh ∈ s'.inFlight, refresh ∈ s.inFlight ∨ s.mount = some refresh.mount)
    (hchecking : s'.checking.isSome → s'.authed = false ∧ s.mount = none)
    (hauthed : s'.authed = true → s.authed = true ∨ s.mount = none) : Shows s' log where
  settled x hx := by
    rw [hmounts]
    exact hI.settled x hx
  inFlight refresh hr := by
    rw [hmounts]
    exact (hinFlight refresh hr).elim (hI.inFlight refresh) (hI.mounted _)
  mounted mount hm := by
    rw [hmounts]
    exact hI.mounted mount (hmount ▸ hm)
  checking hc := by
    rw [hmount]
    exact hchecking hc
  authed ha x hx hm := by
    rw [hmount] at hm
    rcases hauthed ha with ha | hnone
    · exact hI.authed ha x hx hm
    · rw [hnone] at hm
      cases hm
  last mount snapshot hm hs := by
    rw [herror]
    exact hI.last mount snapshot (hmount ▸ hm) (hsnapshot ▸ hs)

/-- A refresh that settles, and what it leaves of the dashboard. -/
theorem Shows.appended (hI : Shows s log) {x : Settled} (hx : x.refresh ∈ s.inFlight) (hmount : s'.mount = s.mount)
    (hmounts : s'.mounts = s.mounts) (hinFlight : ∀ refresh ∈ s'.inFlight, refresh ∈ s.inFlight) (hchecking : s'.checking = s.checking)
    (hauthed : s'.authed = true → s.authed = true ∧ (s.mount = some x.refresh.mount → x.unauthorized = false))
    (hlast : ∀ mount snapshot, s.mount = some mount → s'.snapshot = some snapshot →
      Last (log ++ [x]) mount snapshot (s'.lastError = none)) : Shows s' (log ++ [x]) where
  settled y hy := by
    rw [hmounts]
    rcases List.mem_append.mp hy with hy | hy
    · exact hI.settled y hy
    · rw [List.mem_singleton.mp hy]
      exact hI.inFlight _ hx
  inFlight refresh hr := by
    rw [hmounts]
    exact hI.inFlight refresh (hinFlight refresh hr)
  mounted mount hm := by
    rw [hmounts]
    exact hI.mounted mount (hmount ▸ hm)
  checking hc := by
    rw [hchecking] at hc
    obtain ⟨hnot, hnone⟩ := hI.checking hc
    refine ⟨Bool.eq_false_iff.mpr fun ha => ?_, hmount.trans hnone⟩
    rw [(hauthed ha).1] at hnot
    cases hnot
  authed ha y hy hm := by
    rw [hmount] at hm
    rcases List.mem_append.mp hy with hy | hy
    · exact hI.authed (hauthed ha).1 y hy hm
    · rw [List.mem_singleton.mp hy] at hm ⊢
      exact (hauthed ha).2 hm
  last mount snapshot hm hs := hlast mount snapshot (hmount ▸ hm) hs

theorem shows_step (hI : Shows s log) (h : Tab.Did browser s a s' ev) : Shows s' (log ++ ev) := by
  cases h with
  | submitted hauthed hmount hvalue =>
    rw [List.append_nil]
    exact hI.kept rfl rfl rfl rfl (fun _ hr => Or.inl hr) (fun _ => ⟨hauthed, hmount⟩) fun ha => Or.inl ha
  | accepted hchecking hok =>
    have hmount := (hI.checking (by simp [hchecking])).2
    rw [List.append_nil]
    exact hI.kept rfl rfl rfl rfl (fun _ hr => Or.inl hr) (fun hc => by cases hc) fun _ => Or.inr hmount
  | rejected =>
    rw [List.append_nil]
    exact hI.kept rfl rfl rfl rfl (fun _ hr => Or.inl hr) (fun hc => by cases hc) fun ha => Or.inl ha
  | mounted hcrashed hauthed hmount =>
    rw [List.append_nil, mountDashboard_eq]
    refine ⟨fun x hx => Nat.lt_succ_of_lt (hI.settled x hx), ?_, ?_, ?_, ?_, ?_⟩
    · intro refresh hr
      rcases List.mem_append.mp hr with hr | hr
      · exact Nat.lt_succ_of_lt (hI.inFlight refresh hr)
      · rw [List.mem_singleton.mp hr]
        exact Nat.lt_succ_self _
    · intro mount hm
      cases hm
      exact Nat.lt_succ_self _
    · intro hc
      rw [(hI.checking hc).1] at hauthed
      cases hauthed
    · intro _ x hx hm
      -- no refresh of the new dashboard has settled
      have hold := hI.settled x hx
      rw [← Option.some.inj hm] at hold
      exact absurd hold (Nat.lt_irrefl _)
    · intro mount snapshot _ hs
      cases hs
  | unmounted hauthed =>
    rw [List.append_nil]
    exact ⟨hI.settled, hI.inFlight, nofun, fun _ => ⟨hauthed, rfl⟩, nofun, nofun⟩
  | fetching ha hmount =>
    rw [List.append_nil]
    refine hI.kept rfl rfl rfl rfl (fun refresh hr => ?_) hI.checking fun ha => Or.inl ha
    rcases List.mem_append.mp hr with hr | hr
    · exact Or.inl hr
    · rw [List.mem_singleton.mp hr]
      exact Or.inr hmount
  | @settled i arrive first removes refresh hrefresh hfirst hmount =>
    have hmem := List.mem_of_getElem? hrefresh
    have hrest : ∀ r ∈ s.inFlight.eraseIdx i, r ∈ s.inFlight := fun r hr => List.mem_of_mem_eraseIdx hr
    rcases onSettled_cases { s with inFlight := s.inFlight.eraseIdx i } removes
        ⟨refresh, arrive, getSnapshot browser arrive first refresh.token⟩ with
      ⟨snapshot, hresult, hs⟩ | ⟨hrefused, hfailed, hs⟩ | ⟨hother, hfailed, message, hs⟩
    · have hauthorized : Settled.unauthorized ⟨refresh, arrive, getSnapshot browser arrive first refresh.token⟩ = false := by
        rw [Settled.unauthorized, hresult]
      rw [hs]
      refine hI.appended hmem rfl rfl hrest rfl (fun ha => ⟨ha, fun _ => hauthorized⟩) fun mount snapshot' hm hsnapshot => ?_
      rw [hmount] at hm
      cases hm
      cases hsnapshot
      exact Last.of_ok hresult rfl
    · rw [hs]
      refine hI.appended hmem rfl rfl hrest rfl nofun fun mount snapshot hm hsnapshot => ?_
      exact (hI.last mount snapshot hm hsnapshot).append (fun _ => hfailed) (by simp [hrefused])
    · rw [hs]
      refine hI.appended hmem rfl rfl hrest rfl (fun ha => ⟨ha, fun _ => hother⟩) fun mount snapshot hm hsnapshot => ?_
      refine (hI.last mount snapshot hm hsnapshot).append (fun _ => hfailed) ?_
      rw [hmount] at hm
      simp [hother, Option.some.inj hm]
  | @dropped i arrive first removes refresh hrefresh hfirst hmount =>
    refine hI.appended (List.mem_of_getElem? hrefresh) rfl rfl (fun r hr => List.mem_of_mem_eraseIdx hr) rfl
      (fun ha => ⟨ha, fun hm => absurd hm hmount⟩) fun mount snapshot hm hsnapshot => ?_
    have hother : refresh.mount ≠ mount := fun he => hmount (by rw [hm, he])
    exact (hI.last mount snapshot hm hsnapshot).append (fun he => absurd he hother) (by simp [hother])
  | shaken hsocket =>
    rw [List.append_nil]
    exact hI.kept rfl rfl rfl rfl (fun _ hr => Or.inl hr) hI.checking fun ha => Or.inl ha
  | closed hsocket =>
    rw [List.append_nil]
    exact hI.kept rfl rfl rfl rfl (fun _ hr => Or.inl hr) hI.checking fun ha => Or.inl ha
  | retried hsocket =>
    rw [List.append_nil]
    exact hI.kept rfl rfl rfl rfl (fun _ hr => Or.inl hr) hI.checking fun ha => Or.inl ha
  | others =>
    rw [List.append_nil]
    exact hI.kept rfl rfl rfl rfl (fun _ hr => Or.inl hr) hI.checking fun ha => Or.inl ha

/-- What a refresh that settles is: a snapshot that the daemon told, or a failure. -/
theorem settled_step (h : Tab.Did browser s a s' ev) :
    ∀ x ∈ ev, (∀ snapshot, x.result = .ok snapshot → x.Told browser snapshot) ∧ (x.unauthorized = true → x.Refused browser) := by
  have hsettled : ∀ refresh arrive first, first ∈ Snapshot.paths →
      ∀ x ∈ [(⟨refresh, arrive, getSnapshot browser arrive first refresh.token⟩ : Settled)],
        (∀ snapshot, x.result = .ok snapshot → x.Told browser snapshot) ∧ (x.unauthorized = true → x.Refused browser) := by
    intro refresh arrive first hfirst x hx
    rw [List.mem_singleton.mp hx]
    exact ⟨fun snapshot hresult => getSnapshot_ok hresult, refused_of_unauthorized hfirst rfl⟩
  cases h with
  | settled hrefresh hfirst hmount => exact hsettled _ _ _ hfirst
  | dropped hrefresh hfirst hmount => exact hsettled _ _ _ hfirst
  | _ => nofun

end BrowserAux

open BrowserAux

/-- What a tab shows is what the daemon said last. In every run of a tab, with requests that meet any states of the daemon or fail,
fetches that settle in any order, other tabs and a storage that may throw: a snapshot that a fetch brings has what the daemon's
queries gave, to requests that carried the token; the snapshot on the screen is the last one fetched for this dashboard, and not for
one that was there before; it is called live unless a fetch has failed since, other than for the token; and a fetch fails for the
token only where it was not the daemon's, after which the tab is not authenticated. -/
theorem the_tab_shows_the_last_answer {V : Type} {browser : Browser V} {ok : Tab → TabAction → Prop} {storage : Option String}
    {reads : Bool} {s : Tab} {log : List Settled} (hrun : Run (Tab.step browser) ok (Tab.load storage reads) s log) :
    (∀ x ∈ log, (∀ snapshot, x.result = .ok snapshot → x.Told browser snapshot) ∧ (x.unauthorized = true → x.Refused browser)) ∧
      (s.authed = true → ∀ x ∈ log, s.mount = some x.refresh.mount → x.unauthorized = false) ∧
      ∀ snapshot live, s.screen = .dashboard snapshot live →
        ∃ earlier x later, log = earlier ++ x :: later ∧ s.mount = some x.refresh.mount ∧ x.result = .ok snapshot ∧
          (∀ y ∈ later, y.refresh.mount = x.refresh.mount → y.result.isOk = false) ∧
          (live = true ↔ ∀ y ∈ later, y.refresh.mount = x.refresh.mount → y.unauthorized = true) := by
  have hshows : Shows s log := hrun.invariant (I := Shows) ⟨nofun, nofun, nofun, nofun, nofun, nofun⟩
    fun _ _ _ _ _ hI _ hs => shows_step hI (did hs)
  have htold := hrun.invariant
    (I := fun _ log => ∀ x ∈ log,
      (∀ snapshot, x.result = .ok snapshot → x.Told browser snapshot) ∧ (x.unauthorized = true → x.Refused browser))
    nofun fun _ _ _ _ _ hI _ hs => List.forall_mem_append.mpr ⟨hI, settled_step (did hs)⟩
  refine ⟨htold, hshows.authed, fun snapshot live hscreen => ?_⟩
  unfold Tab.screen at hscreen
  split at hscreen
  · cases hscreen
  · split at hscreen
    · cases hscreen
    · cases hscreen
    · rename_i mount _ hmount hsnapshot
      cases hscreen
      obtain ⟨earlier, x, later, rfl, rfl, hresult, hnone, hlive⟩ := hshows.last mount _ hmount hsnapshot
      exact ⟨earlier, x, later, rfl, hmount, hresult, hnone, by rw [Option.isNone_iff_eq_none, hlive]⟩

namespace TabExample

def browser : Browser String := ⟨⟨some, some, true⟩, fun _ => none, id⟩

def store : Db where
  monitors := ⟨[⟨1, 0, "disk", "/", "host_agent_check", 30, "pending", none⟩], by decide⟩
  checkResults := Table.empty
  agents := Table.empty
  alertEvents := Table.empty
  inserted := 1

def state : ApiState where
  toAppState := ⟨store, "secret", ⟨1, []⟩⟩
  version := "0"
  assignments := AssignmentHandle.new 1
  notifier := RetryingNotifier.new "webhook" 1
  cache := DegradingCache.new none
  k8sClusters := []
  retentionSecs := 0

def env : Env := ⟨0, fun _ => 0, Vector.replicate 32 0, .ok (), false, none⟩

/-- A snapshot is fetched, and then one is not. -/
def actions : List TabAction :=
  [.render true, .settle 0 (fun _ => .ok (state, env)) "/monitors" true, .refresh true,
    .settle 0 (fun _ => .error "Failed to fetch") "/agents" true]

/-- Whether the dashboard is called live, if it is shown. -/
def live : Page → Option Bool
  | .dashboard _ live => some live
  | _ => none

end TabExample

open TabExample in
theorem the_tab_shows_the_last_answer_secret :
    let x := after (Tab.step browser) always (Tab.load (some "secret") true) actions
    ∃ snapshot, x.1.screen = .dashboard snapshot false ∧ ∃ y ∈ x.2, y.result = .ok snapshot ∧ y.Told browser snapshot := by
  intro x
  have hrun : Run (Tab.step browser) (fun s a => always s a = true) (Tab.load (some "secret") true) x.1 x.2 :=
    run_after (by decide +kernel)
  obtain ⟨htold, -, hshown⟩ := the_tab_shows_the_last_answer hrun
  have hlive : live x.1.screen = some false := by decide +kernel
  cases hscreen : x.1.screen with
  | dashboard snapshot l =>
    rw [hscreen] at hlive
    obtain ⟨earlier, y, later, hlog, -, hresult, -⟩ := hshown snapshot l hscreen
    have hmem : y ∈ x.2 := by simp [hlog]
    cases hlive
    exact ⟨snapshot, rfl, y, hmem, hresult, (htold y hmem).1 snapshot hresult⟩
  | _ =>
    rw [hscreen] at hlive
    cases hlive

/-! ## A storage that does not take the token -/

/-- The storage throws when the tab writes it, and other tabs do not write it either. -/
def Web.TabAction.blocked : TabAction → Bool
  | .verified _ writes => !writes
  | .others storage => storage.isNone
  | _ => true

namespace BrowserAux

variable {V : Type} {browser : Browser V} {arrive : Arrival} {path : String}

/-- Without a token a request is refused as soon as it arrives. -/
theorem asked_none {query : ApiState → Env → Except ApiError Json} (harrive : arrive.isOk = true) :
    asked browser arrive none true path query = .error (.api 401 path) := by
  cases arrive with
  | error message => cases harrive
  | ok arrived =>
    have hnone : bearerToken browser.axum.toStr (request browser none path).headers = none := rfl
    simp [asked, hnone]

theorem not_told {x : Settled} {snapshot : Snapshot} (htoken : x.refresh.token = none) : ¬x.Told browser snapshot := by
  intro h
  have hmonitors := h.monitors
  rw [htoken] at hmonitors
  cases harrive : (x.arrive "/monitors").isOk with
  | true =>
    rw [asked_none harrive] at hmonitors
    cases hmonitors
  | false =>
    cases ha : x.arrive "/monitors" with
    | error message =>
      rw [ha] at hmonitors
      cases hmonitors
    | ok arrived =>
      rw [ha] at harrive
      cases harrive

theorem getSnapshot_none {arrive : String → Arrival} {first : String} (hfirst : first ∈ Snapshot.paths)
    (harrive : ∀ path ∈ Snapshot.paths, (arrive path).isOk = true) :
    ∃ url, getSnapshot browser arrive first none = .error (.api 401 url) := by
  have hmonitors : getJson browser (arrive "/monitors") none "/monitors" = .error (.api 401 "/monitors") := by
    rw [getJson_monitors]
    exact asked_none (harrive _ (by simp [Snapshot.paths]))
  cases hget : getJson browser (arrive first) none first with
  | ok value => exact ⟨"/monitors", by simp [getSnapshot, hget, hmonitors, bind, Except.bind]⟩
  | error e =>
    have hsnapshot : getSnapshot browser arrive first none = .error e := by simp [getSnapshot, hget]
    have hguarded := harrive _ hfirst
    have hurl : ∃ url, getJson browser (arrive first) none first = .error (.api 401 url) := by
      simp only [Snapshot.paths, List.mem_cons, List.not_mem_nil, or_false] at hfirst
      rcases hfirst with rfl | rfl | rfl | rfl
      · exact ⟨_, hmonitors⟩
      · exact ⟨_, getJson_agents.trans (asked_none hguarded)⟩
      · exact ⟨_, getJson_alerts.trans (asked_none hguarded)⟩
      · -- the health is told to anyone
        rw [getJson_health] at hget
        cases ha : arrive "/health" with
        | error message =>
          rw [ha] at hguarded
          cases hguarded
        | ok arrived =>
          rw [ha] at hget
          cases hget
    obtain ⟨url, hurl⟩ := hurl
    rw [hget] at hurl
    cases hurl
    exact ⟨url, hsnapshot⟩

/-- A tab without a token, which has nothing to show. -/
structure Blocked (s : Tab) : Prop where
  storage : s.storage = none
  tokens : ∀ refresh ∈ s.inFlight, refresh.token = none
  snapshot : s.snapshot = none
  socket : s.socket = .absent
  crashed : s.crashed = false

theorem Blocked.getToken {s : Tab} (h : Blocked s) (reads : Bool) : s.getToken reads = none := by
  rw [Tab.getToken, h.storage, ite_self]

theorem Blocked.connect {s : Tab} (h : Blocked s) (reads : Bool) : s.connect reads = .ok none := by
  rw [Tab.connect, h.getToken]
  rfl

/-- A refresh of a tab without a token fails, and for the token if its requests arrive. -/
def Fruitless (x : Settled) : Prop :=
  x.result.isOk = false ∧ ((∀ path ∈ Snapshot.paths, (x.arrive path).isOk = true) → x.unauthorized = true)

theorem fruitless {refresh : Refresh} {arrive : String → Arrival} {first : String} (htoken : refresh.token = none)
    (hfirst : first ∈ Snapshot.paths) : Fruitless ⟨refresh, arrive, getSnapshot browser arrive first refresh.token⟩ := by
  constructor
  · cases hresult : getSnapshot browser arrive first refresh.token with
    | error e => rfl
    | ok snapshot =>
      have htold : Settled.Told browser ⟨refresh, arrive, .ok snapshot⟩ snapshot :=
        getSnapshot_ok (x := ⟨refresh, arrive, .ok snapshot⟩) hresult
      exact absurd htold (not_told htoken)
  · intro harrive
    obtain ⟨url, hurl⟩ : ∃ url, getSnapshot browser arrive first none = .error (.api 401 url) := getSnapshot_none hfirst harrive
    rw [htoken, Settled.unauthorized, hurl]
    rfl

theorem blocked_step {s s' : Tab} {a : TabAction} {ev : List Settled} (hI : Blocked s) (ha : a.blocked = true)
    (h : Tab.Did browser s a s' ev) : Blocked s' ∧ ∀ x ∈ ev, Fruitless x := by
  cases h with
  | submitted hauthed hmount hvalue => exact ⟨⟨hI.storage, hI.tokens, hI.snapshot, hI.socket, hI.crashed⟩, nofun⟩
  | @accepted candidate state env writes hchecking hok =>
    cases writes with
    | true => cases ha
    | false => exact ⟨⟨hI.storage, hI.tokens, hI.snapshot, hI.socket, hI.crashed⟩, nofun⟩
  | rejected => exact ⟨⟨hI.storage, hI.tokens, hI.snapshot, hI.socket, hI.crashed⟩, nofun⟩
  | mounted hcrashed hauthed hmount =>
    rw [mountDashboard_eq, hI.connect, hI.getToken]
    refine ⟨⟨hI.storage, fun refresh hr => ?_, rfl, rfl, hcrashed⟩, nofun⟩
    rcases List.mem_append.mp hr with hr | hr
    · exact hI.tokens refresh hr
    · rw [List.mem_singleton.mp hr]
  | unmounted hauthed => exact ⟨⟨hI.storage, hI.tokens, rfl, rfl, hI.crashed⟩, nofun⟩
  | fetching ha hmount =>
    refine ⟨⟨hI.storage, fun refresh hr => ?_, hI.snapshot, hI.socket, hI.crashed⟩, nofun⟩
    rcases List.mem_append.mp hr with hr | hr
    · exact hI.tokens refresh hr
    · rw [List.mem_singleton.mp hr]
      exact hI.getToken _
  | @settled i arrive first removes refresh hrefresh hfirst hmount =>
    have htoken := hI.tokens refresh (List.mem_of_getElem? hrefresh)
    have hrest : ∀ r ∈ s.inFlight.eraseIdx i, r.token = none := fun r hr => hI.tokens r (List.mem_of_mem_eraseIdx hr)
    have hfruitless : Fruitless ⟨refresh, arrive, getSnapshot browser arrive first refresh.token⟩ := fruitless htoken hfirst
    refine ⟨?_, List.forall_mem_singleton.mpr hfruitless⟩
    rcases onSettled_cases { s with inFlight := s.inFlight.eraseIdx i } removes
        ⟨refresh, arrive, getSnapshot browser arrive first refresh.token⟩ with
      ⟨snapshot, hresult, -⟩ | ⟨-, -, hs⟩ | ⟨-, -, message, hs⟩
    · rw [Fruitless, hresult] at hfruitless
      cases hfruitless.1
    · rw [hs]
      refine ⟨?_, hrest, hI.snapshot, hI.socket, hI.crashed⟩
      cases removes with
      | true => rfl
      | false => exact hI.storage
    · rw [hs]
      exact ⟨hI.storage, hrest, hI.snapshot, hI.socket, hI.crashed⟩
  | @dropped i arrive first removes refresh hrefresh hfirst hmount =>
    have htoken := hI.tokens refresh (List.mem_of_getElem? hrefresh)
    exact ⟨⟨hI.storage, fun r hr => hI.tokens r (List.mem_of_mem_eraseIdx hr), hI.snapshot, hI.socket, hI.crashed⟩,
      List.forall_mem_singleton.mpr (fruitless htoken hfirst)⟩
  | shaken hsocket => simp [hI.socket] at hsocket
  | closed hsocket => simp [hI.socket] at hsocket
  | retried hsocket => simp [hI.socket] at hsocket
  | @others storage =>
    exact ⟨⟨Option.isNone_iff_eq_none.mp ha, hI.tokens, hI.snapshot, hI.socket, hI.crashed⟩, nofun⟩

end BrowserAux

/-- A session does not work without the storage. In every run of a tab that starts without a token and whose storage takes none, what
the gate accepts is of no use: no dashboard is ever shown and no live feed is tried. Every fetch fails, with the status of a request
without the token if its requests arrive, and such a fetch ends the session of the dashboard it is for. -/
theorem a_session_needs_the_storage {V : Type} {browser : Browser V} {ok : Tab → TabAction → Prop}
    (hblocked : ∀ s a, ok s a → a.blocked = true) {reads : Bool} {s : Tab} {log : List Settled}
    (hrun : Run (Tab.step browser) ok (Tab.load none reads) s log) :
    (∀ snapshot live, s.screen ≠ .dashboard snapshot live) ∧ s.socket = .absent ∧
      ∀ x ∈ log, x.result.isOk = false ∧ ((∀ path ∈ Snapshot.paths, (x.arrive path).isOk = true) →
        x.unauthorized = true ∧ (s.authed = true → s.mount ≠ some x.refresh.mount)) := by
  have hshows : Shows s log := hrun.invariant (I := Shows) ⟨nofun, nofun, nofun, nofun, nofun, nofun⟩
    fun _ _ _ _ _ hI _ hs => shows_step hI (did hs)
  obtain ⟨hnothing, hfruitless⟩ := hrun.invariant (I := fun s log => Blocked s ∧ ∀ x ∈ log, Fruitless x)
    ⟨⟨rfl, nofun, rfl, rfl, rfl⟩, nofun⟩ fun s s' log ev a hI hok hs => by
      obtain ⟨hs', hev⟩ := blocked_step hI.1 (hblocked s a hok) (did hs)
      exact ⟨hs', List.forall_mem_append.mpr ⟨hI.2, hev⟩⟩
  refine ⟨fun snapshot live hscreen => ?_, hnothing.socket, fun x hx => ⟨(hfruitless x hx).1, fun harrive => ?_⟩⟩
  · unfold Tab.screen at hscreen
    rw [hnothing.crashed, hnothing.snapshot] at hscreen
    cases hmount : s.mount <;> simp [hmount] at hscreen
  · have hrefused := (hfruitless x hx).2 harrive
    refine ⟨hrefused, fun hauthed hmount => ?_⟩
    rw [hshows.authed hauthed x hx hmount] at hrefused
    cases hrefused

open TabExample in
/-- The gate accepts the daemon's token, and the tab is back at the gate after the first fetch. -/
theorem a_session_needs_the_storage_secret :
    let x := after (Tab.step browser) (fun _ a => a.blocked) (Tab.load none true)
      [.submit " secret ", .verified (.ok (state, env)) false, .render true, .settle 0 (fun _ => .ok (state, env)) "/health" true]
    x.1.authed = false ∧ x.2.length = 1 ∧ ∀ y ∈ x.2, y.result.isOk = false := by
  intro x
  have hrun : Run (Tab.step browser) (fun _ a => a.blocked = true) (Tab.load none true) x.1 x.2 := run_after (by decide +kernel)
  obtain ⟨-, -, hall⟩ := a_session_needs_the_storage (fun _ _ h => h) hrun
  exact ⟨by decide +kernel, by decide +kernel, fun y hy => (hall y hy).1⟩

end Monitra
