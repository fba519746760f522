import Monitra.Lemmas.Router
import Monitra.Web.Tab

/-!
# What a tab does

What the daemon's answers are to the tab (`asked`), and what an action does (`Tab.Did`). The proofs about runs of a tab read its step
function through the latter.
-/

namespace Monitra

open Serde

namespace Web

section

variable {V : Type} (browser : Browser V)

/-- What a query of the daemon's gives the tab: its answer in the state that the request meets, unless the request does not arrive, it
does not carry the daemon's token, or the query fails. -/
def asked (arrive : Arrival) (token : Option String) (guarded : Bool) (path : String)
    (query : ApiState → Env → Except ApiError Json) : Except FetchError Json :=
  match arrive with
  | .error message => .error (.failed message)
  | .ok (state, env) =>
    if guarded ∧ bearerToken browser.axum.toStr (request browser token path).headers ≠ some state.token then .error (.api 401 path)
    else (query state env).mapError fun e => .api e.intoResponse.status path

/-- The parts of a snapshot are what the daemon's queries gave. -/
structure Settled.Told (x : Settled) (snapshot : Snapshot) : Prop where
  monitors : asked browser (x.arrive "/monitors") x.refresh.token true "/monitors"
    (fun state env => (Monitors.list state.store env.fault).map (vec MonitorDto.serialize)) = .ok snapshot.monitors
  agents : asked browser (x.arrive "/agents") x.refresh.token true "/agents"
    (fun state env => (Registration.list state.store env.fault).map (vec AgentDto.serialize)) = .ok snapshot.agents
  alerts : asked browser (x.arrive "/alerts") x.refresh.token true "/alerts"
    (fun state env => (Alerts.list state.store env.fault).map (vec AlertEventDto.serialize)) = .ok snapshot.alerts
  health : asked browser (x.arrive "/health") x.refresh.token false "/health"
    (fun state env => .ok (Monitra.health state env.healthCheck).serialize) = .ok snapshot.health

/-- A request of the refresh met a daemon whose token it did not carry. -/
def Settled.Refused (x : Settled) : Prop :=
  ∃ path ∈ ["/monitors", "/agents", "/alerts"], ∃ state env, x.arrive path = .ok (state, env) ∧
    bearerToken browser.axum.toStr (request browser x.refresh.token path).headers ≠ some state.token

end

/-- Whether the refresh failed with the status of a request without the token. -/
def Settled.unauthorized (x : Settled) : Bool :=
  match x.result with
  | .error (.api 401 _) => true
  | _ => false

/-- What an action does: the tab that it leaves, and the refresh that it settles. -/
inductive Tab.Did {V : Type} (browser : Browser V) (s : Tab) : TabAction → Tab → List Settled → Prop where
  | submitted {value} (hauthed : s.authed = false) (hmount : s.mount = none) (hvalue : (trim value).isEmpty = false) :
      Did browser s (.submit value) { s with checking := some (trim value) } []
  | accepted {candidate state env writes} (hchecking : s.checking = some candidate)
      (h : isOk (serve browser.axum env state (request browser (some candidate) "/monitors") browser.assets).2 = true) :
      Did browser s (.verified (.ok (state, env)) writes)
        { s with checking := none, storage := if writes then some candidate else s.storage, authed := true } []
  | rejected {arrive writes} : Did browser s (.verified arrive writes) { s with checking := none } []
  | mounted {reads} (hcrashed : s.crashed = false) (hauthed : s.authed = true) (hmount : s.mount = none) :
      Did browser s (.render reads) (s.mountDashboard reads) []
  | unmounted {reads} (hauthed : s.authed = false) :
      Did browser s (.render reads) { s with mount := none, snapshot := none, lastError := none, socket := .absent } []
  | fetching {a mount reads} (ha : a = .refresh reads ∨ a = .message reads) (hmount : s.mount = some mount) :
      Did browser s a (s.startRefresh mount reads) []
  | settled {i arrive first removes refresh} (hrefresh : s.inFlight[i]? = some refresh) (hfirst : first ∈ Snapshot.paths)
      (hmount : s.mount = some refresh.mount) :
      Did browser s (.settle i arrive first removes)
        ({ s with inFlight := s.inFlight.eraseIdx i }.onSettled removes (getSnapshot browser arrive first refresh.token))
        [⟨refresh, arrive, getSnapshot browser arrive first refresh.token⟩]
  | dropped {i arrive first removes refresh} (hrefresh : s.inFlight[i]? = some refresh) (hfirst : first ∈ Snapshot.paths)
      (hmount : s.mount ≠ some refresh.mount) :
      Did browser s (.settle i arrive first removes) { s with inFlight := s.inFlight.eraseIdx i }
        [⟨refresh, arrive, getSnapshot browser arrive first refresh.token⟩]
  | shaken {arrive token} (hsocket : s.socket = .connecting token) :
      Did browser s (.handshake arrive) { s with socket := if opens browser arrive token then .opened else .closed } []
  | closed (hsocket : s.socket = .opened) : Did browser s .close { s with socket := .closed } []
  | retried {reads} (hsocket : s.socket = .closed) :
      Did browser s (.retry reads)
        { s with socket := match s.connect reads with | .ok token => token.elim .absent .connecting | .error () => .absent } []
  | others {storage} : Did browser s (.others storage) { s with storage } []

end Web

open Web RouterAux Results

namespace TabAux

variable {V : Type} {browser : Browser V} {arrive : Arrival} {token : Option String} {path : String}

/-! ## A request that reads -/

/-- What comes of a response. -/
def received (path : String) (response : ApiResponse) : Except FetchError Json :=
  if isOk response then response.body.json.elim (.error (.failed "the body is not JSON")) .ok
  else .error (.api response.status path)

theorem getJson_ok {state : ApiState} {env : Env} :
    getJson browser (.ok (state, env)) token path =
      received path (serve browser.axum env state (request browser token path) browser.assets).2 := by
  simp only [getJson, fetch, received, bind, Except.bind, pure, Except.pure]
  split
  · cases (serve browser.axum env state (request browser token path) browser.assets).2.body.json <;> rfl
  · rfl

theorem getJson_eq {α : Type} {guarded : Bool} {query : ApiState → Env → Except ApiError α} (endpoint : Endpoint) (param : String)
    (handler : Handler) (body : α → Body) (write : α → Json) (hfind : Endpoint.find path = some (endpoint, param))
    (hhandler : endpoint.handler .get = some handler) (hguard : endpoint.guard = if guarded then .token else .none)
    (hrun : ∀ env state, handler.run browser.axum env state (request browser token path) param = reading state body (query state env))
    (hwrite : ∀ answer, (body answer).json = some (write answer)) :
    getJson browser arrive token path = asked browser arrive token guarded path fun state env => (query state env).map write := by
  have herror : ∀ e : ApiError, isOk (.ofApiError e) = false ∧ (ApiResponse.ofApiError e).status = e.intoResponse.status := by
    intro e
    cases e with
    | notFound | validation => exact ⟨rfl, rfl⟩
    | provider e => cases e <;> exact ⟨rfl, rfl⟩
  cases arrive with
  | error message => rfl
  | ok arrived =>
    obtain ⟨state, env⟩ := arrived
    have hfind' : Endpoint.find (request browser token path).path = some (endpoint, param) := hfind
    have hquery : received path (.ofQuery body (query state env)) =
        ((query state env).map write).mapError fun e => FetchError.api e.intoResponse.status path := by
      cases query state env with
      | ok answer => simp [received, ApiResponse.ofQuery, isOk, hwrite, Except.map, Except.mapError]
      | error e => simp [received, ApiResponse.ofQuery, herror, Except.map, Except.mapError]
    rw [getJson_ok, serve_reading hfind' rfl hhandler (hrun env state), hguard, asked]
    cases guarded with
    | false =>
      rw [if_neg (by simp), if_neg (by simp)]
      exact hquery
    | true =>
      rw [if_pos rfl, check_token]
      by_cases htoken : bearerToken browser.axum.toStr (request browser token path).headers = some state.token
      · rw [if_pos htoken, if_neg (by simp [htoken])]
        exact hquery
      · rw [if_neg htoken, if_pos ⟨rfl, htoken⟩]
        rfl

theorem getJson_monitors :
    getJson browser arrive token "/monitors" = asked browser arrive token true "/monitors" fun state env =>
      (Monitors.list state.store env.fault).map (vec MonitorDto.serialize) :=
  getJson_eq .monitors "" .listMonitors .monitors _ (by decide +kernel) rfl rfl (fun _ _ => rfl) fun _ => rfl

theorem getJson_agents :
    getJson browser arrive token "/agents" = asked browser arrive token true "/agents" fun state env =>
      (Registration.list state.store env.fault).map (vec AgentDto.serialize) :=
  getJson_eq .agents "" .listAgents .agents _ (by decide +kernel) rfl rfl (fun _ _ => rfl) fun _ => rfl

theorem getJson_alerts :
    getJson browser arrive token "/alerts" = asked browser arrive token true "/alerts" fun state env =>
      (Alerts.list state.store env.fault).map (vec AlertEventDto.serialize) :=
  getJson_eq .alerts "" .listAlerts .alerts _ (by decide +kernel) rfl rfl (fun _ _ => rfl) fun _ => rfl

theorem getJson_health :
    getJson browser arrive token "/health" = asked browser arrive token false "/health" fun state env =>
      .ok (Monitra.health state env.healthCheck).serialize := by
  have hmap : getJson browser arrive token "/health" = asked browser arrive token false "/health" fun state env =>
      (.ok (Monitra.health state env.healthCheck) : Except ApiError HealthResponse).map HealthResponse.serialize :=
    getJson_eq .health "" .healthCheck .health _ (by decide +kernel) rfl rfl (fun _ _ => rfl) fun _ => rfl
  exact hmap

/-- No query fails with the status of a request without the token. -/
theorem status_ne (e : ApiError) : e.intoResponse.status ≠ 401 := by
  cases e with
  | notFound | validation => simp [ApiError.intoResponse, StatusCode.asU16]
  | provider e => cases e <;> simp [ApiError.intoResponse, StatusCode.asU16]

/-- Only the token makes a request unauthorized. -/
theorem asked_unauthorized {guarded : Bool} {query : ApiState → Env → Except ApiError Json} {url : String}
    (h : asked browser arrive token guarded path query = .error (.api 401 url)) :
    guarded = true ∧ ∃ state env, arrive = .ok (state, env) ∧
      bearerToken browser.axum.toStr (request browser token path).headers ≠ some state.token := by
  unfold asked at h
  cases arrive with
  | error message => cases h
  | ok arrived =>
    obtain ⟨state, env⟩ := arrived
    dsimp only at h
    split at h
    · rename_i hrefused
      exact ⟨hrefused.1, state, env, rfl, hrefused.2⟩
    · cases hq : query state env with
      | ok answer =>
        rw [hq] at h
        cases h
      | error e =>
        rw [hq] at h
        injection h with h
        injection h with h _
        exact absurd h (status_ne e)

/-! ## A snapshot -/

theorem getSnapshot_ok {x : Settled} {first : String} {snapshot : Snapshot}
    (h : getSnapshot browser x.arrive first x.refresh.token = .ok snapshot) : x.Told browser snapshot := by
  simp only [getSnapshot] at h
  split at h
  · cases h
  · obtain ⟨monitors, hmonitors, h⟩ := bind_eq_ok h
    obtain ⟨agents, hagents, h⟩ := bind_eq_ok h
    obtain ⟨alerts, halerts, h⟩ := bind_eq_ok h
    obtain ⟨health, hhealth, h⟩ := bind_eq_ok h
    cases h
    rw [getJson_monitors] at hmonitors
    rw [getJson_agents] at hagents
    rw [getJson_alerts] at halerts
    rw [getJson_health] at hhealth
    exact ⟨hmonitors, hagents, halerts, hhealth⟩

/-- A request for a part of a snapshot that is refused was not authorized. -/
theorem getJson_unauthorized {x : Settled} {url : String} (hpath : path ∈ Snapshot.paths)
    (h : getJson browser (x.arrive path) x.refresh.token path = .error (.api 401 url)) : x.Refused browser := by
  simp only [Snapshot.paths, List.mem_cons, List.not_mem_nil, or_false] at hpath
  rcases hpath with rfl | rfl | rfl | rfl
  · rw [getJson_monitors] at h
    exact ⟨_, by simp, (asked_unauthorized h).2⟩
  · rw [getJson_agents] at h
    exact ⟨_, by simp, (asked_unauthorized h).2⟩
  · rw [getJson_alerts] at h
    exact ⟨_, by simp, (asked_unauthorized h).2⟩
  · rw [getJson_health] at h
    exact absurd (asked_unauthorized h).1 (by decide)

theorem getSnapshot_unauthorized {x : Settled} {first url : String} (hfirst : first ∈ Snapshot.paths)
    (h : getSnapshot browser x.arrive first x.refresh.token = .error (.api 401 url)) : x.Refused browser := by
  simp only [getSnapshot] at h
  split at h
  · rename_i e he
    cases h
    exact getJson_unauthorized hfirst he
  · rcases bind_eq_error h with h | ⟨_, -, h⟩
    · exact getJson_unauthorized (by simp [Snapshot.paths]) h
    rcases bind_eq_error h with h | ⟨_, -, h⟩
    · exact getJson_unauthorized (by simp [Snapshot.paths]) h
    rcases bind_eq_error h with h | ⟨_, -, h⟩
    · exact getJson_unauthorized (by simp [Snapshot.paths]) h
    rcases bind_eq_error h with h | ⟨_, -, h⟩
    · exact getJson_unauthorized (by simp [Snapshot.paths]) h
    · cases h

/-- Only a request without the token makes a refresh unauthorized. -/
theorem refused_of_unauthorized {x : Settled} {first : String} (hfirst : first ∈ Snapshot.paths)
    (hresult : x.result = getSnapshot browser x.arrive first x.refresh.token) (h : x.unauthorized = true) : x.Refused browser := by
  unfold Settled.unauthorized at h
  split at h
  · rename_i he
    exact getSnapshot_unauthorized hfirst (hresult.symm.trans he)
  · cases h

/-! ## One action -/

/-- What a refresh of the mounted dashboard does. -/
theorem onSettled_cases (s : Tab) (removes : Bool) (x : Settled) :
    (∃ snapshot, x.result = .ok snapshot ∧ s.onSettled removes x.result = { s with snapshot := some snapshot, lastError := none }) ∨
      (x.unauthorized = true ∧ x.result.isOk = false ∧
        s.onSettled removes x.result = { s with storage := if removes then none else s.storage, authed := false }) ∨
      (x.unauthorized = false ∧ x.result.isOk = false ∧
        ∃ message, s.onSettled removes x.result = { s with lastError := some message }) := by
  unfold Settled.unauthorized
  cases hresult : x.result with
  | ok snapshot => exact Or.inl ⟨snapshot, rfl, rfl⟩
  | error e =>
    right
    cases e with
    | failed message => exact Or.inr ⟨rfl, rfl, _, rfl⟩
    | api status url =>
      by_cases hstatus : status = 401
      · rw [hstatus]
        exact Or.inl ⟨rfl, rfl, rfl⟩
      · refine Or.inr ⟨?_, rfl, (FetchError.api status url).message, ?_⟩
        · split
          · rename_i h
            cases h
            exact absurd rfl hstatus
          · rfl
        · simp only [Tab.onSettled]
          split
          · rename_i h
            cases h
            exact absurd rfl hstatus
          · rfl

/-- The dashboard that is mounted, with what `connect` makes of the storage. -/
theorem mountDashboard_eq (s : Tab) (reads : Bool) :
    s.mountDashboard reads =
      { s with
        mount := some s.mounts
        mounts := s.mounts + 1
        snapshot := none
        lastError := none
        inFlight := s.inFlight ++ [⟨s.mounts, s.getToken reads⟩]
        socket := match s.connect reads with | .ok token => token.elim .absent .connecting | .error () => s.socket
        crashed := match s.connect reads with | .ok _ => s.crashed | .error () => true } := by
  have hconnect : (({ s with mount := some s.mounts, mounts := s.mounts + 1, snapshot := none, lastError := none } : Tab).startRefresh
      s.mounts reads).connect reads = s.connect reads := rfl
  unfold Tab.mountDashboard
  dsimp only
  rw [hconnect]
  cases s.connect reads <;> rfl

theorem did {s s' : Tab} {a : TabAction} {ev : List Settled} (h : s.step browser a = some (s', ev)) : Tab.Did browser s a s' ev := by
  cases a with
  | submit value =>
    simp only [Tab.step] at h
    split at h
    · rename_i hgate
      cases h
      exact .submitted hgate.2.1 hgate.2.2.1 hgate.2.2.2.2
    · cases h
  | verified arrive writes =>
    obtain ⟨candidate, hchecking, h⟩ := Option.map_eq_some_iff.mp h
    cases arrive with
    | error message =>
      cases h
      exact .rejected
    | ok arrived =>
      simp only [fetch] at h
      split at h
      · rename_i hok
        cases h
        exact .accepted hchecking hok
      · cases h
        exact .rejected
  | render reads =>
    simp only [Tab.step] at h
    split at h
    · cases h
    · rename_i hcrashed
      split at h
      · rename_i hauthed hmount
        cases h
        exact .mounted (Bool.eq_false_iff.mpr hcrashed) hauthed hmount
      · rename_i hauthed hmount
        cases h
        exact .unmounted hauthed
      · cases h
  | refresh reads =>
    obtain ⟨mount, hmount, h⟩ := Option.map_eq_some_iff.mp h
    cases h
    exact .fetching (Or.inl rfl) hmount
  | settle i arrive first removes =>
    simp only [Tab.step] at h
    split at h
    · rename_i hfirst
      obtain ⟨refresh, hrefresh, h⟩ := Option.map_eq_some_iff.mp h
      split at h
      · rename_i hmount
        cases h
        exact .settled hrefresh hfirst hmount
      · rename_i hmount
        cases h
        exact .dropped hrefresh hfirst hmount
    · cases h
  | handshake arrive =>
    simp only [Tab.step] at h
    split at h
    · rename_i hsocket
      cases h
      exact .shaken hsocket
    · cases h
  | message reads =>
    simp only [Tab.step] at h
    split at h
    · rename_i hmount
      cases h
      exact .fetching (Or.inr rfl) hmount
    · cases h
  | close =>
    simp only [Tab.step] at h
    split at h
    · rename_i hsocket
      cases h
      exact .closed hsocket
    · cases h
  | retry reads =>
    simp only [Tab.step] at h
    split at h
    · rename_i hsocket
      have hretried : Tab.Did browser s (.retry reads) _ [] := .retried hsocket
      cases hconnect : s.connect reads with
      | ok token =>
        rw [hconnect] at h hretried
        cases h
        exact hretried
      | error u =>
        rw [hconnect] at h hretried
        cases h
        exact hretried
    · cases h
  | others storage =>
    cases h
    exact .others

end TabAux

end Monitra
