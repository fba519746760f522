import Monitra.Lemmas.Router
import Monitra.Tui.Client

/-!
# What the terminal shows

The client and the daemon have types of their own for the answers. What the one writes the other reads, so that a snapshot has what
the store held when each of its requests arrived, or says which of them failed.

This is so for a base URL without a path, as that of an embedded daemon is. One that a user gives may end in a slash: then every request
is for a path that no endpoint has, is answered with the page of the web dashboard, and comes to an error.
-/

namespace Monitra

open Serde Tui RouterAux Results

/-- The URL of a server: a scheme and an authority, and no path. -/
def isOrigin (url : String) : Bool :=
  match Str.splitOnce "://" url with
  | some (scheme, authority) =>
    (scheme = "http" ∨ scheme = "https") ∧ authority ≠ "" ∧
      authority.toList.all fun c => c.isAlphanum ∨ c ∈ ['.', '-', ':', '[', ']']
  | none => false

/-- A path in which nothing has a meaning but the slashes. -/
def isPlainPath (path : String) : Bool := Str.startsWith "/" path ∧ path.toList.all fun c => c.isAlphanum ∨ c = '/'

/-- A plain path behind the URL of a server is the path of the whole, which has no query. -/
def Tui.Network.ReadsPaths (net : Network) : Prop :=
  ∀ origin path, isOrigin origin = true → isPlainPath path = true → net.target (origin ++ path) = (path, [])

/-- What a query of the daemon's gives the client: its answer in the state that the request meets, unless the request does not
arrive, the client's token is not the daemon's, or the query fails. -/
def Tui.Client.asked {α : Type} (client : Client) (net : Network) (guarded : Bool) (path : String)
    (query : ApiState → Env → Except ApiError α) : Except ClientError α :=
  let url := client.baseUrl ++ path
  match net.arrive url with
  | .error source => .error (.request url source)
  | .ok (state, env) =>
    if guarded ∧ visibleAscii (Str.asBytes client.token) ≠ some state.token then .error (.status url 401)
    else (query state env).mapError fun e => .status url e.intoResponse.status

/-- What is said of a request that failed. -/
def Tui.ClientError.report {α : Type} (display : Nat → String) (context : String) (r : Except ClientError α) : Option String :=
  match r with
  | .ok _ => none
  | .error e => some (context ++ ": " ++ e.text display)

namespace DashboardAux

variable {client : Client} {net : Network} {url path : String}

/-! ## The credential -/

theorem visibleAscii_append (a b : List UInt8) :
    visibleAscii (a ++ b) = (visibleAscii a).bind fun s => (visibleAscii b).map fun t => s ++ t := by
  unfold visibleAscii
  rw [List.all_append]
  cases ha : a.all fun b => decide ((32 ≤ b ∧ b < 127) ∨ b = 9) with
  | false => simp
  | true =>
    cases hb : b.all fun b => decide ((32 ≤ b ∧ b < 127) ∨ b = 9) with
    | false => simp
    | true => simp [String.ofList_append]

/-- The token as the daemon reads it. -/
theorem bearerToken_getRequest (h : net.axum.toStr = visibleAscii) :
    bearerToken net.axum.toStr (client.getRequest net url).headers = visibleAscii (Str.asBytes client.token) := by
  have hbearer : visibleAscii (Str.asBytes "Bearer ") = some "Bearer " := by decide +kernel
  have happend : Str.asBytes ("Bearer " ++ client.token) = Str.asBytes "Bearer " ++ Str.asBytes client.token := by
    simp [Str.asBytes, String.toByteArray_append]
  unfold bearerToken
  rw [h]
  change (visibleAscii (Str.asBytes ("Bearer " ++ client.token))).bind _ = _
  rw [happend, visibleAscii_append, hbearer, Option.bind_some]
  cases visibleAscii (Str.asBytes client.token) with
  | none => rfl
  | some t => exact Str.stripPrefix_append "Bearer " t

/-! ## A request that reads -/

section

variable {α β γ : Type} {guarded : Bool} {query : ApiState → Env → Except ApiError α} {read : Json → Except Serde.Error γ}

/-- An answer with 200 whose body reads is what it reads as. -/
theorem received_ok {url : String} {body : Body} {value : γ} (h : body.json.map read = some (.ok value)) :
    Client.received read url ⟨200, body⟩ = .ok value := by
  rw [Client.received, if_neg (by simp), h]

/-- An error of a handler is for the client the status it was answered with. -/
theorem received_error {url : String} (e : ApiError) :
    Client.received read url (.ofApiError e) = .error (.status url e.intoResponse.status) := by
  have hstatus : ¬(200 ≤ e.intoResponse.status ∧ e.intoResponse.status < 300) := by
    cases e with
    | notFound | validation => simp [ApiError.intoResponse, StatusCode.asU16]
    | provider e => cases e <;> simp [ApiError.intoResponse, StatusCode.asU16]
  exact if_pos hstatus

/-- The client gets what the daemon's query gives, as it reads it. -/
theorem get_eq (endpoint : Endpoint) (param : String) (handler : Handler) (body : β → Body) (f : α → β) (g : α → γ)
    (htoStr : net.axum.toStr = visibleAscii) (htarget : net.target (client.baseUrl ++ path) = (path, []))
    (hfind : Endpoint.find path = some (endpoint, param))
    (hhandler : endpoint.handler .get = some handler) (hguard : endpoint.guard = if guarded then .token else .none)
    (hrun : ∀ env state request, request.query = [] →
      handler.run net.axum env state request param = reading state body ((query state env).map f))
    (hread : ∀ state env a, net.arrive (client.baseUrl ++ path) = .ok (state, env) → query state env = .ok a →
      (body (f a)).json.map read = some (.ok (g a))) :
    client.get net read path = (client.asked net guarded path query).map g := by
  unfold Client.get Client.asked
  dsimp only
  cases harrive : net.arrive (client.baseUrl ++ path) with
  | error source => rfl
  | ok arrived =>
    obtain ⟨state, env⟩ := arrived
    dsimp only
    have hpath : (client.getRequest net (client.baseUrl ++ path)).path = path := congrArg Prod.fst htarget
    have hquery : (client.getRequest net (client.baseUrl ++ path)).query = [] := congrArg Prod.snd htarget
    have hfind' : Endpoint.find (client.getRequest net (client.baseUrl ++ path)).path = some (endpoint, param) := by rw [hpath, hfind]
    rw [serve_reading hfind' rfl hhandler (hrun env state _ hquery), hguard]
    have hreceived : Client.received read (client.baseUrl ++ path) (.ofQuery body ((query state env).map f)) =
        ((query state env).mapError fun e => ClientError.status (client.baseUrl ++ path) e.intoResponse.status).map g := by
      cases hq : query state env with
      | error e => exact received_error e
      | ok a => exact received_ok (hread state env a harrive hq)
    cases guarded with
    | false =>
      rw [if_neg (by simp), if_neg (by simp)]
      exact hreceived
    | true =>
      rw [if_pos rfl, check_token, bearerToken_getRequest htoStr]
      by_cases htoken : visibleAscii (Str.asBytes client.token) = some state.token
      · rw [if_pos htoken, if_neg (by simp [htoken])]
        exact hreceived
      · rw [if_neg htoken, if_pos ⟨rfl, htoken⟩]
        rfl

end

/-! ## What is written is read -/

/-- A monitor as the terminal reads it. -/
def shownMonitor (dto : Monitra.MonitorDto) : Tui.MonitorDto where
  id := dto.id
  name := dto.name
  target := dto.target
  kind := dto.kind
  intervalSecs := dto.intervalSecs
  status := dto.status
  statusReason := dto.statusReason
  agentId := dto.agentId

/-- A monitor is read as it was written; the terminal has all its fields. -/
theorem deserialize_monitor (dto : Monitra.MonitorDto) : Tui.MonitorDto.deserialize dto.serialize = .ok (shownMonitor dto) := by
  rw [Tui.MonitorDto.deserialize, Monitra.MonitorDto.serialize, readFields_obj]
  simp [bind, Except.bind, readField, readFieldOption, takeField, MonitorKind.deserialize_serialize]
  rfl

/-- Of an agent the terminal reads all but the region. -/
theorem deserialize_agent (dto : Monitra.AgentDto) :
    Tui.AgentDto.deserialize dto.serialize = .ok ⟨dto.id, dto.name, dto.lastHeartbeatAt, dto.scope⟩ := by
  rw [Tui.AgentDto.deserialize, Monitra.AgentDto.serialize, readFields_obj]
  simp [bind, Except.bind, readField, takeField]
  rfl

/-- An alert event is read as it was written. -/
theorem deserialize_alert (dto : AlertEventDto) : Tui.AlertEventDto.deserialize dto.serialize = .ok dto := by
  rw [Tui.AlertEventDto.deserialize, AlertEventDto.serialize, readFields_obj]
  simp [bind, Except.bind, readField, takeField]
  rfl

/-- A check result is read as it was written. -/
theorem deserialize_result (dto : CheckResultDto) : Tui.CheckResultDto.deserialize dto.serialize = .ok dto := by
  rw [Tui.CheckResultDto.deserialize, CheckResultDto.serialize, readFields_obj]
  simp [bind, Except.bind, readField, readFieldOption, takeField]
  rfl

/-- The health as the terminal reads it. -/
def shownHealth (dto : Monitra.HealthResponse) : Tui.HealthResponse where
  status := dto.status
  version := dto.version
  store := dto.store
  cache := dto.cache
  notifier := dto.notifier
  k8sClusters := dto.k8sClusters

/-- The health is read without the number of quarantined monitors. A queue has fewer than 2^64 entries. -/
theorem deserialize_health (dto : Monitra.HealthResponse) (h : dto.notifier.queueLen < 2 ^ 64) :
    Tui.HealthResponse.deserialize dto.serialize = .ok (shownHealth dto) := by
  have hvec : readVec readStr (vec Json.str dto.k8sClusters) = .ok dto.k8sClusters := by
    rw [readVec_vec fun x => readStr_str x, List.map_id']
  have hstore : Tui.StoreHealth.deserialize dto.store.serialize = .ok dto.store := by
    rw [Tui.StoreHealth.deserialize, StoreHealth.serialize, readFields_obj]
    simp [bind, Except.bind, readField, takeField]
    rfl
  have hcache : Tui.CacheHealth.deserialize dto.cache.serialize = .ok dto.cache := by
    rw [Tui.CacheHealth.deserialize, CacheHealth.serialize, readFields_obj]
    simp [bind, Except.bind, readField, takeField]
    rfl
  have hnotifier : Tui.NotifierHealth.deserialize dto.notifier.serialize = .ok dto.notifier := by
    rw [Tui.NotifierHealth.deserialize, NotifierHealth.serialize, readFields_obj]
    simp [bind, Except.bind, readField, takeField, readUsize_usize h]
    rfl
  rw [Tui.HealthResponse.deserialize, Monitra.HealthResponse.serialize, readFields_obj]
  simp [bind, Except.bind, readField, takeField, hvec, hstore, hcache, hnotifier]
  rfl

/-! ## The five requests -/

/-- The path of a history is plain, since an id is written in digits. -/
theorem isPlainPath_history (id : UInt64) : isPlainPath ("/monitors/" ++ toString id ++ "/history") = true := by
  have hid : (toString id).toList.all (fun c => c.isAlphanum ∨ c = '/') = true := by
    rw [List.all_eq_true]
    intro c hc
    simp [Char.isAlphanum, Str.isDigit_of_mem_toString hc]
  simp only [isPlainPath, Str.startsWith, String.toList_append, List.all_append, hid]
  simp

/-- It leads to the endpoint for histories, with the id as its parameter. -/
theorem find_history (id : UInt64) : Endpoint.find ("/monitors/" ++ toString id ++ "/history") = some (.history, toString id) := by
  have hslash : '/' ∉ (toString id).toList := fun h => absurd (Str.isDigit_of_mem_toString h) (by decide)
  have hsplit : Str.split '/' ("/monitors/" ++ toString id ++ "/history") = ["", "monitors", toString id, "history"] := by
    have hlist : ("/monitors/" ++ toString id ++ "/history").toList =
        [] ++ '/' :: ("monitors".toList ++ '/' :: ((toString id).toList ++ '/' :: "history".toList)) := by
      simp [String.toList_append]
    rw [Str.split, hlist, List.splitOn_append_cons_self_of_not_mem (by simp), List.splitOn_append_cons_self_of_not_mem (by decide),
      List.splitOn_append_cons_self_of_not_mem hslash, List.splitOn_eq_singleton (by decide)]
    simp
  unfold Endpoint.find
  rw [hsplit]
  simp [Endpoint.all, Endpoint.pattern, matchPattern, Str.isEmpty_toString]

section

variable (htoStr : net.axum.toStr = visibleAscii)
  (htarget : ∀ path, isPlainPath path = true → net.target (client.baseUrl ++ path) = (path, []))

include htoStr htarget

/-- The terminal's list of monitors is that of the daemon's query. -/
theorem listMonitors_eq :
    client.listMonitors net =
      (client.asked net true "/monitors" fun state env => Service.called env.fault (Service.provider state.store.listMonitors)).map
        fun monitors => monitors.map fun m => shownMonitor (.ofMonitor m) := by
  refine get_eq .monitors "" .listMonitors .monitors (fun monitors => monitors.map .ofMonitor) _ htoStr
    (htarget _ (by decide +kernel)) (by decide +kernel) rfl rfl (fun env state request _ => ?_) fun state env monitors _ _ => ?_
  · change reading state _ (Monitors.list state.store env.fault) = _
    unfold Monitors.list
    cases Service.called env.fault (Service.provider state.store.listMonitors) <;> rfl
  · change some (readVec _ (vec _ _)) = _
    rw [readVec_vec deserialize_monitor, List.map_map]
    rfl

/-- Its list of agents is the query's, without tokens and regions. -/
theorem listAgents_eq :
    client.listAgents net =
      (client.asked net true "/agents" fun state env => Service.called env.fault (Service.provider state.store.listAgents)).map
        fun agents => agents.map fun a => ⟨a.id, a.name, a.lastHeartbeatAt, a.scope⟩ := by
  refine get_eq .agents "" .listAgents .agents (fun agents => agents.map .ofAgent) _ htoStr
    (htarget _ (by decide +kernel)) (by decide +kernel) rfl rfl (fun env state request _ => ?_) fun state env agents _ _ => ?_
  · change reading state _ (Registration.list state.store env.fault) = _
    unfold Registration.list
    cases Service.called env.fault (Service.provider state.store.listAgents) <;> rfl
  · change some (readVec _ (vec _ _)) = _
    rw [readVec_vec deserialize_agent, List.map_map]
    rfl

/-- Its list of alert events is the query's. -/
theorem listAlerts_eq :
    client.listAlerts net =
      (client.asked net true "/alerts" fun state env => Service.called env.fault (Service.provider state.store.listAllAlertEvents)).map
        fun events => events.map .ofAlertEvent := by
  refine get_eq .alerts "" .listAlerts .alerts (fun events => events.map .ofAlertEvent) _ htoStr
    (htarget _ (by decide +kernel)) (by decide +kernel) rfl rfl (fun env state request _ => ?_) fun state env events _ _ => ?_
  · change reading state _ (Alerts.list state.store env.fault) = _
    unfold Alerts.list
    cases Service.called env.fault (Service.provider state.store.listAllAlertEvents) <;> rfl
  · change some (readVec _ (vec _ _)) = _
    rw [readVec_vec deserialize_alert, List.map_id']

/-- Its history of a monitor is what the daemon keeps of it, asked for without a moment to begin with. -/
theorem monitorHistory_eq (hdecode : ∀ text : String, '%' ∉ text.toList → net.axum.decode text = some text) (id : UInt64) :
    client.monitorHistory net id =
      client.asked net true ("/monitors/" ++ toString id ++ "/history") fun state env =>
        queried env (history state.store state.retentionSecs env.nowUnixSecs id none) := by
  have hpercent : '%' ∉ (toString id).toList := fun h => absurd (Str.isDigit_of_mem_toString h) (by decide)
  have hid : net.axum.pathId (toString id) = .ok id := by
    rw [Axum.pathId, hdecode _ hpercent, Option.bind_some, Str.parseU64_toString]
    rfl
  have hget : client.monitorHistory net id =
      (client.asked net true ("/monitors/" ++ toString id ++ "/history") fun state env =>
        queried env (history state.store state.retentionSecs env.nowUnixSecs id none)).map fun dtos => dtos := by
    refine get_eq .history (toString id) .monitorHistory .history (fun dtos => dtos) _ htoStr (htarget _ (isPlainPath_history id))
      (find_history id) rfl rfl (fun env state request hquery => ?_) fun state env dtos _ _ => ?_
    · have hrun : Handler.monitorHistory.run net.axum env state request (toString id) =
          (net.axum.pathId (toString id)).bind fun id => (querySince request.query).bind fun since =>
            reading state .history (queried env (history state.store state.retentionSecs env.nowUnixSecs id since)) := rfl
      rw [hrun, hid, hquery]
      change reading state .history (queried env _) = _
      cases queried env (history state.store state.retentionSecs env.nowUnixSecs id none) <;> rfl
    · change some (readVec _ (vec _ _)) = _
      rw [readVec_vec deserialize_result, List.map_id']
  rw [hget]
  cases client.asked net true _ _ <;> rfl

/-- Its health needs no token. -/
theorem health_eq (hqueue : ∀ url state env, net.arrive url = .ok (state, env) → state.notifier.queue.length < 2 ^ 64) :
    client.health net =
      (client.asked net false "/health" fun state env => .ok (Monitra.health state env.healthCheck)).map shownHealth := by
  refine get_eq .health "" .healthCheck .health (fun response => response) shownHealth htoStr (htarget _ (by decide +kernel))
    (by decide +kernel) rfl rfl (fun env state request _ => rfl) fun state env response harrive hresponse => ?_
  cases hresponse
  change some _ = _
  rw [deserialize_health]
  exact hqueue _ _ _ harrive

end

/-! ## Past the router -/

/-- Of what the fallback answers the client can make nothing: the files of the dashboard are no JSON. -/
theorem received_fallback {γ : Type} (read : Json → Except Serde.Error γ) (url path : String)
    (assets : String → Option (List UInt8)) : ∃ e, Client.received read url (fallback assets path) = .error e := by
  have hjson : (fallback assets path).body.json = none := by
    unfold fallback
    dsimp only
    repeat' split
    all_goals rfl
  unfold Client.received
  split
  · exact ⟨_, rfl⟩
  · rw [hjson]
    exact ⟨_, rfl⟩

/-- A request for a path that no endpoint has comes to an error. -/
theorem get_of_find_eq_none {γ : Type} (read : Json → Except Serde.Error γ)
    (hfind : Endpoint.find (net.target (client.baseUrl ++ path)).1 = none) : ∃ e, client.get net read path = .error e := by
  unfold Client.get
  dsimp only
  cases net.arrive (client.baseUrl ++ path) with
  | error source => exact ⟨_, rfl⟩
  | ok arrived =>
    obtain ⟨state, env⟩ := arrived
    have hfind' : Endpoint.find (client.getRequest net (client.baseUrl ++ path)).path = none := hfind
    simp only [serve, hfind']
    exact received_fallback read _ _ _

/-- No endpoint has a path with a slash too many. -/
theorem find_slash (h : isPlainPath path = true) : Endpoint.find ("/" ++ path) = none := by
  simp only [isPlainPath, Str.startsWith, decide_eq_true_eq, List.isPrefixOf_iff_prefix] at h
  obtain ⟨rest, hrest⟩ := h.1
  have hlist : ("/" ++ path).toList = [] ++ '/' :: ([] ++ '/' :: rest) := by
    rw [String.toList_append, ← hrest]
    rfl
  unfold Endpoint.find
  rw [Str.split, hlist, List.splitOn_append_cons_self_of_not_mem (by simp), List.splitOn_append_cons_self_of_not_mem (by simp)]
  simp [Endpoint.all, Endpoint.pattern, matchPattern]

/-! ## The errors -/

/-- An error that is noted takes the place of the one before; no error leaves it. -/
theorem noteError_eq {α : Type} (display : Nat → String) (lastError : Option String) (context : String) (r : Except ClientError α) :
    noteError display lastError context r = (ClientError.report display context r).or lastError := by
  cases r <;> rfl

/-- What is said of a failed request does not depend on what it was to bring. -/
theorem report_map {α β : Type} (display : Nat → String) (context : String) (r : Except ClientError α) (g : α → β) :
    ClientError.report display context (r.map g) = ClientError.report display context r := by
  cases r <;> rfl

end DashboardAux

open DashboardAux

/-- The terminal shows what the store holds, when its base URL has no path. In whatever state of the daemon each of its requests
arrives, if it does, a snapshot has what the daemon's queries give then: the monitors as they are stored, the agents without their tokens
and regions, the alerts, the health, and the history of the selected monitor within the retention. No answer of the daemon's is ever one
that the terminal cannot read. What a request did not get is empty, and the error shown is that of the last one that failed: not arrived,
refused for the token, or failed by the store. -/
theorem the_terminal_shows_the_store (client : Client) (horigin : isOrigin client.baseUrl = true) (net : Network)
    (hreads : net.ReadsPaths) (htoStr : net.axum.toStr = visibleAscii)
    (hdecode : ∀ text : String, '%' ∉ text.toList → net.axum.decode text = some text)
    (hqueue : ∀ url state env, net.arrive url = .ok (state, env) → state.notifier.queue.length < 2 ^ 64)
    (display : Nat → String) (selected : Option UInt64) :
    let monitors := client.asked net true "/monitors" fun state env =>
      Service.called env.fault (Service.provider state.store.listMonitors)
    let agents := client.asked net true "/agents" fun state env => Service.called env.fault (Service.provider state.store.listAgents)
    let alerts := client.asked net true "/alerts" fun state env =>
      Service.called env.fault (Service.provider state.store.listAllAlertEvents)
    let health := client.asked net false "/health" fun state env => .ok (Monitra.health state env.healthCheck)
    let history := fun id => client.asked net true ("/monitors/" ++ toString id ++ "/history") fun state env =>
      queried env (history state.store state.retentionSecs env.nowUnixSecs id none)
    let s := fetchSnapshot client net display selected
    s.monitors = (monitors.toOption.getD []).map (fun m => { m with id := ⟨m.id.val, 0⟩ }) ∧
      s.agents = (agents.toOption.getD []).map (fun a => { a with token := "", region := none }) ∧
      s.alerts = (alerts.toOption.getD []).map AlertEventDto.ofAlertEvent ∧
      s.health = health.toOption.map shownHealth ∧
      s.selectedHistory = (selected.bind fun id => (history id).toOption.map fun results => (id, results)) ∧
      s.lastError = [ClientError.report display "monitors" monitors, ClientError.report display "agents" agents,
        ClientError.report display "alerts" alerts, ClientError.report display "health" health,
        selected.bind fun id => ClientError.report display "history" (history id)].reduceOption.getLast? := by
  intro monitors agents alerts health history s
  have htarget : ∀ path, isPlainPath path = true → net.target (client.baseUrl ++ path) = (path, []) := fun path => hreads _ path horigin
  have hmonitors : client.listMonitors net = monitors.map fun monitors => monitors.map fun m => shownMonitor (.ofMonitor m) :=
    listMonitors_eq htoStr htarget
  have hagents : client.listAgents net = agents.map fun agents => agents.map fun a => ⟨a.id, a.name, a.lastHeartbeatAt, a.scope⟩ :=
    listAgents_eq htoStr htarget
  have halerts : client.listAlerts net = alerts.map fun events => events.map .ofAlertEvent := listAlerts_eq htoStr htarget
  have hhealth : client.health net = health.map shownHealth := health_eq htoStr htarget hqueue
  have hhistory : ∀ id, client.monitorHistory net id = history id := monitorHistory_eq htoStr htarget hdecode
  have hlast : ∀ a b c d e : Option String, [a, b, c, d, e].reduceOption.getLast? = e.or (d.or (c.or (b.or a))) := by
    intro a b c d e
    cases a <;> cases b <;> cases c <;> cases d <;> cases e <;> rfl
  have hs : s = fetchSnapshot client net display selected := rfl
  simp only [fetchSnapshot, hmonitors, hagents, halerts, hhealth, hhistory, noteError_eq, report_map, toOption_map, Option.or_none] at hs
  have hshown : ((monitors.toOption.map fun monitors => monitors.map fun m => shownMonitor (.ofMonitor m)).getD []).map
      Tui.MonitorDto.into = (monitors.toOption.getD []).map fun m => { m with id := ⟨m.id.val, 0⟩ } := by
    cases monitors.toOption with
    | none => rfl
    | some monitors => exact List.map_map
  have hknown : ((agents.toOption.map fun agents => agents.map fun a => (⟨a.id, a.name, a.lastHeartbeatAt, a.scope⟩ : Tui.AgentDto)).getD
      []).map Tui.AgentDto.into = (agents.toOption.getD []).map fun a => { a with token := "", region := none } := by
    cases agents.toOption with
    | none => rfl
    | some agents => exact List.map_map
  have hsent : (alerts.toOption.map fun events => events.map AlertEventDto.ofAlertEvent).getD [] =
      (alerts.toOption.getD []).map AlertEventDto.ofAlertEvent := by
    cases alerts.toOption <;> rfl
  rw [hshown, hknown, hsent] at hs
  rw [hs, hlast]
  cases selected with
  | none => exact ⟨rfl, rfl, rfl, rfl, rfl, rfl⟩
  | some id =>
    dsimp only [Option.bind_some]
    cases history id with
    | ok results => exact ⟨rfl, rfl, rfl, rfl, rfl, rfl⟩
    | error e => exact ⟨rfl, rfl, rfl, rfl, rfl, rfl⟩

/-- With a base URL that ends in a slash the terminal never shows anything but an error. -/
theorem nothing_is_shown_past_a_slash {client : Client} {origin : String} (horigin : isOrigin origin = true)
    (hbase : client.baseUrl = origin ++ "/") {net : Network} (hreads : net.ReadsPaths) (display : Nat → String)
    (selected : Option UInt64) :
    let s := fetchSnapshot client net display selected
    s.monitors = [] ∧ s.agents = [] ∧ s.alerts = [] ∧ s.health = none ∧ s.selectedHistory = none ∧ s.lastError.isSome = true := by
  intro s
  have hget : ∀ {γ : Type} (read : Json → Except Serde.Error γ) path, isPlainPath path = true →
      ∃ e, client.get net read path = .error e := by
    intro γ read path hpath
    have hslash : isPlainPath ("/" ++ path) = true := by
      obtain ⟨-, hall⟩ := of_decide_eq_true hpath
      refine decide_eq_true ⟨?_, ?_⟩
      · simp [Str.startsWith, String.toList_append]
      · rw [String.toList_append, List.all_append, hall]
        rfl
    refine get_of_find_eq_none read ?_
    rw [hbase, String.append_assoc, hreads origin _ horigin hslash]
    exact find_slash hpath
  obtain ⟨e₁, hmonitors⟩ : ∃ e, client.listMonitors net = .error e := hget _ "/monitors" (by decide +kernel)
  obtain ⟨e₂, hagents⟩ : ∃ e, client.listAgents net = .error e := hget _ "/agents" (by decide +kernel)
  obtain ⟨e₃, halerts⟩ : ∃ e, client.listAlerts net = .error e := hget _ "/alerts" (by decide +kernel)
  obtain ⟨e₄, hhealth⟩ : ∃ e, client.health net = .error e := hget _ "/health" (by decide +kernel)
  have hs : s = fetchSnapshot client net display selected := rfl
  simp only [fetchSnapshot, hmonitors, hagents, halerts, hhealth] at hs
  rw [hs]
  cases selected with
  | none => exact ⟨rfl, rfl, rfl, rfl, rfl, rfl⟩
  | some id =>
    obtain ⟨e₅, hhistory⟩ : ∃ e, client.monitorHistory net id = .error e := hget _ _ (isPlainPath_history id)
    simp only [hhistory]
    exact ⟨rfl, rfl, rfl, rfl, trivial, rfl⟩

namespace TerminalExample

/-- A store with two monitors. -/
def store : Db where
  monitors := ⟨[⟨1, 0, "disk", "/", "host_agent_check", 30, "pending", none⟩, ⟨2, 1, "site", "http://x", "http", 30, "up", none⟩],
    by decide⟩
  checkResults := Table.empty
  agents := Table.empty
  alertEvents := Table.empty
  inserted := 2

def state : ApiState where
  toAppState := ⟨store, "secret", ⟨1, []⟩⟩
  version := "0"
  assignments := AssignmentHandle.new 1
  notifier := RetryingNotifier.new "webhook" 1
  cache := DegradingCache.new none
  k8sClusters := []
  retentionSecs := 0

def env : Env := ⟨0, fun _ => 0, Vector.replicate 32 0, .ok (), false, none⟩

/-- What stands behind the authority of a URL, as far as it is a path. -/
def target (url : String) : String × List (String × String) :=
  match Str.splitOnce "://" url with
  | some (_, rest) => (String.ofList (rest.toList.dropWhile (· ≠ '/')), [])
  | none => ("/", [])

/-- The daemon is there for every request but that of the alerts. -/
def net : Network where
  axum := ⟨visibleAscii, some, true⟩
  assets path := if path = "index.html" then some [60] else none
  target := target
  arrive url := if url = "http://daemon/alerts" then .error "connection closed" else .ok (state, env)

theorem readsPaths_net : net.ReadsPaths := by
  intro origin path horigin hpath
  simp only [isOrigin] at horigin
  split at horigin
  · rename_i scheme authority horigin'
    simp only [decide_eq_true_eq] at horigin
    obtain ⟨hscheme, -, hauthority⟩ := horigin
    have hsplit : Str.splitOnce "://" (origin ++ path) = some (scheme, authority ++ path) := Str.splitOnce_append horigin' path
    have hdrop : (authority ++ path).toList.dropWhile (· ≠ '/') = path.toList := by
      rw [String.toList_append, List.dropWhile_append_of_pos fun c hc => ?_]
      · simp only [isPlainPath, Str.startsWith, decide_eq_true_eq, List.isPrefixOf_iff_prefix] at hpath
        obtain ⟨rest, hrest⟩ := hpath.1
        rw [← hrest]
        rfl
      · have hchar := List.all_eq_true.mp hauthority c hc
        simp only [decide_eq_true_eq] at hchar ⊢
        rintro rfl
        revert hchar
        decide
    simp only [net, target, hsplit, hdrop, String.ofList_toList]
  · cases horigin

/-- What the daemon answers under a base URL that ends in a slash is its page. -/
example : (⟨"http://daemon/", "secret"⟩ : Client).listMonitors net = .error (.decode "http://daemon//monitors") := by decide +kernel

end TerminalExample

open TerminalExample in
theorem the_terminal_shows_the_store_monitors :
    let s := fetchSnapshot ⟨"http://daemon", "secret"⟩ net toString (some 2)
    s.monitors.map (·.name) = ["disk", "site"] ∧ s.selectedHistory = some (2, []) ∧
      s.lastError = some "alerts: tui: request to http://daemon/alerts failed: connection closed" := by
  intro s
  have hqueue : ∀ url state' env', net.arrive url = .ok (state', env') → state'.notifier.queue.length < 2 ^ 64 := by
    intro url state' env' h
    simp only [net] at h
    split at h
    · cases h
    · cases h
      decide
  obtain ⟨hmonitors, -, -, -, hhistory, hlast⟩ := the_terminal_shows_the_store ⟨"http://daemon", "secret"⟩ (by decide +kernel) net
    readsPaths_net rfl (fun text _ => rfl) hqueue toString (some 2)
  refine ⟨?_, hhistory.trans ?_, hlast.trans ?_⟩
  · rw [hmonitors]
    decide +kernel
  · decide +kernel
  · decide +kernel

end Monitra
