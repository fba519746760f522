import Monitra.Library.Runs
import Monitra.Theorems.Ledger
import Monitra.Theorems.Resync

/-!
# What the API lets into the store

An interval comes as any JSON value. What the handlers let through is an integer the scheduler accepts, so that a database whose
intervals are valid stays one, and nothing that a client sends brings a monitor into quarantine.
-/

namespace Monitra

open Runs Results

variable {V : Type}

/-- The monitors that a body shows. -/
def Body.shown : Body → List MonitorDto
  | .monitor dto => [dto]
  | .monitors dtos => dtos
  | _ => []

/-- Every stored interval is valid. -/
def Db.ValidIntervals (db : Db) : Prop := ∀ row ∈ db.monitors.rows, validIntervalSecs row.readInterval = true

/-- An interval that a client gives, when it is one: an integer that the scheduler accepts. -/
def givenInterval (value : Option Json) : Option UInt64 := (value.bind Json.asU64).filter validIntervalSecs

/-- What a request that gives an interval that is not one is answered. -/
def invalidInterval : ApiResponse := ⟨400, .error "backend: monitor interval_secs must be 1..=86400"⟩

namespace QuarantineAux

open RouterAux RefinementAux LedgerAux

variable {axum : Axum V} {env : Env} {state : ApiState} {request : ApiRequest V} {param : String}
  {assets : String → Option (List UInt8)}

/-! ## Valid intervals stay -/

/-- Every stored interval is valid when the row of every id has a valid one. -/
theorem validIntervals_iff {db : Db} :
    db.ValidIntervals ↔ ∀ id row, db.row? id = some row → validIntervalSecs row.readInterval = true := by
  constructor
  · intro h id row hrow
    exact h row (Table.get?_eq_some_iff.mp hrow).1
  · intro h row hrow
    refine h row.id.toUInt64 row ?_
    rw [Db.row?, Int64.toInt64_toUInt64]
    exact Table.get?_of_mem hrow

/-- Only the table of monitors counts. -/
theorem validIntervals_congr {db db' : Db} (h : db'.monitors = db.monitors) (hv : db.ValidIntervals) : db'.ValidIntervals := by
  unfold Db.ValidIntervals
  rw [h]
  exact hv

/-- An operation that rewrites the row of one id, keeping its interval valid. -/
theorem validIntervals_rewrite {db db' : Db} {id : UInt64} {f : MonitorRow → MonitorRow}
    (hget : ∀ k, db'.row? k = (db.row? k).map fun row => if k = id then f row else row) (hv : db.ValidIntervals)
    (hf : ∀ row, validIntervalSecs row.readInterval = true → validIntervalSecs (f row).readInterval = true) :
    db'.ValidIntervals := by
  rw [validIntervals_iff] at hv ⊢
  intro k row' hrow'
  rw [hget, Option.map_eq_some_iff] at hrow'
  obtain ⟨row, hrow, rfl⟩ := hrow'
  split
  · exact hf row (hv k row hrow)
  · exact hv k row hrow

/-- A status is set beside the interval. -/
theorem validIntervals_setMonitorStatus {db db' : Db} {id : UInt64} {status : MonitorStatus}
    (h : db.setMonitorStatus id status = .ok db') (hv : db.ValidIntervals) : db'.ValidIntervals := by
  obtain ⟨-, -, -, -, hget⟩ := Db.setMonitorStatus_eq_ok h
  exact validIntervals_rewrite hget hv fun row hrow => hrow

/-- An edit stores an interval that was checked, or keeps the one that was there. -/
theorem validIntervals_editMonitor {db db' : Db} {id : UInt64} {name target : Option String} {intervalSecs agentId : Option UInt64}
    (h : Service.editMonitor db id name target intervalSecs agentId = .ok db') (hv : db.ValidIntervals) : db'.ValidIntervals := by
  obtain ⟨hi, h⟩ := editMonitor_eq_ok h
  obtain ⟨-, -, -, hget⟩ := Db.updateMonitor_eq_ok h
  refine validIntervals_rewrite hget hv fun row hrow => ?_
  cases intervalSecs with
  | none => exact hrow
  | some v =>
    rw [readInterval_toInt64 (small_of_valid (hi v rfl)) rfl]
    exact hi v rfl

/-- A monitor is added with an interval that was checked. -/
theorem validIntervals_addMonitor {db db' : Db} {m : Monitor} {name target : String} {kind : MonitorKind} {intervalSecs : UInt64}
    {agentId : Option UInt64} {pick : List Int64 → Int64}
    (h : Service.addMonitor db name target kind intervalSecs agentId pick = .ok (db', m)) (hv : db.ValidIntervals) :
    db'.ValidIntervals := by
  unfold Service.addMonitor at h
  split at h
  · cases h
  · obtain ⟨hvalid, id, -, hget⟩ := row?_of_insertMonitor (provider_eq_ok.mp h)
    rw [validIntervals_iff] at hv ⊢
    intro k row hrow
    rw [hget] at hrow
    split at hrow
    · cases hrow
      rw [readInterval_toInt64 (small_of_valid hvalid) rfl]
      exact hvalid
    · exact hv k row hrow

/-- What a removal leaves was there. -/
theorem validIntervals_removeMonitor {db db' : Db} {id : UInt64} (h : Service.removeMonitor db id = .ok db')
    (hv : db.ValidIntervals) : db'.ValidIntervals := by
  obtain ⟨-, -, -, hget⟩ := Db.deleteMonitor_eq_ok (provider_eq_ok.mp h)
  rw [validIntervals_iff] at hv ⊢
  intro k row hrow
  rw [hget] at hrow
  split at hrow
  · cases hrow
  · exact hv k row hrow

/-- A handler that carries a request out keeps the intervals valid. -/
theorem validIntervals_of_done {handler : Handler} {x : ApiState × ApiResponse}
    (h : handler.Done axum env state request param x) (hv : state.store.ValidIntervals) : x.1.store.ValidIntervals := by
  cases h with
  | answered => exact hv
  | created _ _ hcall => exact validIntervals_addMonitor hcall hv
  | edited _ _ _ hcall => exact validIntervals_editMonitor hcall hv
  | removed _ hcall => exact validIntervals_removeMonitor hcall hv
  | paused _ hcall => exact validIntervals_setMonitorStatus (provider_eq_ok.mp hcall) hv
  | resumed _ hcall => exact validIntervals_setMonitorStatus (provider_eq_ok.mp hcall) hv
  | registered _ hcall => exact validIntervals_congr (upsertAgent_eq_ok (provider_eq_ok.mp hcall)).1 hv
  | deregistered _ hcall => exact validIntervals_congr (deleteAgent_eq_ok (provider_eq_ok.mp hcall)).1 hv
  | pushed _ _ hcall => exact validIntervals_congr (heartbeatAgent_eq_ok (provider_eq_ok.mp hcall)).1 hv
  | pulled => exact hv

/-- What the engine writes has no interval in it. -/
theorem validIntervals_of_engineWrite {db db' : Db} (h : EngineWrite db db') (hv : db.ValidIntervals) : db'.ValidIntervals := by
  cases h with
  | status h => exact validIntervals_setMonitorStatus h hv
  | results h => exact validIntervals_congr (Db.insertCheckResults_eq_ok h).1 hv
  | alert h => exact validIntervals_congr (monitors_of_insertAlertEvent h) hv
  | prune => exact validIntervals_congr rfl hv

/-! ## What is shown -/

/-- A row with a valid interval is shown without a reason. -/
theorem statusReason_of_row {row : MonitorRow} {m : Monitor} (h : rowToMonitor row = .ok m)
    (hv : validIntervalSecs row.readInterval = true) : (MonitorDto.ofMonitor m).statusReason = none := by
  have hm : validIntervalSecs m.intervalSecs = true := by
    rw [(rowToMonitor_eq_ok h).2.2.2.2.1]
    exact hv
  simp [MonitorDto.ofMonitor, hm]

/-- One monitor is shown without a reason. -/
theorem statusReason_showMonitor {id : UInt64} {dto : MonitorDto} {fault : Option ProviderError} {db : Db}
    (h : Monitors.showMonitor db fault id = .ok dto) (hv : db.ValidIntervals) : dto.statusReason = none := by
  obtain ⟨found, hcall, h⟩ := bind_eq_ok h
  have hget := provider_eq_ok.mp (called_eq_ok hcall)
  cases found with
  | none => cases h
  | some m =>
    cases h
    unfold Db.getMonitor at hget
    split at hget
    · cases hget
    · rename_i row hrow
      obtain ⟨m', hm', he⟩ := map_eq_ok hget
      cases he
      exact statusReason_of_row hm' (hv row (Table.get?_eq_some_iff.mp hrow).1)

/-- So are they all in the list. -/
theorem statusReason_listMonitors {dtos : List MonitorDto} {fault : Option ProviderError} {db : Db}
    (h : Monitors.list db fault = .ok dtos) (hv : db.ValidIntervals) : ∀ dto ∈ dtos, dto.statusReason = none := by
  obtain ⟨monitors, hcall, h⟩ := bind_eq_ok h
  cases h
  intro dto hdto
  obtain ⟨m, hm, rfl⟩ := List.mem_map.mp hdto
  obtain ⟨row, hrow, hread⟩ := Db.row_of_mem_listMonitors (provider_eq_ok.mp (called_eq_ok hcall)) hm
  exact statusReason_of_row hread (hv row (Table.get?_eq_some_iff.mp hrow).1)

/-- A monitor that was just created has the interval that was checked. -/
theorem statusReason_create {db db' : Db} {dto : MonitorDto} {fault : Option ProviderError} {pick : List Int64 → Int64}
    {body : CreateMonitorRequest} (h : Monitors.create db fault pick body = .ok (db', dto)) : dto.statusReason = none := by
  obtain ⟨intervalSecs, hi, h⟩ := bind_eq_ok h
  obtain ⟨⟨store, monitor⟩, hcall, he⟩ := bind_eq_ok h
  cases he
  have hcall := called_eq_ok hcall
  unfold Service.addMonitor at hcall
  split at hcall
  · cases hcall
  · obtain ⟨hvalid, id, rfl, -⟩ := row?_of_insertMonitor (provider_eq_ok.mp hcall)
    simp [MonitorDto.ofMonitor, hvalid]

/-- No answer shows a monitor with a reason while the stored intervals are valid. -/
theorem statusReason_of_run {handler : Handler} {x : ApiState × ApiResponse}
    (h : handler.run axum env state request param = .ok x) (hv : state.store.ValidIntervals) :
    ∀ dto ∈ x.2.body.shown, dto.statusReason = none := by
  have hnone : x.2.body.shown = [] → ∀ dto ∈ x.2.body.shown, dto.statusReason = none := by
    intro hempty dto hdto
    rw [hempty] at hdto
    cases hdto
  cases handler with
  | createMonitor =>
    obtain ⟨body, -, h⟩ := bind_eq_ok h
    obtain ⟨store, dto, hr, rfl⟩ := creating_eq_ok h
    exact List.forall_mem_singleton.mpr (statusReason_create hr)
  | listMonitors =>
    obtain ⟨dtos, hr, rfl⟩ := reading_eq_ok h
    exact statusReason_listMonitors hr hv
  | showMonitor =>
    obtain ⟨id, -, h⟩ := bind_eq_ok h
    obtain ⟨dto, hr, rfl⟩ := reading_eq_ok h
    exact List.forall_mem_singleton.mpr (statusReason_showMonitor hr hv)
  | healthCheck =>
    cases h
    exact hnone rfl
  | editMonitor =>
    obtain ⟨id, -, h⟩ := bind_eq_ok h
    obtain ⟨body, -, h⟩ := bind_eq_ok h
    obtain ⟨store, -, rfl⟩ := changing_eq_ok h
    exact hnone rfl
  | removeMonitor | pauseMonitor | resumeMonitor | removeAgent =>
    obtain ⟨id, -, h⟩ := bind_eq_ok h
    obtain ⟨store, -, rfl⟩ := changing_eq_ok h
    exact hnone rfl
  | monitorHistory =>
    obtain ⟨id, -, h⟩ := bind_eq_ok h
    obtain ⟨since, -, h⟩ := bind_eq_ok h
    obtain ⟨answer, -, rfl⟩ := reading_eq_ok h
    exact hnone rfl
  | registerAgent =>
    obtain ⟨body, -, h⟩ := bind_eq_ok h
    obtain ⟨store, answer, -, rfl⟩ := creating_eq_ok h
    exact hnone rfl
  | listAgents | listAlerts =>
    obtain ⟨answer, -, rfl⟩ := reading_eq_ok h
    exact hnone rfl
  | listRegions =>
    obtain ⟨since, -, h⟩ := bind_eq_ok h
    obtain ⟨answer, -, rfl⟩ := reading_eq_ok h
    exact hnone rfl
  | upgrade =>
    simp only [Handler.run] at h
    split at h
    · cases h
    · cases h
      exact hnone rfl
  | push | listAssignments =>
    cases done_of_run h with
    | answered hr => cases hr
    | _ => exact hnone rfl

/-- Nor does any other response. -/
theorem statusReason_of_serve (hv : state.store.ValidIntervals) :
    ∀ dto ∈ (serve axum env state request assets).2.body.shown, dto.statusReason = none := by
  have hto : ∀ response : ApiResponse, response.body.shown = [] ∨ (∀ dto ∈ response.body.shown, dto.statusReason = none) →
      ∀ dto ∈ (response.to request).body.shown, dto.statusReason = none := by
    intro response hr dto hdto
    unfold ApiResponse.to at hdto
    split at hdto
    · cases hdto
    · rcases hr with hr | hr
      · rw [hr] at hdto
        cases hdto
      · exact hr dto hdto
  have hrefuses : ∀ response : ApiResponse, response.refuses → response.body.shown = [] := by
    rintro response (h | ⟨message, h⟩ | rfl)
    · rw [h]; rfl
    · rw [h]; rfl
    · rfl
  unfold serve
  cases hf : Endpoint.find request.path with
  | none =>
    refine hto _ (Or.inl ?_)
    unfold fallback
    dsimp only
    repeat' split
    all_goals rfl
  | some y =>
    obtain ⟨endpoint, param⟩ := y
    refine hto _ ?_
    unfold Endpoint.answer
    cases hh : endpoint.handler request.method with
    | none =>
      left
      dsimp only
      split
      · rename_i response ha
        split at ha
        · exact hrefuses _ (refuses_of_check ha)
        · cases ha
      · rfl
    | some handler =>
      dsimp only
      split
      · rename_i response ha
        exact Or.inl (hrefuses _ (refuses_of_check ha))
      · split
        · rename_i x hr
          exact Or.inr (statusReason_of_run hr hv)
        · rename_i response hr
          exact Or.inl (hrefuses _ (refuses_of_run hr))

/-! ## Runs -/

/-- A request keeps the intervals valid, carried out or not. -/
theorem validIntervals_of_serve (hv : state.store.ValidIntervals) :
    (serve axum env state request assets).1.store.ValidIntervals := by
  have hcases := serve_cases axum env state request assets
  generalize serve axum env state request assets = r at hcases ⊢
  rcases hcases with ⟨-, rfl⟩ | ⟨endpoint, param, -, ⟨-, h'⟩ | ⟨handler, -, ⟨response, -, rfl⟩ | ⟨x, -, hdone, rfl⟩⟩⟩
  · exact hv
  · rw [h']
    exact hv
  · exact hv
  · exact validIntervals_of_done (x := x) hdone hv

/-- Along a run the intervals are valid, and every response was given by a state with valid ones. -/
theorem of_run {ok : ApiState → ApiAction V → Prop} {s₀ s : ApiState} {log : List (Exchange V)}
    (hok : ∀ s s', ok s (.daemon s') → s'.store = s.store ∨ EngineWrite s.store s'.store)
    (h : Run (ApiState.step axum assets) ok s₀ s log) (h0 : s₀.store.ValidIntervals) :
    s.store.ValidIntervals ∧ ∀ x ∈ log, x.state.store.ValidIntervals ∧
      x.response = (serve axum x.env x.state x.request assets).2 := by
  refine h.invariant (I := fun s log => s.store.ValidIntervals ∧ ∀ x ∈ log, x.state.store.ValidIntervals ∧
    x.response = (serve axum x.env x.state x.request assets).2) ⟨h0, by simp⟩ ?_
  rintro s s' log ev a ⟨hv, hlog⟩ ha hs
  cases a with
  | daemon state' =>
    simp only [ApiState.step] at hs
    split at hs
    · cases hs
      rw [List.append_nil]
      refine ⟨?_, hlog⟩
      rcases hok s _ ha with he | hw
      · rw [he]
        exact hv
      · exact validIntervals_of_engineWrite hw hv
    · cases hs
  | request env request =>
    cases hs
    refine ⟨validIntervals_of_serve hv, fun x hx => ?_⟩
    rcases List.mem_append.mp hx with hx | hx
    · exact hlog x hx
    · cases List.mem_singleton.mp hx
      exact ⟨hv, rfl⟩

/-- A monitor that reads from a row with a valid interval is not quarantined. -/
theorem quarantined_resync {db : Db} (hv : db.ValidIntervals) {monitors : List Monitor} (h : db.listMonitors = .ok monitors)
    (scheduler : Scheduler) (now : Instant) : (scheduler.resync now monitors).1.quarantined = [] := by
  refine List.eq_nil_iff_forall_not_mem.mpr fun id hid => ?_
  simp only [Scheduler.resync, ResyncAux.mem_quarantined_foldl, List.not_mem_nil, false_or] at hid
  obtain ⟨m, hm, -, hbad⟩ := hid
  obtain ⟨row, hrow, hread⟩ := Db.row_of_mem_listMonitors h hm
  have hvalid := hv row (Table.get?_eq_some_iff.mp hrow).1
  rw [← (rowToMonitor_eq_ok hread).2.2.2.2.1, hbad] at hvalid
  cases hvalid

/-- The error that `parse_interval` gives. -/
def intervalError : ApiError := .validation "backend: monitor interval_secs must be 1..=86400"

/-- Anything that is not an interval is refused. -/
theorem parseInterval_of_none {value : Option Json} (h : givenInterval value = none) :
    parseInterval value = .error intervalError := by
  unfold givenInterval at h
  rw [parseInterval, h, intervalError]

/-- A request to create a monitor with it is refused. -/
theorem invalid_create {body : CreateMonitorRequest} (hb : request.json.createMonitor = .ok body)
    (hi : givenInterval body.intervalSecs = none) :
    Handler.run axum env state request param .createMonitor = .error invalidInterval := by
  have hcreate : Monitors.create state.store env.fault env.pick body = .error intervalError := by
    rw [Monitors.create, parseInterval_of_none hi]
    rfl
  rw [Handler.run, hb]
  change creating state .monitor (Monitors.create state.store env.fault env.pick body) = _
  rw [hcreate]
  rfl

/-- So is one to edit a monitor with it. -/
theorem invalid_edit {id : UInt64} {body : EditMonitorRequest} {value : Json} (hid : axum.pathId param = .ok id)
    (hb : request.json.editMonitor = .ok body) (hv : body.intervalSecs = some value) (hi : givenInterval (some value) = none) :
    Handler.run axum env state request param .editMonitor = .error invalidInterval := by
  have hedit : Monitors.edit state.store env.fault id body = .error intervalError := by
    rw [Monitors.edit, hv, Option.mapM_some, parseInterval_of_none hi]
    rfl
  rw [Handler.run, hid, hb]
  change changing state (Monitors.edit state.store env.fault id body) = _
  rw [hedit]
  rfl

end QuarantineAux

open LedgerAux QuarantineAux

/-- No client can bring a monitor into quarantine. In every run of requests by any clients, with the writes of the engine in
between, from a store with valid intervals: no response shows a monitor with an invalid interval, a request that gives one is told
so, and the engine that lists the monitors afterwards, or any other that starts with them, quarantines none. -/
theorem api_quarantines_nothing {axum : Axum V} {assets : String → Option (List UInt8)} {ok : ApiState → ApiAction V → Prop}
    {s₀ s : ApiState} {log : List (Exchange V)}
    (hok : ∀ s s', ok s (.daemon s') → s'.store = s.store ∨ EngineWrite s.store s'.store)
    (h : Run (ApiState.step axum assets) ok s₀ s log) (h0 : s₀.store.Readable) (hv : s₀.store.ValidIntervals) :
    (∀ x ∈ log, ∀ dto ∈ x.response.body.shown, dto.statusReason = none) ∧
      (∀ x ∈ log, x.authorized axum = true →
        (∀ body param, Endpoint.find x.request.path = some (.monitors, param) → x.request.method = .post →
          x.request.json.createMonitor = .ok body → givenInterval body.intervalSecs = none → x.response = invalidInterval) ∧
        ∀ id body param value, Endpoint.find x.request.path = some (.monitor, param) → x.request.method = .patch →
          axum.pathId param = .ok id → x.request.json.editMonitor = .ok body → body.intervalSecs = some value →
          givenInterval (some value) = none → x.response = invalidInterval) ∧
      ∃ monitors, s.store.listMonitors = .ok monitors ∧
        ∀ (scheduler : Scheduler) (now : Instant), (scheduler.resync now monitors).1.quarantined = [] := by
  obtain ⟨hvalid, hlog⟩ := of_run hok h hv
  refine ⟨fun x hx => ?_, fun x hx ha => ⟨fun body param hf hm hb hi => ?_, fun id body param value hf hm hid hb hval hi => ?_⟩, ?_⟩
  · rw [(hlog x hx).2]
    exact statusReason_of_serve (hlog x hx).1
  · rw [(hlog x hx).2]
    exact answer_of_token (x.state, _) hf rfl (by rw [hm]; rfl) (by rw [hm]; decide) ha
      (Or.inr (invalid_create hb hi))
  · rw [(hlog x hx).2]
    exact answer_of_token (x.state, _) hf rfl (by rw [hm]; rfl) (by rw [hm]; decide) ha
      (Or.inr (invalid_edit hid hb hval hi))
  · have hlist := mapM_eq_ok (config?_of_run hok h h0).1
    exact ⟨_, hlist, fun scheduler now => quarantined_resync hvalid hlist scheduler now⟩

open ApiExample in
theorem api_quarantines_nothing_created :
    let ok : ApiState → ApiAction String → Bool := fun s a =>
      match a with
      | .request _ _ => true
      | .daemon s' => decide (s'.store = s.store)
    let x := after (ApiState.step axum assets) ok start
      [.request env (request .post "/monitors"), .request env (request .get "/monitors")]
    (∀ y ∈ x.2, ∀ dto ∈ y.response.body.shown, dto.statusReason = none) ∧
      ∃ monitors, x.1.store.listMonitors = .ok monitors ∧
        ∀ (scheduler : Scheduler) (now : Instant), (scheduler.resync now monitors).1.quarantined = [] := by
  intro ok x
  have hok : ∀ s s', ok s (.daemon s') = true → s'.store = s.store ∨ EngineWrite s.store s'.store :=
    fun s s' h => Or.inl (of_decide_eq_true h)
  have hrun : Run (ApiState.step axum assets) (fun s a => ok s a = true) start x.1 x.2 := run_after rfl
  have hreadable : start.store.Readable := fun row hrow => absurd hrow List.not_mem_nil
  have hvalid : start.store.ValidIntervals := fun row hrow => absurd hrow List.not_mem_nil
  obtain ⟨hshown, -, hnone⟩ := api_quarantines_nothing hok hrun hreadable hvalid
  exact ⟨hshown, hnone⟩

end Monitra
