import Monitra.Storage.Ops
import Monitra.Theorems.Strangers

/-!
# The tokens of the agents

A token is told to the agent that registers, in the answer to its registration. No other answer depends on it: two daemons that differ
in the tokens of their agents alone answer every request alike, except where a request presents the one token and not the other.
-/

namespace Monitra

open Runs

/-- An agent's row without its token. -/
def tokenMask : Mask AgentRow.id where
  apply row := { row with token := "" }
  key_apply _ := rfl
  apply_apply _ := rfl

def Db.forgetTokens (db : Db) : Db := { db with agents := db.agents.mask tokenMask }

/-- The daemon's state without the tokens of the agents. -/
def ApiState.forgetTokens (state : ApiState) : ApiState := { state with store := state.store.forgetTokens }

/-- What the daemon is asked for, and what happens in it. -/
inductive ServedAction (V : Type) where
  | request (env : Env) (request : ApiRequest V)
  /-- Any caller of the store. -/
  | store (call : StoreCall)
  /-- What the engine does to the rest of the state. -/
  | daemon (ingest : IngestHandle) (assignments : AssignmentHandle) (notifier : RetryingNotifier) (cache : DegradingCache)

/-- The daemon: requests by any clients, calls of the store by anyone, and what its tasks do to what they share with the handlers. -/
def ApiState.stepServed {V : Type} (axum : Axum V) (assets : String → Option (List UInt8)) (state : ApiState) :
    ServedAction V → Option (ApiState × List (Exchange V))
  | .request env request =>
    let (state', response) := serve axum env state request assets
    some (state', [⟨state, env, request, response⟩])
  | .store call => (state.store.call call).map fun x => ({ state with store := x.1 }, [])
  | .daemon ingest assignments notifier cache => some ({ state with ingest, assignments, notifier, cache }, [])

/-- Whether an action cannot tell two daemons apart by the tokens of their agents: a request presents the credential of its endpoint to
both or to neither. -/
def ServedAction.alike {V : Type} (axum : Axum V) (x : ApiState × ApiState) : ServedAction V → Bool
  | .request _ asked => authorized axum x.1 asked = authorized axum x.2 asked
  | _ => true

namespace SecrecyAux

open StrangersAux Results

/-! ## The store -/

theorem forgetTokens_monitors (db : Db) : db.forgetTokens.monitors = db.monitors := rfl
theorem forgetTokens_checkResults (db : Db) : db.forgetTokens.checkResults = db.checkResults := rfl
theorem forgetTokens_alertEvents (db : Db) : db.forgetTokens.alertEvents = db.alertEvents := rfl
theorem forgetTokens_inserted (db : Db) : db.forgetTokens.inserted = db.inserted := rfl

theorem get?_forgetTokens (db : Db) (id : Int64) : db.forgetTokens.agents.get? id = (db.agents.get? id).map tokenMask.apply :=
  Table.get?_mask tokenMask db.agents id

theorem agentRefOk_forgetTokens (db : Db) (agentId : Option Int64) : db.forgetTokens.agentRefOk agentId = db.agentRefOk agentId := by
  cases agentId with
  | none => rfl
  | some a => exact Table.isSome_get?_mask tokenMask db.agents a

theorem insertMonitor_forgetTokens (db : Db) (monitor : Monitor) (pick : List Int64 → Int64) :
    db.forgetTokens.insertMonitor monitor pick = (db.insertMonitor monitor pick).map (Prod.map Db.forgetTokens id) := by
  unfold Db.insertMonitor
  rw [agentRefOk_forgetTokens, forgetTokens_monitors, forgetTokens_inserted]
  split
  · rfl
  · cases db.monitors.insertRow (Db.monitorRow monitor db.inserted) (fun _ => rfl) pick with
    | none => rfl
    | some x =>
      dsimp only
      split <;> rfl

theorem updateMonitor_forgetTokens (db : Db) (id : UInt64) (name target : Option String) (intervalSecs agentId : Option UInt64) :
    db.forgetTokens.updateMonitor id name target intervalSecs agentId =
      (db.updateMonitor id name target intervalSecs agentId).map Db.forgetTokens := by
  unfold Db.updateMonitor
  rw [agentRefOk_forgetTokens, forgetTokens_monitors]
  split
  · rfl
  · cases db.monitors.get? id.toInt64 with
    | none => rfl
    | some row =>
      dsimp only
      split <;> rfl

theorem setMonitorStatus_forgetTokens (db : Db) (id : UInt64) (status : MonitorStatus) :
    db.forgetTokens.setMonitorStatus id status = (db.setMonitorStatus id status).map Db.forgetTokens := by
  unfold Db.setMonitorStatus
  rw [forgetTokens_monitors]
  cases db.monitors.get? id.toInt64 <;> rfl

theorem deleteMonitor_forgetTokens (db : Db) (id : UInt64) :
    db.forgetTokens.deleteMonitor id = (db.deleteMonitor id).map Db.forgetTokens := by
  unfold Db.deleteMonitor
  rw [forgetTokens_monitors]
  cases db.monitors.get? id.toInt64 <;> rfl

theorem insertCheckResult_forgetTokens (db : Db) (result : CheckResult) (pick : List Int64 → Int64) :
    db.forgetTokens.insertCheckResult result pick = (db.insertCheckResult result pick).map Db.forgetTokens := by
  unfold Db.insertCheckResult
  rw [forgetTokens_monitors, forgetTokens_checkResults]
  cases db.checkResults.insertRow (Db.checkResultRow result) (fun _ => rfl) pick with
  | none => rfl
  | some x =>
    dsimp only
    by_cases hm : (db.monitors.get? result.monitorId.val.toInt64).isSome = true
    · rw [if_pos hm, if_pos hm]
      rfl
    · rw [if_neg hm, if_neg hm]
      rfl

theorem insertCheckResults_forgetTokens (pick : List Int64 → Int64) :
    ∀ (results : List CheckResult) (db : Db),
      db.forgetTokens.insertCheckResults pick results = (db.insertCheckResults pick results).map Db.forgetTokens
  | [], _ => rfl
  | result :: results, db => by
    rw [Db.insertCheckResults, Db.insertCheckResults, insertCheckResult_forgetTokens]
    cases db.insertCheckResult result pick with
    | error e => rfl
    | ok db' => exact insertCheckResults_forgetTokens pick results db'

theorem insertAlertEvent_forgetTokens (db : Db) (event : AlertEvent) (pick : List Int64 → Int64) :
    db.forgetTokens.insertAlertEvent event pick = (db.insertAlertEvent event pick).map (Prod.map Db.forgetTokens id) := by
  unfold Db.insertAlertEvent
  rw [forgetTokens_monitors, forgetTokens_alertEvents]
  cases db.alertEvents.insertRow (Db.alertEventRow event) (fun _ => rfl) pick with
  | none => rfl
  | some x =>
    dsimp only
    by_cases hm : (db.monitors.get? event.monitorId.toInt64).isSome = true
    · rw [if_pos hm, if_pos hm]
      rfl
    · rw [if_neg hm, if_neg hm]
      rfl

theorem heartbeatAgent_forgetTokens (db : Db) (id atUnixSecs : UInt64) :
    db.forgetTokens.heartbeatAgent id atUnixSecs = (db.heartbeatAgent id atUnixSecs).map Db.forgetTokens := by
  unfold Db.heartbeatAgent
  rw [get?_forgetTokens]
  cases db.agents.get? id.toInt64 with
  | none => rfl
  | some row =>
    have hupdate := Table.update_mask tokenMask db.agents (p := fun row => decide (row.id = id.toInt64))
      (f := fun row => { row with lastHeartbeatAt := atUnixSecs.toInt64 }) (fun _ => rfl) (fun _ => rfl) fun _ => rfl
    exact congrArg (fun agents => Except.ok { db with agents }) hupdate

theorem deleteAgent_forgetTokens (db : Db) (id : UInt64) :
    db.forgetTokens.deleteAgent id = (db.deleteAgent id).map Db.forgetTokens := by
  unfold Db.deleteAgent
  rw [get?_forgetTokens, forgetTokens_monitors]
  cases db.agents.get? id.toInt64 with
  | none => rfl
  | some row =>
    have hdelete := Table.delete_mask tokenMask db.agents (p := fun row => decide (row.id = id.toInt64)) fun _ => rfl
    dsimp only [Option.map_some]
    split
    · rfl
    · exact congrArg (fun agents => Except.ok { db with agents }) hdelete

/-- A registration overwrites the token that the agent had, and tells the new one. -/
theorem upsertAgent_forgetTokens (db : Db) (agent : Agent) (pick : List Int64 → Int64) :
    (db.forgetTokens.upsertAgent agent pick).map (Prod.map Db.forgetTokens id) =
      (db.upsertAgent agent pick).map (Prod.map Db.forgetTokens id) := by
  have hfind : db.forgetTokens.agents.rows.find? (fun row => decide (row.name = agent.name)) =
      (db.agents.rows.find? fun row => decide (row.name = agent.name)).map tokenMask.apply :=
    List.find?_map
  unfold Db.upsertAgent
  rw [hfind]
  cases db.agents.rows.find? fun row => decide (row.name = agent.name) with
  | some existing =>
    have hupdate := Table.mask_update_mask tokenMask db.agents (p := fun row => decide (row.id = existing.id))
      (f := fun row => { Db.agentRow agent row.id with name := row.name }) (fun _ => rfl) (fun _ => rfl) fun _ => rfl
    exact congrArg (fun agents => Except.ok ({ db with agents }, { agent with id := existing.id.toUInt64 })) hupdate
  | none =>
    cases hinsert : db.agents.insertRow (Db.agentRow agent) (fun _ => rfl) pick with
    | none =>
      have hnone : db.forgetTokens.agents.insertRow (Db.agentRow agent) (fun _ => rfl) pick = none :=
        Table.insertRow_mask_none tokenMask hinsert
      simp only [Option.map_none, hnone]
    | some x =>
      obtain ⟨agents, hagents, hmask⟩ := Table.insertRow_mask tokenMask hinsert
      have hsome : db.forgetTokens.agents.insertRow (Db.agentRow agent) (fun _ => rfl) pick = some (agents, x.2) := hagents
      simp only [Option.map_none, hsome]
      exact congrArg (fun agents => Except.ok ({ db with agents }, { agent with id := x.2.toUInt64 })) hmask

/-! ## Two stores that differ in the tokens alone -/

section

variable {x y : Db}

/-- What is computed without the tokens. -/
theorem of_forget {α : Type} (f : Db → α) (hf : ∀ db, f db.forgetTokens = f db) (h : x.forgetTokens = y.forgetTokens) : f x = f y := by
  rw [← hf, ← hf y, h]

/-- What is computed of the agents without their tokens. -/
theorem agents_eq {α : Type} (F : List AgentRow → α) (hF : ∀ rows, F (rows.map tokenMask.apply) = F rows)
    (h : x.forgetTokens = y.forgetTokens) : F x.agents.rows = F y.agents.rows :=
  of_forget (fun db => F db.agents.rows) (fun db => hF db.agents.rows) h

theorem getMonitor_eq (h : x.forgetTokens = y.forgetTokens) (id : UInt64) : x.getMonitor id = y.getMonitor id :=
  of_forget (fun db => db.getMonitor id) (fun _ => rfl) h

theorem listMonitors_eq (h : x.forgetTokens = y.forgetTokens) : x.listMonitors = y.listMonitors :=
  of_forget (fun db => db.listMonitors) (fun _ => rfl) h

theorem listCheckResults_eq (h : x.forgetTokens = y.forgetTokens) (monitorId : UInt64) (since : Option UInt64) :
    x.listCheckResults monitorId since = y.listCheckResults monitorId since :=
  of_forget (fun db => db.listCheckResults monitorId since) (fun _ => rfl) h

theorem listAllAlertEvents_eq (h : x.forgetTokens = y.forgetTokens) : x.listAllAlertEvents = y.listAllAlertEvents :=
  of_forget (fun db => db.listAllAlertEvents) (fun _ => rfl) h

/-- An operation that does without the tokens what it does with them. -/
theorem map_of_forget {α : Type} (f : Db → Except StorageError α) {g : α → α} (hf : ∀ db, f db.forgetTokens = (f db).map g)
    (h : x.forgetTokens = y.forgetTokens) : (f x).map g = (f y).map g := by
  rw [← hf, ← hf y, h]

theorem insertMonitor_eq (h : x.forgetTokens = y.forgetTokens) (monitor : Monitor) (pick : List Int64 → Int64) :
    (x.insertMonitor monitor pick).map (Prod.map Db.forgetTokens id) =
      (y.insertMonitor monitor pick).map (Prod.map Db.forgetTokens id) :=
  map_of_forget (fun db => db.insertMonitor monitor pick) (fun db => insertMonitor_forgetTokens db monitor pick) h

theorem updateMonitor_eq (h : x.forgetTokens = y.forgetTokens) (id : UInt64) (name target : Option String)
    (intervalSecs agentId : Option UInt64) :
    (x.updateMonitor id name target intervalSecs agentId).map Db.forgetTokens =
      (y.updateMonitor id name target intervalSecs agentId).map Db.forgetTokens :=
  map_of_forget (fun db => db.updateMonitor id name target intervalSecs agentId)
    (fun db => updateMonitor_forgetTokens db id name target intervalSecs agentId) h

theorem setMonitorStatus_eq (h : x.forgetTokens = y.forgetTokens) (id : UInt64) (status : MonitorStatus) :
    (x.setMonitorStatus id status).map Db.forgetTokens = (y.setMonitorStatus id status).map Db.forgetTokens :=
  map_of_forget (fun db => db.setMonitorStatus id status) (fun db => setMonitorStatus_forgetTokens db id status) h

theorem deleteMonitor_eq (h : x.forgetTokens = y.forgetTokens) (id : UInt64) :
    (x.deleteMonitor id).map Db.forgetTokens = (y.deleteMonitor id).map Db.forgetTokens :=
  map_of_forget (fun db => db.deleteMonitor id) (fun db => deleteMonitor_forgetTokens db id) h

theorem heartbeatAgent_eq (h : x.forgetTokens = y.forgetTokens) (id atUnixSecs : UInt64) :
    (x.heartbeatAgent id atUnixSecs).map Db.forgetTokens = (y.heartbeatAgent id atUnixSecs).map Db.forgetTokens :=
  map_of_forget (fun db => db.heartbeatAgent id atUnixSecs) (fun db => heartbeatAgent_forgetTokens db id atUnixSecs) h

theorem deleteAgent_eq (h : x.forgetTokens = y.forgetTokens) (id : UInt64) :
    (x.deleteAgent id).map Db.forgetTokens = (y.deleteAgent id).map Db.forgetTokens :=
  map_of_forget (fun db => db.deleteAgent id) (fun db => deleteAgent_forgetTokens db id) h

theorem upsertAgent_eq (h : x.forgetTokens = y.forgetTokens) (agent : Agent) (pick : List Int64 → Int64) :
    (x.upsertAgent agent pick).map (Prod.map Db.forgetTokens id) = (y.upsertAgent agent pick).map (Prod.map Db.forgetTokens id) := by
  rw [← upsertAgent_forgetTokens, ← upsertAgent_forgetTokens y, h]

/-- An operation that returns nothing. -/
theorem unit_eq {r r' : Except StorageError Db} (h : r.map Db.forgetTokens = r'.map Db.forgetTokens) :
    (r.map fun db => (db, StoreAnswer.unit)).map (fun a => a.1.forgetTokens) =
      (r'.map fun db => (db, StoreAnswer.unit)).map fun a => a.1.forgetTokens := by
  obtain ⟨e, rfl, rfl⟩ | ⟨a, b, rfl, rfl, hab⟩ := map_eq_map h
  · rfl
  · exact congrArg Except.ok hab

/-- An operation that returns what it made. -/
theorem made_eq {α : Type} {r r' : Except StorageError (Db × α)} (f : α → StoreAnswer)
    (h : r.map (Prod.map Db.forgetTokens id) = r'.map (Prod.map Db.forgetTokens id)) :
    (r.map fun a => (a.1, f a.2)).map (fun a => a.1.forgetTokens) = (r'.map fun a => (a.1, f a.2)).map fun a => a.1.forgetTokens := by
  obtain ⟨e, rfl, rfl⟩ | ⟨a, b, rfl, rfl, hab⟩ := map_eq_map h
  · rfl
  · exact congrArg (fun a => Except.ok a.1) hab

/-- An operation that only reads. -/
theorem read_eq {α : Type} {r r' : Except StorageError α} (f : α → StoreAnswer) (h : x.forgetTokens = y.forgetTokens) (hr : r = r') :
    (r.map fun a => (x, f a)).map (fun a => a.1.forgetTokens) = (r'.map fun a => (y, f a)).map fun a => a.1.forgetTokens := by
  subst hr
  cases r with
  | error e => rfl
  | ok a => exact congrArg Except.ok h

/-- No operation of the store depends on the tokens. -/
theorem perform_eq (h : x.forgetTokens = y.forgetTokens) (pick : List Int64 → Int64) (op : StoreOp) :
    (x.perform pick op).map (fun a => a.1.forgetTokens) = (y.perform pick op).map fun a => a.1.forgetTokens := by
  cases op with
  | insertMonitor monitor => exact made_eq .monitor (insertMonitor_eq h monitor pick)
  | upsertAgent agent => exact made_eq .agent (upsertAgent_eq h agent pick)
  | insertAlertEvent event =>
    exact made_eq .alertEvent
      (map_of_forget (fun db => db.insertAlertEvent event pick) (fun db => insertAlertEvent_forgetTokens db event pick) h)
  | updateMonitor id name target intervalSecs agentId => exact unit_eq (updateMonitor_eq h id name target intervalSecs agentId)
  | setMonitorStatus id status => exact unit_eq (setMonitorStatus_eq h id status)
  | deleteMonitor id => exact unit_eq (deleteMonitor_eq h id)
  | insertCheckResults results =>
    exact unit_eq (map_of_forget (fun db => db.insertCheckResults pick results) (insertCheckResults_forgetTokens pick results) h)
  | heartbeatAgent id atUnixSecs => exact unit_eq (heartbeatAgent_eq h id atUnixSecs)
  | deleteAgent id => exact unit_eq (deleteAgent_eq h id)
  | getAgent id => exact congrArg Except.ok h
  | listAgents => exact congrArg Except.ok h
  | getMonitor id => exact read_eq .monitor? h (getMonitor_eq h id)
  | listMonitors => exact read_eq .monitors h (listMonitors_eq h)
  | listCheckResults monitorId since => exact read_eq .checkResults h (listCheckResults_eq h monitorId since)
  | listAlertEvents monitorId =>
    exact read_eq .alertEvents h (of_forget (fun db => db.listAlertEvents monitorId) (fun _ => rfl) h)
  | listAllAlertEvents => exact read_eq .alertEvents h (listAllAlertEvents_eq h)

/-- A call of the store that one of them takes, the other takes. -/
theorem isSome_call_eq (h : x.forgetTokens = y.forgetTokens) (call : StoreCall) : (x.call call).isSome = (y.call call).isSome := by
  cases call with
  | op op pick =>
    simp only [Db.call, Db.step]
    split <;> split <;> rfl
  | pruneCheckResultsOlderThan cutoffUnixSecs limit old =>
    have hprunable : x.prunable cutoffUnixSecs = y.prunable cutoffUnixSecs :=
      of_forget (fun db => db.prunable cutoffUnixSecs) (fun _ => rfl) h
    simp only [Db.call, Db.pruneCheckResultsOlderThan, hprunable, Option.isSome_map]
    split <;> rfl

/-- A call of the store leaves two stores that differ in the tokens alone such. -/
theorem call_eq {x' y' : Db} {call : StoreCall} {seen seen' : List (StoreOp × Except ProviderError StoreAnswer)}
    (h : x.forgetTokens = y.forgetTokens) (hx : x.call call = some (x', seen)) (hy : y.call call = some (y', seen')) :
    x'.forgetTokens = y'.forgetTokens := by
  cases call with
  | op op pick =>
    simp only [Db.call, Db.step] at hx hy
    obtain ⟨e, hex, hey⟩ | ⟨a, b, hax, hby, hab⟩ := map_eq_map (perform_eq h pick op)
    · rw [hex] at hx
      rw [hey] at hy
      cases hx
      cases hy
      exact h
    · rw [hax] at hx
      rw [hby] at hy
      cases hx
      cases hy
      exact hab
  | pruneCheckResultsOlderThan cutoffUnixSecs limit old =>
    obtain ⟨_, hprune, hx⟩ := Option.map_eq_some_iff.mp hx
    obtain ⟨-, rfl⟩ := Db.pruneCheckResultsOlderThan_eq_some hprune
    obtain ⟨_, hprune', hy⟩ := Option.map_eq_some_iff.mp hy
    obtain ⟨-, rfl⟩ := Db.pruneCheckResultsOlderThan_eq_some hprune'
    cases hx
    cases hy
    change (x.forgetTokens.pruneInOrder old limit).1 = (y.forgetTokens.pruneInOrder old limit).1
    rw [h]

end

/-! ## Two daemons that differ in the tokens alone -/

section

variable {V : Type} {axum : Axum V} {env : Env} {s t : ApiState} {request : ApiRequest V} {param : String}

theorem store_eq (h : s.forgetTokens = t.forgetTokens) : s.store.forgetTokens = t.store.forgetTokens :=
  congrArg (fun state : ApiState => state.store) h

/-- What is read of the state besides the tokens. -/
theorem field_eq {α : Type} (f : ApiState → α) (hf : ∀ state, f state.forgetTokens = f state) (h : s.forgetTokens = t.forgetTokens) :
    f s = f t := by
  rw [← hf, ← hf t, h]

/-- A call of the store by a handler. -/
theorem called_eq {α γ : Type} {fault : Option ProviderError} {r r' : Except StorageError α} {f : α → γ} (h : r.map f = r'.map f) :
    (Service.called fault (Service.provider r)).map f = (Service.called fault (Service.provider r')).map f := by
  obtain ⟨e, rfl, rfl⟩ | ⟨a, b, rfl, rfl, hab⟩ := map_eq_map h
  · rfl
  · cases fault with
    | some e => rfl
    | none => exact congrArg Except.ok hab

/-- What a handler makes of an entity that it has created. -/
theorem made_map_eq {α β : Type} {r r' : Except ApiError (Db × α)} {f : α → β}
    (h : r.map (Prod.map Db.forgetTokens id) = r'.map (Prod.map Db.forgetTokens id)) :
    (r >>= fun a => pure (a.1, f a.2)).map (Prod.map Db.forgetTokens id) =
      (r' >>= fun a => pure (a.1, f a.2)).map (Prod.map Db.forgetTokens id) := by
  obtain ⟨e, rfl, rfl⟩ | ⟨⟨x, a⟩, ⟨y, b⟩, rfl, rfl, hab⟩ := map_eq_map h
  · rfl
  · obtain ⟨hxy, rfl⟩ := Prod.mk.inj hab
    exact congrArg (fun db => Except.ok (db, f a)) hxy

theorem reading_eq {α : Type} {body : α → Body} {r r' : Except ApiError α} (h : s.forgetTokens = t.forgetTokens) (hr : r = r') :
    (reading s body r).map (Prod.map ApiState.forgetTokens id) = (reading t body r').map (Prod.map ApiState.forgetTokens id) := by
  subst hr
  cases r with
  | error e => rfl
  | ok a => exact congrArg (fun state => Except.ok (state, _)) h

/-- What is left when a handler has changed the store. -/
theorem with_store_eq {x y : Db} (h : s.forgetTokens = t.forgetTokens) (hxy : x.forgetTokens = y.forgetTokens) :
    ApiState.forgetTokens { s with store := x } = ApiState.forgetTokens { t with store := y } := by
  change { s.forgetTokens with store := x.forgetTokens } = { t.forgetTokens with store := y.forgetTokens }
  rw [h, hxy]

theorem creating_eq {α : Type} {body : α → Body} {r r' : Except ApiError (Db × α)} (h : s.forgetTokens = t.forgetTokens)
    (hr : r.map (Prod.map Db.forgetTokens id) = r'.map (Prod.map Db.forgetTokens id)) :
    (creating s body r).map (Prod.map ApiState.forgetTokens id) = (creating t body r').map (Prod.map ApiState.forgetTokens id) := by
  obtain ⟨e, rfl, rfl⟩ | ⟨⟨x, a⟩, ⟨y, b⟩, rfl, rfl, hab⟩ := map_eq_map hr
  · rfl
  · obtain ⟨hxy, rfl⟩ := Prod.mk.inj hab
    exact congrArg (fun state => Except.ok (state, _)) (with_store_eq h hxy)

theorem changing_eq {r r' : Except ApiError Db} (h : s.forgetTokens = t.forgetTokens)
    (hr : r.map Db.forgetTokens = r'.map Db.forgetTokens) :
    (changing s r).map (Prod.map ApiState.forgetTokens id) = (changing t r').map (Prod.map ApiState.forgetTokens id) := by
  obtain ⟨e, rfl, rfl⟩ | ⟨x, y, rfl, rfl, hxy⟩ := map_eq_map hr
  · rfl
  · exact congrArg (fun state => Except.ok (state, _)) (with_store_eq h hxy)

theorem list_eq (h : s.forgetTokens = t.forgetTokens) : Registration.list s.store env.fault = Registration.list t.store env.fault := by
  have hagents : (s.store.listAgents).map (List.map AgentDto.ofAgent) = (t.store.listAgents).map (List.map AgentDto.ofAgent) := by
    refine congrArg Except.ok (agents_eq (fun rows => (rows.map rowToAgent).map AgentDto.ofAgent) (fun rows => ?_) (store_eq h))
    simp only [List.map_map]
    rfl
  exact called_eq hagents

theorem regions_eq (h : s.forgetTokens = t.forgetTokens) (since : Option UInt64) :
    regions s.store s.retentionSecs env.nowUnixSecs since = regions t.store t.retentionSecs env.nowUnixSecs since := by
  have hretention : s.retentionSecs = t.retentionSecs := field_eq (fun state => state.retentionSecs) (fun _ => rfl) h
  have hregions : Service.regionByAgentId (s.store.agents.rows.map rowToAgent) =
      Service.regionByAgentId (t.store.agents.rows.map rowToAgent) := by
    refine agents_eq (fun rows => Service.regionByAgentId (rows.map rowToAgent)) (fun rows => ?_) (store_eq h)
    simp only [Service.regionByAgentId, List.filterMap_map]
    rfl
  have hgroup : ∀ since, Service.groupMonitor s.store since = Service.groupMonitor t.store since := by
    intro since
    funext regions groups monitor
    simp only [Service.groupMonitor, listCheckResults_eq (store_eq h)]
  unfold regions Service.regionAggregates Db.listAgents
  rw [hretention, listMonitors_eq (store_eq h)]
  simp only [Service.provider, Except.mapError, bind, Except.bind, hregions, hgroup]

/-- A handler does the same, and answers the same. -/
theorem run_eq (h : s.forgetTokens = t.forgetTokens) (handler : Handler) :
    (handler.run axum env s request param).map (Prod.map ApiState.forgetTokens id) =
      (handler.run axum env t request param).map (Prod.map ApiState.forgetTokens id) := by
  have hstore := store_eq h
  cases handler with
  | healthCheck =>
    have hhealth : health s env.healthCheck = health t env.healthCheck :=
      field_eq (fun state => health state env.healthCheck) (fun _ => rfl) h
    simp only [Handler.run, hhealth]
    exact congrArg (fun state => Except.ok (state, _)) h
  | createMonitor =>
    refine bind_map_eq fun body => creating_eq h (bind_map_eq fun intervalSecs => made_map_eq ?_)
    unfold Service.addMonitor
    cases Service.checkInterval intervalSecs with
    | error e => rfl
    | ok _ => exact called_eq (insertMonitor_eq hstore _ env.pick)
  | listMonitors => exact reading_eq h (by simp only [Monitors.list, listMonitors_eq hstore])
  | showMonitor => exact bind_map_eq fun id => reading_eq h (by simp only [Monitors.showMonitor, getMonitor_eq hstore])
  | editMonitor =>
    refine bind_map_eq fun id => bind_map_eq fun body => changing_eq h (bind_map_eq fun intervalSecs => ?_)
    unfold Service.editMonitor
    cases intervalSecs.elim (Except.ok ()) Service.checkInterval with
    | error e => rfl
    | ok _ => exact called_eq (updateMonitor_eq hstore id body.name body.target intervalSecs body.agentId)
  | removeMonitor => exact bind_map_eq fun id => changing_eq h (called_eq (deleteMonitor_eq hstore id))
  | pauseMonitor => exact bind_map_eq fun id => changing_eq h (called_eq (setMonitorStatus_eq hstore id .paused))
  | resumeMonitor => exact bind_map_eq fun id => changing_eq h (called_eq (setMonitorStatus_eq hstore id .pending))
  | monitorHistory =>
    have hretention : s.retentionSecs = t.retentionSecs := field_eq (fun state => state.retentionSecs) (fun _ => rfl) h
    refine bind_map_eq fun id => bind_map_eq fun since => reading_eq h ?_
    simp only [history, Service.monitorHistory, listCheckResults_eq hstore, hretention]
  | registerAgent =>
    exact bind_map_eq fun body => creating_eq h (made_map_eq (called_eq (upsertAgent_eq hstore _ env.pick)))
  | listAgents => exact reading_eq h (list_eq h)
  | removeAgent => exact bind_map_eq fun id => changing_eq h (called_eq (deleteAgent_eq hstore id))
  | listAlerts => exact reading_eq h (by simp only [Alerts.list, listAllAlertEvents_eq hstore])
  | listRegions => exact bind_map_eq fun since => reading_eq h (congrArg (queried env) (regions_eq h since))
  | upgrade =>
    simp only [Handler.run]
    cases request.upgrade with
    | some status => rfl
    | none => exact congrArg (fun state => Except.ok (state, _)) h
  | push =>
    have hingest : s.ingest = t.ingest := field_eq (fun state => state.ingest) (fun _ => rfl) h
    refine bind_map_eq fun id => bind_map_eq fun body => ?_
    cases env.fault with
    | some e => rfl
    | none =>
      obtain ⟨e, hs, ht⟩ | ⟨x, y, hs, ht, hxy⟩ := map_eq_map (heartbeatAgent_eq hstore id env.nowUnixSecs)
      · simp only [Ingest.push, hs, ht]
        rfl
      · have hsubmission : Ingest.submission x id = Ingest.submission y id := by
          funext result
          simp only [Ingest.submission, getMonitor_eq hxy]
        simp only [Ingest.push, hs, ht, Service.provider, Except.mapError, hsubmission, hingest]
        exact congrArg (fun state : ApiState => Except.ok
          ({ state with ingest := (body.results.filterMap (Ingest.submission y id)).foldl IngestHandle.submit t.ingest },
            (⟨202, .empty⟩ : ApiResponse))) (with_store_eq h hxy)
  | listAssignments =>
    refine bind_map_eq fun id => ?_
    have hassignments : Assignments.list s.assignments id = Assignments.list t.assignments id :=
      field_eq (fun state => Assignments.list state.assignments id) (fun _ => rfl) h
    simp only [hassignments]
    exact congrArg (fun state : ApiState => Except.ok
      ({ state with assignments := (Assignments.list t.assignments id).1 },
        (⟨200, .assignments (Assignments.list t.assignments id).2⟩ : ApiResponse))) h

/-- A guard that a request passes in both daemons, or in neither. -/
theorem check_eq {endpoint : Endpoint} (h : s.forgetTokens = t.forgetTokens) (hf : Endpoint.find request.path = some (endpoint, param))
    (ha : authorized axum s request = authorized axum t request) :
    endpoint.guard.check axum env s request param = endpoint.guard.check axum env t request param := by
  have htoken : s.token = t.token := field_eq (fun state => state.token) (fun _ => rfl) h
  simp only [authorized, hf] at ha
  cases hg : endpoint.guard with
  | none => rfl
  | token => simp only [Guard.check, requireToken, htoken]
  | tokenWs => simp only [Guard.check, requireTokenWs, htoken]
  | agentToken =>
    simp only [hg] at ha
    cases hid : axum.pathId param with
    | error response => simp only [Guard.check, hid, bind, Except.bind]
    | ok id =>
      simp only [hid] at ha
      have hcheck : requireAgentToken axum.toStr s.toAppState id request.headers (fun _ => ()) =
          requireAgentToken axum.toStr t.toAppState id request.headers fun _ => () := by
        cases hany : (t.store.agents.get? id.toInt64).any fun row => decide (bearerToken axum.toStr request.headers = some row.token) with
        | false => rw [requireAgentToken_eq_unauthorized (ha.trans hany), requireAgentToken_eq_unauthorized hany]
        | true =>
          obtain ⟨row, hrow, htoken⟩ := (Option.any_eq_true _ _).mp (ha.trans hany)
          obtain ⟨row', hrow', htoken'⟩ := (Option.any_eq_true _ _).mp hany
          rw [requireAgentToken_eq_ok.mpr ⟨⟨row, hrow, of_decide_eq_true htoken⟩, rfl⟩,
            requireAgentToken_eq_ok.mpr ⟨⟨row', hrow', of_decide_eq_true htoken'⟩, rfl⟩]
      simp only [Guard.check, hid, bind, Except.bind, hcheck]

theorem answer_eq {endpoint : Endpoint} (h : s.forgetTokens = t.forgetTokens) (hf : Endpoint.find request.path = some (endpoint, param))
    (ha : authorized axum s request = authorized axum t request) :
    Prod.map ApiState.forgetTokens id (endpoint.answer axum env s request param) =
      Prod.map ApiState.forgetTokens id (endpoint.answer axum env t request param) := by
  unfold Endpoint.answer
  rw [check_eq h hf ha]
  cases endpoint.handler request.method with
  | some handler =>
    cases endpoint.guard.check axum env t request param with
    | error response => exact congrArg (fun state => (state, response)) h
    | ok _ =>
      have hrun : (handler.run axum env s request param).map (Prod.map ApiState.forgetTokens id) =
          (handler.run axum env t request param).map (Prod.map ApiState.forgetTokens id) := run_eq h handler
      obtain ⟨e, hs, ht⟩ | ⟨x, y, hs, ht, hxy⟩ := map_eq_map hrun
      · simp only [hs, ht]
        exact congrArg (fun state => (state, e)) h
      · simp only [hs, ht]
        exact hxy
  | none =>
    dsimp only
    split
    · exact congrArg (fun state => (state, _)) h
    · exact congrArg (fun state => (state, _)) h

/-- A request is answered alike. -/
theorem serve_eq {assets : String → Option (List UInt8)} (h : s.forgetTokens = t.forgetTokens)
    (ha : authorized axum s request = authorized axum t request) :
    Prod.map ApiState.forgetTokens id (serve axum env s request assets) =
      Prod.map ApiState.forgetTokens id (serve axum env t request assets) := by
  unfold serve
  cases hf : Endpoint.find request.path with
  | none => exact congrArg (fun state => (state, _)) h
  | some x =>
    obtain ⟨endpoint, param⟩ := x
    exact congrArg (fun y : ApiState × ApiResponse => (y.1, y.2.to request)) (answer_eq h hf ha)

end

/-- What one action does in two daemons that differ in the tokens alone. -/
theorem both_step_eq {V : Type} {axum : Axum V} {assets : String → Option (List UInt8)} {x x' : ApiState × ApiState}
    {a : ServedAction V} {ev : List (List (Exchange V) × List (Exchange V))} (h : x.1.forgetTokens = x.2.forgetTokens)
    (ha : a.alike axum x = true) (hs : both (ApiState.stepServed axum assets) x a = some (x', ev)) :
    x'.1.forgetTokens = x'.2.forgetTokens ∧ ∀ y ∈ ev, y.1.map Exchange.response = y.2.map Exchange.response := by
  obtain ⟨s, t⟩ := x'
  obtain ⟨log, log', hl, hr, rfl⟩ := both_eq_some hs
  simp only [List.mem_singleton, forall_eq]
  cases a with
  | request env asked =>
    have hserve : Prod.map ApiState.forgetTokens id (serve axum env x.1 asked assets) =
        Prod.map ApiState.forgetTokens id (serve axum env x.2 asked assets) := serve_eq h (of_decide_eq_true ha)
    have hresponse : (serve axum env x.1 asked assets).2 = (serve axum env x.2 asked assets).2 :=
      (Prod.ext_iff.mp hserve).2
    cases hl
    cases hr
    exact ⟨congrArg Prod.fst hserve, congrArg (fun response => [response]) hresponse⟩
  | store call =>
    obtain ⟨y, hy, hy'⟩ := Option.map_eq_some_iff.mp hl
    obtain ⟨z, hz, hz'⟩ := Option.map_eq_some_iff.mp hr
    cases hy'
    cases hz'
    exact ⟨with_store_eq h (call_eq (store_eq h) hy hz), rfl⟩
  | daemon ingest assignments notifier cache =>
    cases hl
    cases hr
    exact ⟨congrArg (fun state : ApiState => { state with ingest, assignments, notifier, cache }) h, rfl⟩

/-- An action that one of the daemons can take, the other can take. -/
theorem isSome_stepServed_eq {V : Type} {axum : Axum V} {assets : String → Option (List UInt8)} {s t : ApiState}
    (h : s.forgetTokens = t.forgetTokens) (a : ServedAction V) :
    (s.stepServed axum assets a).isSome = (t.stepServed axum assets a).isSome := by
  cases a with
  | request env asked => rfl
  | store call =>
    simp only [ApiState.stepServed, Option.isSome_map]
    exact isSome_call_eq (store_eq h) call
  | daemon ingest assignments notifier cache => rfl

end SecrecyAux

open SecrecyAux

/-- The tokens of the agents are never told. Take two daemons whose states differ at most in the tokens of their agents, and do the same
in both: requests of all sorts by any clients, calls of the store by anyone, and whatever their tasks do. As long as every request
presents the credential that its endpoint asks for to both of them or to neither, they answer every request alike, and their states
still differ at most in those tokens; what the one can do next, the other can do. An agent that registers in between is told its own
token, which is new. -/
theorem agents_tokens_are_never_told {V : Type} {axum : Axum V} {assets : String → Option (List UInt8)} {x₀ x : ApiState × ApiState}
    {log : List (List (Exchange V) × List (Exchange V))}
    (h : Run (both (ApiState.stepServed axum assets)) (fun x a => ServedAction.alike axum x a = true) x₀ x log)
    (h0 : x₀.1.forgetTokens = x₀.2.forgetTokens) :
    x.1.forgetTokens = x.2.forgetTokens ∧ (∀ y ∈ log, y.1.map Exchange.response = y.2.map Exchange.response) ∧
      ∀ a, (x.1.stepServed axum assets a).isSome = (x.2.stepServed axum assets a).isSome := by
  have hrun : x.1.forgetTokens = x.2.forgetTokens ∧ ∀ y ∈ log, y.1.map Exchange.response = y.2.map Exchange.response := by
    refine h.invariant (I := fun x log => x.1.forgetTokens = x.2.forgetTokens ∧
      ∀ y ∈ log, y.1.map Exchange.response = y.2.map Exchange.response) ⟨h0, by simp⟩ ?_
    intro x x' log ev a hI ha hs
    obtain ⟨hx, hev⟩ := both_step_eq hI.1 ha hs
    refine ⟨hx, fun y hy => ?_⟩
    rcases List.mem_append.mp hy with hy | hy
    · exact hI.2 y hy
    · exact hev y hy
  exact ⟨hrun.1, hrun.2, isSome_stepServed_eq hrun.1⟩

namespace SecrecyExample

open ApiExample

/-- A daemon with one agent. -/
def daemon (token : String) : ApiState :=
  match start.store.upsertAgent ⟨0, "edge", 0, "probe", token, none⟩ fun _ => 0 with
  | .ok (store, _) => { start with store }
  | .error _ => start

/-- The list of the agents is asked for with the daemon's token, and the assignments of the agent with another. -/
def asked : List (ServedAction String) :=
  [.request env (request .get "/agents"), .store (.op (.heartbeatAgent 1 5) fun _ => 0),
    .request env (request .get "/agents/1/assignments")]

end SecrecyExample

open ApiExample SecrecyExample in
theorem agents_tokens_are_never_told_edge :
    let x := after (both (ApiState.stepServed axum assets)) (ServedAction.alike axum) (daemon "a", daemon "b") asked
    x.1.1.forgetTokens = x.1.2.forgetTokens ∧ (∀ y ∈ x.2, y.1.map Exchange.response = y.2.map Exchange.response) ∧
      ∀ a, (x.1.1.stepServed axum assets a).isSome = (x.1.2.stepServed axum assets a).isSome := by
  intro x
  exact agents_tokens_are_never_told (run_after rfl) rfl

end Monitra
