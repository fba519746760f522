import Monitra.Engine.System
import Monitra.Lemmas.Scheduler
import Monitra.Lemmas.Store

/-!
# What a step of the daemon can do

`Effect` has a case for each thing a step can do, with what had to hold before and the state and events after, and
`effect_of_step` says that every step is one of them. The invariants are proved by going through these cases.
-/

namespace Monitra

open Results

/-- What a user's call that returns `Ok` does to the database. -/
inductive Call (db : Db) : UserAction → Db → Prop where
  | added {name target kind intervalSecs agentId pick db' m}
      (h : db.insertMonitor { id := ⟨0, 0⟩, name, target, kind, intervalSecs, status := .pending, agentId } pick = .ok (db', m)) :
      Call db (.addMonitor name target kind intervalSecs agentId pick) db'
  | edited {id name target intervalSecs agentId db'} (h : db.updateMonitor id name target intervalSecs agentId = .ok db') :
      Call db (.editMonitor id name target intervalSecs agentId) db'
  | removed {id db'} (h : db.deleteMonitor id = .ok db') : Call db (.removeMonitor id) db'
  | paused {id db'} (h : db.setMonitorStatus id .paused = .ok db') : Call db (.pauseMonitor id) db'
  | resumed {id db'} (h : db.setMonitorStatus id .pending = .ok db') : Call db (.resumeMonitor id) db'
  | registeredAgent {name scope region token pick db'} (hm : db'.monitors = db.monitors)
      (hc : db'.checkResults = db.checkResults) (hi : db'.inserted = db.inserted) :
      Call db (.registerAgent name scope region token pick) db'
  | removedAgent {id db'} (hm : db'.monitors = db.monitors) (hc : db'.checkResults = db.checkResults)
      (hi : db'.inserted = db.inserted) : Call db (.removeAgent id) db'

/-- A store operation's result as its callers see it succeeds exactly when the operation does. -/
theorem provider_eq_ok {α : Type} {r : Except StorageError α} {x : α} : Service.provider r = .ok x ↔ r = .ok x := by
  cases r <;> simp [Service.provider, Except.mapError]

/-- An upsert and a deletion of an agent leave the monitors and their check results alone. -/
theorem upsertAgent_eq_ok {db db' : Db} {agent a : Agent} {pick : List Int64 → Int64}
    (h : db.upsertAgent agent pick = .ok (db', a)) :
    db'.monitors = db.monitors ∧ db'.checkResults = db.checkResults ∧ db'.inserted = db.inserted := by
  unfold Db.upsertAgent at h
  split at h
  · cases h
    exact ⟨rfl, rfl, rfl⟩
  · split at h
    · cases h
    · cases h
      exact ⟨rfl, rfl, rfl⟩

theorem deleteAgent_eq_ok {db db' : Db} {id : UInt64} (h : db.deleteAgent id = .ok db') :
    db'.monitors = db.monitors ∧ db'.checkResults = db.checkResults ∧ db'.inserted = db.inserted := by
  unfold Db.deleteAgent at h
  split at h
  · cases h
  · split at h
    · cases h
    · cases h
      exact ⟨rfl, rfl, rfl⟩

theorem heartbeatAgent_eq_ok {db db' : Db} {id t : UInt64} (h : db.heartbeatAgent id t = .ok db') :
    db'.monitors = db.monitors ∧ db'.checkResults = db.checkResults ∧ db'.inserted = db.inserted := by
  unfold Db.heartbeatAgent at h
  split at h
  · cases h
  · cases h
    exact ⟨rfl, rfl, rfl⟩

/-- Every user's call that returns `Ok` is one of the cases. -/
theorem call_of_userCall {s : System} {a : UserAction} {db' : Db} (h : s.userCall a = .ok db') : Call s.db a db' := by
  cases a with
  | addMonitor name target kind intervalSecs agentId pick =>
    obtain ⟨⟨db₁, m⟩, h₁, rfl⟩ := map_eq_ok h
    unfold Service.addMonitor at h₁
    split at h₁
    · cases h₁
    · exact .added (provider_eq_ok.mp h₁)
  | editMonitor id name target intervalSecs agentId =>
    simp only [System.userCall, Service.editMonitor] at h
    split at h
    · cases h
    · exact .edited (provider_eq_ok.mp h)
  | removeMonitor id => exact .removed (provider_eq_ok.mp h)
  | pauseMonitor id => exact .paused (provider_eq_ok.mp h)
  | resumeMonitor id => exact .resumed (provider_eq_ok.mp h)
  | registerAgent name scope region token pick =>
    obtain ⟨⟨db₁, m⟩, h₁, rfl⟩ := map_eq_ok h
    obtain ⟨hm, hc, hi⟩ := upsertAgent_eq_ok (provider_eq_ok.mp h₁)
    exact .registeredAgent hm hc hi
  | removeAgent id =>
    obtain ⟨hm, hc, hi⟩ := deleteAgent_eq_ok (provider_eq_ok.mp h)
    exact .removedAgent hm hc hi

/-- What a user's call leaves as the status of a monitor was it before, or it is pending, or the call is the pause. -/
theorem status_of_call {db db' : Db} {u : UserAction} {id : UInt64} {t : String} (hc : Call db u db')
    (hp : db'.status? id = some t) :
    db.status? id = some t ∨ t = "pending" ∨ t = "paused" ∧ u = .pauseMonitor id := by
  cases hc with
  | added h =>
    obtain ⟨-, -, -, -, -, row, -, hst, hget⟩ := Db.insertMonitor_eq_ok h
    obtain ⟨row', hrow, rfl⟩ := Db.status?_eq_some_iff.mp hp
    rw [hget] at hrow
    split at hrow
    · cases hrow
      exact Or.inr (Or.inl hst)
    · exact Or.inl (Db.status?_eq_some_iff.mpr ⟨row', hrow, rfl⟩)
  | edited h =>
    obtain ⟨-, -, -, hget⟩ := Db.updateMonitor_eq_ok h
    obtain ⟨row', hrow, rfl⟩ := Db.status?_eq_some_iff.mp hp
    rw [hget] at hrow
    obtain ⟨row, hrow₀, rfl⟩ := Option.map_eq_some_iff.mp hrow
    split
    · simp only [Db.updatedRow]
      split
      · exact Or.inr (Or.inl rfl)
      · exact Or.inl (Db.status?_eq_some_iff.mpr ⟨row, hrow₀, rfl⟩)
    · exact Or.inl (Db.status?_eq_some_iff.mpr ⟨row, hrow₀, rfl⟩)
  | removed h =>
    obtain ⟨-, -, -, hget⟩ := Db.deleteMonitor_eq_ok h
    obtain ⟨row, hrow, hp⟩ := Db.status?_eq_some_iff.mp hp
    rw [hget] at hrow
    split at hrow
    · cases hrow
    · exact Or.inl (Db.status?_eq_some_iff.mpr ⟨row, hrow, hp⟩)
  | paused h =>
    rw [Db.status?_of_setMonitorStatus h] at hp
    split at hp
    · rename_i hid
      exact Or.inr (Or.inr ⟨(Option.some.inj hp).symm, by rw [hid]⟩)
    · exact Or.inl hp
  | resumed h =>
    rw [Db.status?_of_setMonitorStatus h] at hp
    split at hp
    · exact Or.inr (Or.inl (Option.some.inj hp).symm)
    · exact Or.inl hp
  | registeredAgent hm | removedAgent hm =>
    rw [Db.status?, Db.row?, hm] at hp
    exact Or.inl hp

/-- A user's call adds no check results. -/
theorem checkResults_of_call {db db' : Db} {u : UserAction} (hc : Call db u db') :
    ∀ r ∈ db'.checkResults.rows, r ∈ db.checkResults.rows := by
  intro r hr
  cases hc with
  | added h =>
    obtain ⟨-, -, hcr, -⟩ := Db.insertMonitor_eq_ok h
    exact hcr ▸ hr
  | edited h => exact (Db.updateMonitor_eq_ok h).1 ▸ hr
  | removed h =>
    obtain ⟨-, -, hcr, -⟩ := Db.deleteMonitor_eq_ok h
    exact ((hcr r).mp hr).1
  | paused h | resumed h => exact (Db.setMonitorStatus_eq_ok h).2.1 ▸ hr
  | registeredAgent hm hcr | removedAgent hm hcr => exact hcr ▸ hr

/-- The store answers as it does without a fault, if it does not fail. -/
theorem answer_eq_ok {α : Type} {fault : Bool} {r : Except StorageError α} {x : α} (h : answer fault r = .ok x) :
    fault = false ∧ r = .ok x := by
  cases fault
  · exact ⟨rfl, h⟩
  · cases h

/-- A flush clears the batch, and the store holds what it answered, or what it held when the answer is an error. -/
theorem flush_eq_some {w w' : Writer} {db db' : Db} {fault : Bool} {pick : List Int64 → Int64}
    (h : w.flush db fault pick = some (w', db')) :
    w'.batch = [] ∧ w'.queue = w.queue ∧
      (answer fault (db.insertCheckResults pick w.batch) = .ok db' ∨
        db' = db ∧ ∃ e, answer fault (db.insertCheckResults pick w.batch) = .error e) := by
  unfold Writer.flush at h
  split at h
  · cases ha : answer fault (db.insertCheckResults pick w.batch) with
    | ok db₁ =>
      simp only [ha] at h
      cases h
      exact ⟨rfl, rfl, Or.inl rfl⟩
    | error e =>
      simp only [ha] at h
      cases h
      exact ⟨rfl, rfl, Or.inr ⟨rfl, e, rfl⟩⟩
  · cases h

/-- A receive moves a result from the channel to the batch, or finds the channel closed and empty. -/
theorem recv_eq_some {batchSize : Nat} {closed : Bool} {w w' : Writer} (h : w.recv batchSize closed = some w') :
    (∃ result, w.queue = result :: w'.queue ∧ w'.batch = w.batch ++ [result]) ∨
      w.queue = [] ∧ w'.queue = [] ∧ w'.batch = w.batch := by
  unfold Writer.recv at h
  split at h
  · rename_i result queue hpc hq
    cases h
    refine Or.inl ⟨result, ?_⟩
    split <;> exact ⟨hq, rfl⟩
  · rename_i hpc hq
    split at h
    · cases h
      exact Or.inr ⟨hq, hq, rfl⟩
    · cases h
  · cases h

/-- A flush tick takes nothing. -/
theorem tick_eq_some {w w' : Writer} (h : w.tick = some w') : w'.queue = w.queue ∧ w'.batch = w.batch := by
  unfold Writer.tick at h
  split at h
  · cases h
    exact ⟨rfl, rfl⟩
  · cases h

/-- A flush leaves the monitors alone. -/
theorem monitors_of_flush {w w' : Writer} {db db' : Db} {fault : Bool} {pick : List Int64 → Int64}
    (h : w.flush db fault pick = some (w', db')) : db'.monitors = db.monitors ∧ db'.inserted = db.inserted := by
  rcases (flush_eq_some h).2.2 with ha | ⟨rfl, -⟩
  · have hins := Db.insertCheckResults_eq_ok (answer_eq_ok ha).2
    exact ⟨hins.1, hins.2.2.1⟩
  · exact ⟨rfl, rfl⟩

/-- What a step does, case by case. -/
inductive Effect (cfg : EngineConfig) (s : System) : Action → System → List Event → Prop where
  | advance {d} : Effect cfg s (.advance d) { s with clock := s.clock + d } []
  | wallClock {t} : Effect cfg s (.wallClock t) { s with wall := t } []
  -- the scheduler
  | resyncTick (hpc : s.pc = .select) : Effect cfg s (.scheduler .resyncTick) { s with pc := .listing none } []
  | listedMonitors {fault after} (hpc : s.pc = .listing after) :
      Effect cfg s (.scheduler (.listMonitors fault)) { s with pc := .listed (answer fault s.db.listMonitors) after } []
  | resynced {monitors after} (hpc : s.pc = .listed (.ok monitors) after) :
      Effect cfg s (.scheduler .listReturned)
        { s with scheduler := (s.scheduler.resync s.clock monitors).1, pc := .resume after }
        (s.scheduler.resync s.clock monitors).2
  | notResynced {e after} (hpc : s.pc = .listed (.error e) after) :
      Effect cfg s (.scheduler .listReturned) { s with pc := .resume after } []
  | dispatched {due} (hpc : s.pc = .select) (hdue : due.Perm (s.scheduler.dueIds s.clock)) :
      Effect cfg s (.scheduler (.dispatchDue due))
        { s with
          scheduler := (s.scheduler.dispatchDue s.tasks s.clock due).scheduler
          tasks := (s.scheduler.dispatchDue s.tasks s.clock due).tasks }
        (s.scheduler.dispatchDue s.tasks s.clock due).events
  | joined {joined} (hpc : s.pc = .select) (hj : s.joinable joined = true) :
      Effect cfg s (.scheduler (.join joined))
        { s with
          tasks := (Scheduler.handleJoined s.tasks joined).1
          pc := ((Scheduler.handleJoined s.tasks joined).2.map Handled.outcome).elim .select .handling } []
  | received {pushed pushRx} (hpc : s.pc = .select) (hq : s.pushRx = pushed :: pushRx)
      (hr : (s.scheduler.registry.lookup pushed.monitorId.val).isSome) :
      Effect cfg s (.scheduler .recv) { s with pushRx, pc := .handling (.pushed pushed) } []
  | receivedUnknown {pushed pushRx} (hpc : s.pc = .select) (hq : s.pushRx = pushed :: pushRx)
      (hr : s.scheduler.registry.lookup pushed.monitorId.val = none) :
      Effect cfg s (.scheduler .recv) { s with pushRx, pc := .listing (some pushed) } []
  | handled {cause} (hpc : s.pc = .handling cause) :
      Effect cfg s (.scheduler .handle)
        { s with
          scheduler := (s.scheduler.handle s.wall cause).scheduler
          pc := (s.scheduler.handle s.wall cause).persist.elim .select .persisting
          writer := s.writer.submit cfg.writerCapacity (System.submissions (s.scheduler.handle s.wall cause).events) }
        (s.scheduler.handle s.wall cause).events
  | wrote {p fault db} (hpc : s.pc = .persisting p)
      (hdb : answer fault (s.db.setMonitorStatus p.cause.monitorId.val p.status) = .ok db) :
      Effect cfg s (.scheduler (.setMonitorStatus fault))
        { s with
          db, pc := .select
          writer := s.writer.submit cfg.writerCapacity (System.submissions (p.resume s.wall)) }
        (.wrote p.cause.monitorId p.status true :: p.resume s.wall)
  | notWritten {p fault e} (hpc : s.pc = .persisting p)
      (hdb : answer fault (s.db.setMonitorStatus p.cause.monitorId.val p.status) = .error e) :
      Effect cfg s (.scheduler (.setMonitorStatus fault))
        { s with
          pc := .select
          writer := s.writer.submit cfg.writerCapacity (System.submissions (p.resume s.wall)) }
        (.wrote p.cause.monitorId p.status false :: p.resume s.wall)
  | shutdown (hpc : s.pc = .select) : Effect cfg s (.scheduler .shutdown) { s with draining := true } []
  | stopped (hpc : s.pc = .select) (ht : s.tasks.running = []) :
      Effect cfg s (.scheduler .stop) { s with pc := .stopped } []
  -- the watchdog
  | agentsListed {fault watchdog} (hw : s.watchdog = .select) (hw' : ∀ stale rest, watchdog ≠ .sweeping stale rest)
      (hs : ∀ stale, watchdog = .listing stale →
        stale = Watchdog.staleAgentIds cfg.heartbeatTimeoutSecs s.wall (s.db.agents.rows.map rowToAgent)) :
      Effect cfg s (.watchdog (.listAgents fault)) { s with watchdog } []
  | sweepBegins {stale fault monitors} (hw : s.watchdog = .listing stale)
      (hl : answer fault s.db.listMonitors = .ok monitors) :
      Effect cfg s (.watchdog (.listMonitors fault)) { s with watchdog := Watchdog.goOn stale monitors } []
  | sweepSkipped {stale fault} (hw : s.watchdog = .listing stale) :
      Effect cfg s (.watchdog (.listMonitors fault)) { s with watchdog := .select } []
  | demoted {stale m rest fault db} (hw : s.watchdog = .sweeping stale (m :: rest)) (hd : Watchdog.demotes stale m = true)
      (hdb : answer fault (s.db.setMonitorStatus m.id.val .stale) = .ok db) :
      Effect cfg s (.watchdog (.next fault)) { s with db, watchdog := Watchdog.goOn stale rest }
        [.wrote m.id .stale true, .alert ⟨m.id, m.name, .stale⟩]
  | notDemoted {stale m rest fault e} (hw : s.watchdog = .sweeping stale (m :: rest)) (hd : Watchdog.demotes stale m = true)
      (hdb : answer fault (s.db.setMonitorStatus m.id.val .stale) = .error e) :
      Effect cfg s (.watchdog (.next fault)) { s with watchdog := Watchdog.goOn stale rest } [.wrote m.id .stale false]
  | passedOver {stale m rest fault} (hw : s.watchdog = .sweeping stale (m :: rest)) (hd : Watchdog.demotes stale m = false) :
      Effect cfg s (.watchdog (.next fault)) { s with watchdog := Watchdog.goOn stale rest } []
  -- the writer
  | writerReceived {writer} (hw : s.writer.recv cfg.writerBatchSize s.pc.isStopped = some writer) :
      Effect cfg s (.writer .recv) { s with writer } []
  | writerTicked {writer} (hw : s.writer.tick = some writer) : Effect cfg s (.writer .tick) { s with writer } []
  | flushed {fault pick writer db} (hw : s.writer.flush s.db fault pick = some (writer, db)) :
      Effect cfg s (.writer (.flush fault pick)) { s with writer, db } []
  -- the agents
  | configured {agentId id row} (hr : s.db.row? id = some row) :
      Effect cfg s (.agent (.configure agentId id)) { s with held := (agentId, ⟨id, row.origin⟩) :: s.held } []
  | forgotten {agentId monitorId} :
      Effect cfg s (.agent (.forget agentId monitorId)) { s with held := s.held.erase (agentId, monitorId) } []
  | pulled {agentId} :
      Effect cfg s (.agent (.pull agentId))
        { s with
          scheduler := { s.scheduler with assignments := (s.scheduler.assignments.drain agentId).1 }
          held := s.held ++ (s.scheduler.assignments.drain agentId).2.map fun a => (agentId, a.monitorId) } []
  | heartbeat {agentId db} (hm : db.monitors = s.db.monitors) (hc : db.checkResults = s.db.checkResults)
      (hi : db.inserted = s.db.inserted) (hb : s.db.heartbeatAgent agentId s.wall = .ok db) :
      Effect cfg s (.agent (.heartbeat agentId)) { s with db } []
  | ingested {agentId monitorId outcome} (hh : (agentId, monitorId) ∈ s.held) :
      Effect cfg s (.agent (.ingest agentId monitorId outcome))
        { s with pushRx := Channel.trySend cfg.ingestCapacity s.pushRx ⟨monitorId, outcome⟩ } []
  | refused {agentId monitorId outcome} (hh : (agentId, monitorId) ∈ s.held) :
      Effect cfg s (.agent (.ingest agentId monitorId outcome)) s []
  -- the users
  | called {a db} (h : Call s.db a db) (hc : s.userCall a = .ok db) : Effect cfg s (.user a) { s with db } []

@[simp] theorem Pc.resume_ne_persisting (after : Option PushedResult) (p : Scheduler.Persist) :
    Pc.resume after ≠ .persisting p := by
  cases after <;> simp [Pc.resume]

@[simp] theorem Pc.joined_ne_persisting (outcome : Option Outcome) (p : Scheduler.Persist) :
    (outcome.map Handled.outcome).elim Pc.select Pc.handling ≠ .persisting p := by
  cases outcome <;> simp

/-- The scheduler waits in `persist_status` after the handling of an outcome exactly when that leaves a status to persist. -/
theorem Pc.handled_eq_persisting (persist : Option Scheduler.Persist) (p : Scheduler.Persist) :
    persist.elim Pc.select Pc.persisting = .persisting p ↔ persist = some p := by
  cases persist <;> simp

theorem effect_of_schedulerStep {cfg : EngineConfig} {s s' : System} {a : SchedulerAction} {ev : List Event}
    (h : s.schedulerStep cfg a = some (s', ev)) : Effect cfg s (.scheduler a) s' ev := by
  cases a with
  | resyncTick =>
    simp only [System.schedulerStep] at h
    split at h
    · rename_i hpc _
      cases h
      exact .resyncTick hpc
    · cases h
  | listMonitors fault =>
    simp only [System.schedulerStep] at h
    split at h
    · rename_i hpc
      cases h
      exact .listedMonitors hpc
    · cases h
  | listReturned =>
    simp only [System.schedulerStep] at h
    split at h
    · rename_i hpc
      cases h
      exact .resynced hpc
    · rename_i hpc
      cases h
      exact .notResynced hpc
    · cases h
  | dispatchDue due =>
    simp only [System.schedulerStep] at h
    split at h
    · rename_i hpc _
      split at h
      · rename_i hdue
        cases h
        exact .dispatched hpc hdue
      · cases h
    · cases h
  | join joined =>
    simp only [System.schedulerStep] at h
    split at h
    · rename_i hpc
      split at h
      · rename_i hj
        cases h
        exact .joined hpc hj
      · cases h
    · cases h
  | recv =>
    simp only [System.schedulerStep] at h
    split at h
    · rename_i pushed pushRx hpc _ hq
      cases hr : s.scheduler.registry.lookup pushed.monitorId.val with
      | some state =>
        simp only [hr, Option.isSome_some, if_true] at h
        cases h
        exact .received hpc hq (by simp [hr])
      | none =>
        simp only [hr, Option.isSome_none, Bool.false_eq_true, if_false] at h
        cases h
        exact .receivedUnknown hpc hq hr
    · cases h
  | handle =>
    simp only [System.schedulerStep] at h
    split at h
    · rename_i hpc
      cases h
      exact .handled hpc
    · cases h
  | setMonitorStatus fault =>
    simp only [System.schedulerStep] at h
    split at h
    · rename_i hpc
      split at h
      · rename_i hdb
        cases h
        exact .wrote hpc hdb
      · rename_i hdb
        cases h
        exact .notWritten hpc hdb
    · cases h
  | shutdown =>
    simp only [System.schedulerStep] at h
    split at h
    · rename_i hpc _
      cases h
      exact .shutdown hpc
    · cases h
  | stop =>
    simp only [System.schedulerStep] at h
    split at h
    · rename_i hpc _ ht
      cases h
      exact .stopped hpc ht
    · cases h

theorem effect_of_watchdogStep {cfg : EngineConfig} {s s' : System} {a : WatchdogAction} {ev : List Event}
    (h : s.watchdogStep cfg a = some (s', ev)) : Effect cfg s (.watchdog a) s' ev := by
  cases a with
  | listAgents fault =>
    simp only [System.watchdogStep] at h
    split at h
    · rename_i hw ha
      cases h
      cases (answer_eq_ok ha).2
      refine .agentsListed hw (fun stale rest => ?_) fun stale hs => ?_
      · split <;> simp
      · split at hs
        · cases hs
        · cases hs
          rfl
    · rename_i hw _
      cases h
      have hkeep : ∀ stale rest, s.watchdog ≠ .sweeping stale rest := by simp [hw]
      exact Effect.agentsListed hw hkeep (by simp [hw])
    · cases h
  | listMonitors fault =>
    simp only [System.watchdogStep] at h
    split at h
    · rename_i hw hl
      cases h
      exact .sweepBegins hw hl
    · rename_i hw _
      cases h
      exact .sweepSkipped hw
    · cases h
  | next fault =>
    simp only [System.watchdogStep] at h
    split at h
    · rename_i hw
      split at h
      · rename_i hd
        split at h
        · rename_i hdb
          cases h
          exact .demoted hw hd hdb
        · rename_i hdb
          cases h
          exact .notDemoted hw hd hdb
      · rename_i hd
        cases h
        exact .passedOver hw (by simpa using hd)
    · cases h

theorem effect_of_writerStep {cfg : EngineConfig} {s s' : System} {a : WriterAction} {ev : List Event}
    (h : s.writerStep cfg a = some (s', ev)) : Effect cfg s (.writer a) s' ev := by
  cases a with
  | recv =>
    obtain ⟨writer, hw, he⟩ := Option.map_eq_some_iff.mp h
    cases he
    exact .writerReceived hw
  | tick =>
    obtain ⟨writer, hw, he⟩ := Option.map_eq_some_iff.mp h
    cases he
    exact .writerTicked hw
  | flush fault pick =>
    obtain ⟨⟨writer, db⟩, hw, he⟩ := Option.map_eq_some_iff.mp h
    cases he
    exact .flushed hw

theorem effect_of_agentStep {cfg : EngineConfig} {s s' : System} {a : AgentAction} {ev : List Event}
    (h : s.agentStep cfg a = some (s', ev)) : Effect cfg s (.agent a) s' ev := by
  cases a with
  | configure agentId id =>
    simp only [System.agentStep] at h
    split at h
    · rename_i row hr
      cases h
      exact .configured hr
    · cases h
  | forget agentId monitorId =>
    cases h
    exact .forgotten
  | pull agentId =>
    cases h
    exact .pulled
  | heartbeat agentId =>
    simp only [System.agentStep] at h
    split at h
    · rename_i db hdb
      cases h
      obtain ⟨hm, hc, hi⟩ := heartbeatAgent_eq_ok hdb
      exact .heartbeat hm hc hi hdb
    · cases h
  | ingest agentId monitorId outcome =>
    simp only [System.agentStep] at h
    split at h
    · rename_i hh
      split at h
      · split at h
        · cases h
          exact .ingested hh
        · cases h
          exact .refused hh
      · cases h
        exact .refused hh
    · cases h

/-- Every step is one of the cases. -/
theorem effect_of_step {cfg : EngineConfig} {s s' : System} {a : Action} {ev : List Event}
    (h : s.step cfg a = some (s', ev)) : Effect cfg s a s' ev := by
  cases a with
  | advance d =>
    cases h
    exact .advance
  | wallClock t =>
    cases h
    exact .wallClock
  | scheduler a => exact effect_of_schedulerStep h
  | watchdog a => exact effect_of_watchdogStep h
  | writer a => exact effect_of_writerStep h
  | agent a => exact effect_of_agentStep h
  | user a =>
    simp only [System.step, System.userStep] at h
    split at h
    · rename_i db hdb
      cases h
      exact .called (call_of_userCall hdb) hdb
    · cases h

/-- The monitors change by a write of the engine, which leaves an event, or by a user's call, and by nothing else. -/
theorem monitors_of_effect {cfg : EngineConfig} {s s' : System} {a : Action} {ev : List Event}
    (h : Effect cfg s a s' ev) :
    s'.db.monitors = s.db.monitors ∨
      (∃ m status, Event.wrote m status true ∈ ev ∧ s.db.setMonitorStatus m.val status = .ok s'.db) ∨
      ∃ u, a = .user u ∧ Call s.db u s'.db := by
  cases h with
  | @wrote p fault db hpc hdb =>
    exact Or.inr (Or.inl ⟨p.cause.monitorId, p.status, List.mem_cons_self, (answer_eq_ok hdb).2⟩)
  | @demoted stale m rest fault db hw hd hdb =>
    exact Or.inr (Or.inl ⟨m.id, .stale, List.mem_cons_self, (answer_eq_ok hdb).2⟩)
  | flushed hw => exact Or.inl (monitors_of_flush hw).1
  | heartbeat hm => exact Or.inl hm
  | called hc => exact Or.inr (Or.inr ⟨_, rfl, hc⟩)
  | _ => exact Or.inl rfl

/-! ## Heartbeats -/

/-- The rows of the agents after an upsert: those there were, and one with the heartbeat it was given. -/
theorem agents_of_upsertAgent {db db' : Db} {agent a : Agent} {pick : List Int64 → Int64}
    (h : db.upsertAgent agent pick = .ok (db', a)) :
    ∀ row ∈ db'.agents.rows, row ∈ db.agents.rows ∨ row.lastHeartbeatAt = agent.lastHeartbeatAt.toInt64 := by
  unfold Db.upsertAgent at h
  split at h
  · cases h
    intro row hrow
    obtain ⟨old, hold, rfl⟩ := List.mem_map.mp hrow
    split
    · exact Or.inr rfl
    · exact Or.inl hold
  · split at h
    · cases h
    · rename_i t id hins
      cases h
      intro row hrow
      rcases List.mem_cons.mp ((Table.insertRow_eq_some hins).2.2.1.mem_iff.mp hrow) with rfl | hrow
      · exact Or.inr rfl
      · exact Or.inl hrow

/-- The rows of the agents after a heartbeat: the agent's with the moment of it, and the others as they were. -/
theorem agents_of_heartbeatAgent {db db' : Db} {id t : UInt64} (h : db.heartbeatAgent id t = .ok db') :
    ∀ row ∈ db'.agents.rows, row.lastHeartbeatAt = t.toInt64 ∨ row ∈ db.agents.rows ∧ row.id ≠ id.toInt64 := by
  unfold Db.heartbeatAgent at h
  split at h
  · cases h
  · cases h
    intro row hrow
    obtain ⟨old, hold, rfl⟩ := List.mem_map.mp hrow
    split
    · exact Or.inl rfl
    · rename_i hid
      exact Or.inr ⟨hold, by simpa using hid⟩

/-- A deletion of an agent adds no row. -/
theorem agents_of_deleteAgent {db db' : Db} {id : UInt64} (h : db.deleteAgent id = .ok db') :
    ∀ row ∈ db'.agents.rows, row ∈ db.agents.rows := by
  unfold Db.deleteAgent at h
  split at h
  · cases h
  · split at h
    · cases h
    · cases h
      exact fun row hrow => (Table.mem_rows_delete.mp hrow).1

/-- A user's call leaves the agents as they were, or adds or overwrites one with the time of the call as its heartbeat. -/
theorem agents_of_userCall {s : System} {a : UserAction} {db : Db} (h : s.userCall a = .ok db) :
    ∀ row ∈ db.agents.rows, row ∈ s.db.agents.rows ∨ row.lastHeartbeatAt = s.wall.toInt64 := by
  have hsame : db.agents = s.db.agents → ∀ row ∈ db.agents.rows, row ∈ s.db.agents.rows ∨ row.lastHeartbeatAt = s.wall.toInt64 :=
    fun e row hrow => Or.inl (e ▸ hrow)
  cases a with
  | registerAgent name scope region token pick =>
    obtain ⟨⟨db₁, m⟩, h₁, rfl⟩ := map_eq_ok h
    exact agents_of_upsertAgent (provider_eq_ok.mp h₁)
  | removeAgent id => exact fun row hrow => Or.inl (agents_of_deleteAgent (provider_eq_ok.mp h) row hrow)
  | addMonitor =>
    cases call_of_userCall h with
    | added h => exact hsame (Db.insertMonitor_eq_ok h).2.2.2.1
  | editMonitor =>
    cases call_of_userCall h with
    | edited h => exact hsame (Db.updateMonitor_eq_ok h).2.1
  | removeMonitor => exact hsame (Db.deleteMonitor_eq_ok (provider_eq_ok.mp h)).1
  | pauseMonitor | resumeMonitor => exact hsame (Db.setMonitorStatus_eq_ok (provider_eq_ok.mp h)).2.2.1

/-- A step leaves every agent's heartbeat as it was, or sets it to the time. -/
theorem agents_of_effect {cfg : EngineConfig} {s s' : System} {a : Action} {ev : List Event} (h : Effect cfg s a s' ev) :
    ∀ row ∈ s'.db.agents.rows, row ∈ s.db.agents.rows ∨ row.lastHeartbeatAt = s.wall.toInt64 := by
  cases h with
  | wrote _ hdb | demoted _ _ hdb =>
    exact fun row hrow => Or.inl ((Db.setMonitorStatus_eq_ok (answer_eq_ok hdb).2).2.2.1 ▸ hrow)
  | flushed hw =>
    intro row hrow
    rcases (flush_eq_some hw).2.2 with ha | ⟨rfl, -⟩
    · exact Or.inl ((Db.insertCheckResults_eq_ok (answer_eq_ok ha).2).2.1 ▸ hrow)
    · exact Or.inl hrow
  | heartbeat _ _ _ hb =>
    intro row hrow
    rcases agents_of_heartbeatAgent hb row hrow with hrow | ⟨hrow, -⟩
    · exact Or.inr hrow
    · exact Or.inl hrow
  | called _ hc => exact agents_of_userCall hc
  | _ => exact fun row hrow => Or.inl hrow

/-! ## Writes and alerts -/

/-- The results submitted by the handling of an outcome are of its monitor. -/
theorem of_submissions_handle {s : Scheduler} {wall : UInt64} {cause : Handled} {r : CheckResult}
    (h : r ∈ System.submissions (s.handle wall cause).events) : r.monitorId = cause.monitorId := by
  have hh := Scheduler.handles_handle s wall cause
  generalize s.handle wall cause = x at h hh
  cases hh <;> simp [System.submissions] at h <;> simp [h, Scheduler.staleResult]

theorem of_submissions_resume {p : Scheduler.Persist} {wall : UInt64} {r : CheckResult}
    (h : r ∈ System.submissions (p.resume wall)) : r.monitorId = p.cause.monitorId := by
  unfold Scheduler.Persist.resume at h
  split at h <;> simp [System.submissions] at h <;> simp [h, Scheduler.staleResult]

/-- The status an event says was written for a monitor, or announced of it. -/
def Event.sets : Event → Option (MonitorId × MonitorStatus)
  | .wrote m status _ => some (m, status)
  | .alert request => some (request.monitorId, request.transitionedTo)
  | _ => none

/-- Up to its first await the handling of an outcome neither writes nor announces a status. -/
theorem sets_handle (s : Scheduler) (wall : UInt64) (cause : Handled) :
    ∀ e ∈ (s.handle wall cause).events, e.sets = none := by
  have hh := Scheduler.handles_handle s wall cause
  generalize s.handle wall cause = x at hh
  cases hh <;> simp [Event.sets]

/-- After it, the status persisted is announced. -/
theorem sets_resume (p : Scheduler.Persist) (wall : UInt64) :
    ∀ e ∈ p.resume wall, e.sets = none ∨ e.sets = some (p.cause.monitorId, p.status) := by
  unfold Scheduler.Persist.resume
  split <;> simp [Event.sets]

/-- A status is written or announced by the scheduler, of the outcome it waited to persist it for, or by the watchdog, of a
monitor its sweep demotes. -/
theorem sets_of_effect {cfg : EngineConfig} {s s' : System} {a : Action} {ev : List Event} {e : Event} {m : MonitorId}
    {status : MonitorStatus} (h : Effect cfg s a s' ev) (he : e ∈ ev) (hsets : e.sets = some (m, status)) :
    (∃ fault p, a = .scheduler (.setMonitorStatus fault) ∧ s.pc = .persisting p ∧ p.cause.monitorId = m ∧
        p.status = status) ∨
      ∃ fault stale monitor rest, a = .watchdog (.next fault) ∧ s.watchdog = .sweeping stale (monitor :: rest) ∧
        Watchdog.demotes stale monitor = true ∧ monitor.id = m ∧ status = .stale := by
  cases h with
  | resynced hpc =>
    obtain ⟨id, rfl, -⟩ := Scheduler.of_mem_events_resync he
    cases hsets
  | dispatched hpc =>
    rcases Scheduler.of_mem_events_dispatchDue he with ⟨task, rfl⟩ | ⟨agentId, assignment, rfl⟩ <;> cases hsets
  | handled hpc => cases (sets_handle _ _ _ e he).symm.trans hsets
  | @wrote p fault _ hpc hdb | @notWritten p fault _ hpc hdb =>
    have hp : e.sets = none ∨ e.sets = some (p.cause.monitorId, p.status) := by
      rcases List.mem_cons.mp he with rfl | he
      · exact Or.inr rfl
      · exact sets_resume p s.wall e he
    rcases hp with hp | hp
    · cases hp.symm.trans hsets
    · cases hp.symm.trans hsets
      exact Or.inl ⟨fault, p, rfl, hpc, rfl, rfl⟩
  | demoted hw hd hdb =>
    refine Or.inr ⟨_, _, _, _, rfl, hw, hd, ?_⟩
    simp only [List.mem_cons, List.not_mem_nil, or_false] at he
    rcases he with rfl | rfl <;> cases hsets <;> exact ⟨rfl, rfl⟩
  | notDemoted hw hd hdb =>
    refine Or.inr ⟨_, _, _, _, rfl, hw, hd, ?_⟩
    cases List.mem_singleton.mp he
    cases hsets
    exact ⟨rfl, rfl⟩
  | _ => cases he

/-- After its write the scheduler writes no other status. -/
theorem not_wrote_resume {p : Scheduler.Persist} {wall : UInt64} {m : MonitorId} {status : MonitorStatus} {written : Bool} :
    Event.wrote m status written ∉ p.resume wall := by
  unfold Scheduler.Persist.resume
  split <;> simp

/-- A write that the store took is a write of the store. -/
theorem set_of_wrote {cfg : EngineConfig} {s s' : System} {a : Action} {ev : List Event} {m : MonitorId}
    {status : MonitorStatus} (h : Effect cfg s a s' ev) (he : Event.wrote m status true ∈ ev) :
    s.db.setMonitorStatus m.val status = .ok s'.db := by
  cases h with
  | resynced hpc =>
    obtain ⟨id, hreg, -⟩ := Scheduler.of_mem_events_resync he
    cases hreg
  | dispatched hpc =>
    rcases Scheduler.of_mem_events_dispatchDue he with ⟨task, h⟩ | ⟨agentId, assignment, h⟩ <;> cases h
  | handled hpc => cases (sets_handle _ _ _ _ he)
  | wrote hpc hdb =>
    rcases List.mem_cons.mp he with he | he
    · cases he
      exact (answer_eq_ok hdb).2
    · exact absurd he not_wrote_resume
  | notWritten hpc hdb =>
    rcases List.mem_cons.mp he with he | he
    · cases he
    · exact absurd he not_wrote_resume
  | demoted hw hd hdb =>
    simp only [List.mem_cons, Event.wrote.injEq, reduceCtorEq, List.not_mem_nil, or_false] at he
    obtain ⟨rfl, rfl, -⟩ := he
    exact (answer_eq_ok hdb).2
  | notDemoted => simp at he
  | _ => cases he

/-! ## The status to persist -/

/-- A status the scheduler waits to persist is the one the outcome it handles can move the monitor to. -/
def System.Apt (s : System) : Prop := ∀ p, s.pc = .persisting p → p.status = p.cause.verdict.status

theorem apt_step {cfg : EngineConfig} {s s' : System} {a : Action} {ev : List Event} (hI : s.Apt)
    (h : Effect cfg s a s' ev) : s'.Apt := by
  intro p hp
  cases h with
  | handled hpc =>
    obtain ⟨rfl, hs, -⟩ := Scheduler.persist_handle ((Pc.handled_eq_persisting _ _).mp hp)
    exact hs
  | listedMonitors => cases hp
  | resyncTick => cases hp
  | received => cases hp
  | receivedUnknown => cases hp
  | resynced => exact absurd hp (Pc.resume_ne_persisting _ _)
  | notResynced => exact absurd hp (Pc.resume_ne_persisting _ _)
  | joined => exact absurd hp (Pc.joined_ne_persisting _ _)
  | wrote => cases hp
  | notWritten => cases hp
  | stopped => cases hp
  | _ => exact hI p hp

theorem apt_of_run {cfg : EngineConfig} {k8sFactory : Option K8sCollectorFactory} {db : Db} {s : System} {log : List Event}
    {ok : System → Action → Prop} (h : Runs.Run (System.step cfg) ok (System.start cfg k8sFactory db) s log) : s.Apt :=
  h.stateInvariant (I := System.Apt) (by intro p hp; cases hp) fun _ _ _ _ hI _ hs => apt_step hI (effect_of_step hs)

/-! ## A pushed result on its way -/

namespace System

variable {cfg : EngineConfig} {s : System}

/-- What an agent pushes for a monitor of its own goes into the channel. -/
theorem step_ingest {agentId : UInt64} {m : MonitorId} {monitor : Monitor} (hheld : (agentId, m) ∈ s.held)
    (hm : s.db.getMonitor m.val = .ok (some monitor)) (hlink : monitor.agentId = some agentId) (outcome : ProbeOutcome) :
    s.step cfg (.agent (.ingest agentId m outcome)) =
      some ({ s with pushRx := Channel.trySend cfg.ingestCapacity s.pushRx ⟨m, outcome⟩ }, []) := by
  simp only [step, agentStep, hheld, if_true, hm, hlink]

/-- The scheduler takes it up to handle it, if its monitor is registered. -/
theorem step_recv {p : PushedResult} {queue : List PushedResult} (hpc : s.pc = .select) (hdraining : s.draining = false)
    (hpush : s.pushRx = p :: queue) (hr : (s.scheduler.registry.lookup p.monitorId.val).isSome) :
    s.step cfg (.scheduler .recv) = some ({ s with pushRx := queue, pc := .handling (.pushed p) }, []) := by
  simp only [step, schedulerStep, hpc, hdraining, hpush, hr, if_true]

/-- It handles what it took up. -/
theorem step_handle {cause : Handled} (hpc : s.pc = .handling cause) :
    s.step cfg (.scheduler .handle) = some ({ s with
      scheduler := (s.scheduler.handle s.wall cause).scheduler
      pc := (s.scheduler.handle s.wall cause).persist.elim .select .persisting
      writer := s.writer.submit cfg.writerCapacity (submissions (s.scheduler.handle s.wall cause).events) },
      (s.scheduler.handle s.wall cause).events) := by
  simp only [step, schedulerStep, hpc]

/-- Whether or not the store takes the status, the scheduler goes back to its loop. -/
theorem step_setMonitorStatus (cfg : EngineConfig) {p : Scheduler.Persist} (hpc : s.pc = .persisting p) (fault : Bool) :
    ∃ db ev, s.step cfg (.scheduler (.setMonitorStatus fault)) = some ({ s with
      db, pc := .select
      writer := s.writer.submit cfg.writerCapacity (submissions (p.resume s.wall)) }, ev) := by
  simp only [step, schedulerStep, hpc]
  split
  · exact ⟨_, _, rfl⟩
  · exact ⟨s.db, _, rfl⟩

end System

end Monitra
