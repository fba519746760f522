import Monitra.Engine.System

/-!
# The daemon as the monitors of the other agents see it

A `Domain` is an agent with the ids of the monitors that are linked to it at some time. `Outside` is what is left of the daemon
when the domain is taken out of it: the counters, the results and the messages of the domain's monitors are gone, and of their
rows the status is, but not the rows, which take up ids. `Outside.step` is a machine of its own on what is left. Its inputs are
`Seen`: the requests of the other agents and of the users, the time, the outcomes of probes, and the moments at which the engine
takes its own steps for the other monitors. `System.seen` says what is seen of a step of the daemon, which for the requests of
the agent and for what the engine does on account of them is nothing.
-/

namespace Monitra

/-- An agent, with the ids that monitors linked to it have at some time. -/
structure Domain where
  agent : UInt64
  has : UInt64 → Bool

namespace Domain

variable (D : Domain)

/-- Every monitor that is linked to the agent has one of the ids. -/
def covers (db : Db) : Bool :=
  db.monitors.rows.all fun row => !decide (row.agentId = some D.agent.toInt64) || D.has row.id.toUInt64

/-- The ids other than the agent's. -/
def others (agentIds : List UInt64) : List UInt64 := agentIds.filter fun id => decide (id ≠ D.agent)

/-! ## What is taken out -/

/-- The rows of monitors without the statuses of the domain's. -/
def monitorMask : Mask MonitorRow.id where
  apply row := if D.has row.id.toUInt64 then { row with status := "" } else row
  key_apply row := by split <;> rfl
  apply_apply row := by by_cases h : D.has row.id.toUInt64 = true <;> simp [h]

/-- The rows of agents without the heartbeat of the domain's. -/
def agentMask : Mask AgentRow.id where
  apply row := if row.id = D.agent.toInt64 then { row with lastHeartbeatAt := 0 } else row
  key_apply row := by split <;> rfl
  apply_apply row := by by_cases h : row.id = D.agent.toInt64 <;> simp [h]

/-- The statuses of the domain's monitors and the heartbeats of its agent are hidden, and check results are counted apart. -/
def hideDb (db : Db) : Db where
  monitors := db.monitors.mask D.monitorMask
  checkResults := Table.empty
  agents := db.agents.mask D.agentMask
  alertEvents := Table.empty
  inserted := db.inserted

def hideResults (results : List CheckResult) : List CheckResult := results.filter fun r => !D.has r.monitorId.val

def hidePushed (pushed : List PushedResult) : List PushedResult := pushed.filter fun p => !D.has p.monitorId.val

def hideAfter (after : Option PushedResult) : Option PushedResult := after.filter fun p => !D.has p.monitorId.val

/-- A scheduler that works for the domain looks idle, and a list that did not come back leads on at once. -/
def hidePc : Pc → Pc
  | .select | .stopped => .select
  | .listing after => .listing (D.hideAfter after)
  | .listed (.ok monitors) after => .listed (.ok (monitors.filter fun m => !D.has m.id.val)) (D.hideAfter after)
  | .listed (.error _) after => .resume (D.hideAfter after)
  | .handling cause => if D.has cause.monitorId.val then .select else .handling cause
  | .persisting p => if D.has p.cause.monitorId.val then .select else .persisting p

/-- A sweep looks as if the agent were not quiet: with no other quiet agent there is none. -/
def hideWatchdog : Watchdog → Watchdog
  | .select => .select
  | .listing stale => if (D.others stale).isEmpty then .select else .listing (D.others stale)
  | .sweeping stale rest =>
    if (D.others stale).isEmpty then .select else Watchdog.goOn (D.others stale) (rest.filter fun m => !D.has m.id.val)

end Domain

/-- What is seen of a step. -/
inductive Seen where
  | wallClock (t : UInt64)
  -- the scheduler
  | resync
  | listMonitors (ok : Bool)
  | listReturned
  | joined (outcome : Outcome)
  | recv
  | handle
  | setMonitorStatus (fault : Bool)
  -- the watchdog
  | sweep
  | sweepMonitors (ok : Bool)
  | sweepNext (fault : Bool)
  -- the writer
  | writerRecv
  | flushed (ok : Bool)
  -- the other agents and the users
  | heartbeat (agentId : UInt64)
  | ingest (agentId : UInt64) (monitorId : MonitorId) (outcome : ProbeOutcome)
  | user (a : UserAction)

namespace System

variable (D : Domain)

def schedulerSeen (s : System) : SchedulerAction → Option Seen
  | .resyncTick => some .resync
  | .listMonitors fault => some (.listMonitors (answer fault s.db.listMonitors).isOk)
  | .listReturned =>
    match s.pc with
    | .listed (.ok _) _ => some .listReturned
    | _ => none
  | .join joined =>
    ((Scheduler.handleJoined s.tasks joined).2.filter fun o => !D.has (Handled.outcome o).monitorId.val).map .joined
  | .recv =>
    match s.pushRx with
    | [] => none
    | pushed :: _ =>
      if !D.has pushed.monitorId.val then some .recv
      else if (s.scheduler.registry.lookup pushed.monitorId.val).isSome then none
      else some .resync
  | .handle =>
    match s.pc with
    | .handling cause => if D.has cause.monitorId.val then none else some .handle
    | _ => none
  | .setMonitorStatus fault =>
    match s.pc with
    | .persisting p => if D.has p.cause.monitorId.val then none else some (.setMonitorStatus fault)
    | _ => none
  | .dispatchDue _ | .shutdown | .stop => none

def watchdogSeen (cfg : EngineConfig) (s : System) : WatchdogAction → Option Seen
  | .listAgents fault =>
    match answer fault s.db.listAgents with
    | .ok agents =>
      if (D.others (Watchdog.staleAgentIds cfg.heartbeatTimeoutSecs s.wall agents)).isEmpty then none else some .sweep
    | .error _ => none
  | .listMonitors fault =>
    match s.watchdog with
    | .listing stale =>
      if (D.others stale).isEmpty then none else some (.sweepMonitors (answer fault s.db.listMonitors).isOk)
    | _ => none
  | .next fault =>
    match s.watchdog with
    | .sweeping stale (monitor :: _) =>
      if (D.others stale).isEmpty || D.has monitor.id.val then none else some (.sweepNext fault)
    | _ => none

def writerSeen (s : System) : WriterAction → Option Seen
  | .recv =>
    match s.writer.queue with
    | [] => none
    | result :: _ => if D.has result.monitorId.val then none else some .writerRecv
  | .tick => none
  | .flush fault pick =>
    if (D.hideResults s.writer.batch).isEmpty then none
    else some (.flushed (answer fault (s.db.insertCheckResults pick s.writer.batch)).isOk)

def agentSeen : AgentAction → Option Seen
  | .configure _ _ | .forget _ _ | .pull _ => none
  | .heartbeat agentId => if agentId = D.agent then none else some (.heartbeat agentId)
  | .ingest agentId monitorId outcome =>
    if agentId = D.agent || D.has monitorId.val then none else some (.ingest agentId monitorId outcome)

/-- What is seen of a step from outside the domain. -/
def seen (cfg : EngineConfig) (s : System) : Action → Option Seen
  | .advance _ => none
  | .wallClock t => some (.wallClock t)
  | .scheduler a => s.schedulerSeen D a
  | .watchdog a => s.watchdogSeen D cfg a
  | .writer a => s.writerSeen D a
  | .agent a => agentSeen D a
  | .user a => some (.user a)

/-- Whether a result that an agent pushes is one of its own monitors'. -/
def accepts (s : System) (agentId : UInt64) (monitorId : MonitorId) : Bool :=
  match s.db.getMonitor monitorId.val with
  | .ok (some monitor) => monitor.agentId = some agentId
  | _ => false

/-- No channel is full for a message about a monitor outside the domain: neither the push channel nor the writer's. -/
def roomy (cfg : EngineConfig) (s : System) (a : Action) : Bool :=
  (match a with
    | .agent (.ingest agentId monitorId _) =>
      !s.accepts agentId monitorId || D.has monitorId.val || decide (s.pushRx.length < cfg.ingestCapacity)
    | _ => true) &&
  (match s.step cfg a with
    | some (_, events) =>
      (D.hideResults (submissions events)).isEmpty || decide (s.writer.queue.length < cfg.writerCapacity)
    | none => true)

end System

/-! ## What is left -/

@[ext] structure Outside where
  wall : UInt64
  db : Db
  /-- How many rows record a check result. -/
  results : CheckResult → Nat
  registry : UInt64 → Option (Monitor × FlapState)
  pushRx : List PushedResult
  pc : Pc
  watchdog : Watchdog
  queue : List CheckResult
  batch : List CheckResult

/-- What a registry entry is without its deadline. -/
def MonitorState.core (state : MonitorState) : Monitor × FlapState := (state.monitor, state.flap)

/-- The daemon without the domain. -/
def System.outside (D : Domain) (s : System) : Outside where
  wall := s.wall
  db := D.hideDb s.db
  results r := if D.has r.monitorId.val then 0 else s.db.checkResults.rows.countP fun row => row = Db.checkResultRow r row.id
  registry id := if D.has id then none else (s.scheduler.registry.lookup id).map MonitorState.core
  pushRx := D.hidePushed s.pushRx
  pc := D.hidePc s.pc
  watchdog := D.hideWatchdog s.watchdog
  queue := D.hideResults s.writer.queue
  batch := D.hideResults s.writer.batch

namespace Outside

variable (D : Domain) (v : Outside)

/-- The monitors outside the domain, as a list of the store has them. -/
def monitors : List Monitor :=
  (v.db.monitors.rows.filter fun row => !D.has row.id.toUInt64).filterMap fun row => (rowToMonitor row).toOption

/-- A scheduler with the registry entry of one id. -/
def entry (id : UInt64) : Scheduler where
  k8sFactory := none
  assignments := AssignmentHandle.new 0
  registry :=
    match v.registry id with
    | none => ∅
    | some (monitor, flap) => (∅ : HashMap UInt64 MonitorState).insert id ⟨monitor, 0, flap⟩
  k8sCollectors := ∅
  quarantined := []

def resync (monitors : List Monitor) (after : Option PushedResult) : Outside :=
  { v with
    registry := fun id => (((v.entry id).resync 0 monitors).1.registry.lookup id).map MonitorState.core
    pc := .resume after }

def handle (cause : Handled) : Outside :=
  let id := cause.monitorId.val
  let h := (v.entry id).handle v.wall cause
  { v with
    registry := Function.update v.registry id ((h.scheduler.registry.lookup id).map MonitorState.core)
    pc := h.persist.elim .select .persisting
    queue := v.queue ++ System.submissions h.events }

/-- The database after a write, or as it was when the store fails. -/
def put {ε : Type} : Except ε Db → Db
  | .ok db => D.hideDb db
  | .error _ => v.db

def userCall : UserAction → Except ProviderError Db
  | .addMonitor name target kind intervalSecs agentId pick =>
    (Service.addMonitor v.db name target kind intervalSecs agentId pick).map (·.1)
  | .editMonitor id name target intervalSecs agentId => Service.editMonitor v.db id name target intervalSecs agentId
  | .removeMonitor id => Service.removeMonitor v.db id
  | .pauseMonitor id => Service.pauseMonitor v.db id
  | .resumeMonitor id => Service.resumeMonitor v.db id
  | .registerAgent name scope region token pick =>
    (Service.registerAgent v.db name scope region v.wall token pick).map (·.1)
  | .removeAgent id => Service.removeAgent v.db id

/-- The results left when a user removes a monitor. -/
def resultsAfter (a : UserAction) : CheckResult → Nat :=
  match a with
  | .removeMonitor id => fun r => if r.monitorId.val = id then 0 else v.results r
  | _ => v.results

/-- What is seen of a step does to what is left. -/
def step (cfg : EngineConfig) : Seen → Outside
  | .wallClock t => { v with wall := t }
  | .resync => { v with pc := .listing none }
  | .listMonitors ok =>
    match v.pc with
    | .listing after => { v with pc := if ok then .listed (.ok (v.monitors D)) after else .resume after }
    | _ => v
  | .listReturned =>
    match v.pc with
    | .listed (.ok monitors) after => v.resync monitors after
    | _ => v
  | .joined outcome => { v with pc := .handling (.outcome outcome) }
  | .recv =>
    match v.pushRx with
    | [] => v
    | pushed :: pushRx =>
      let registered := (v.registry pushed.monitorId.val).isSome
      { v with pushRx, pc := if registered then .handling (.pushed pushed) else .listing (some pushed) }
  | .handle =>
    match v.pc with
    | .handling cause => v.handle cause
    | _ => v
  | .setMonitorStatus fault =>
    match v.pc with
    | .persisting p =>
      { v with
        db := v.put D (answer fault (v.db.setMonitorStatus p.cause.monitorId.val p.status))
        pc := .select
        queue := v.queue ++ System.submissions (p.resume v.wall) }
    | _ => v
  | .sweep =>
    let stale := Watchdog.staleAgentIds cfg.heartbeatTimeoutSecs v.wall (v.db.agents.rows.map rowToAgent)
    { v with watchdog := .listing (D.others stale) }
  | .sweepMonitors ok =>
    match v.watchdog with
    | .listing stale => { v with watchdog := if ok then Watchdog.goOn stale (v.monitors D) else .select }
    | _ => v
  | .sweepNext fault =>
    match v.watchdog with
    | .sweeping stale (monitor :: rest) =>
      let db := v.put D (answer fault (v.db.setMonitorStatus monitor.id.val .stale))
      { v with watchdog := Watchdog.goOn stale rest, db := if Watchdog.demotes stale monitor then db else v.db }
    | _ => v
  | .writerRecv =>
    match v.queue with
    | [] => v
    | result :: queue => { v with queue, batch := v.batch ++ [result] }
  | .flushed ok => { v with batch := [], results := if ok then fun r => v.batch.count r + v.results r else v.results }
  | .heartbeat agentId => { v with db := v.put D (v.db.heartbeatAgent agentId v.wall) }
  | .ingest agentId monitorId outcome =>
    match v.db.getMonitor monitorId.val with
    | .ok (some monitor) =>
      if monitor.agentId = some agentId then { v with pushRx := v.pushRx ++ [⟨monitorId, outcome⟩] } else v
    | _ => v
  | .user a =>
    match v.userCall a with
    | .ok db => { v with db := D.hideDb db, results := v.resultsAfter a }
    | .error _ => v

end Outside

end Monitra
