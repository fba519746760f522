import Monitra.Library.Runs
import Monitra.Backend.Service
import Monitra.Engine.Scheduler
import Monitra.Engine.Writer
import Monitra.Engine.Watchdog

/-!
# The running daemon

The parties are the scheduler, the watchdog, the writer, the agents and the users, and they share the store. Each is a
sequential program that gives way at its awaits; between any two steps of one, any steps of the others can happen. A step of
`step` is one stretch of one party between two awaits, or one operation of the store on behalf of a party that waits for it.
When the operation was a write, its party goes on in the same step: up to its next await all it does is send to channels, which
no other party can tell from sending later. What the source leaves open is in the action: the order of a hash map, the end of a
task, whether the store fails, the time.

The scheduler's loop is followed until it stops: after the shutdown signal it only joins tasks (`draining`), and it stops when
none are left. A run of the model ends at the shutdown deadline if that comes first.

An agent can push for a monitor only what it holds: a check its operator configured for a monitor of the store, or an
assignment it pulled (`held`). The id it pushes is the id it was given.
-/

namespace Monitra

/-- The parts of the engine's configuration that the steps read. -/
structure EngineConfig where
  heartbeatTimeoutSecs : UInt64
  writerCapacity : Nat
  writerBatchSize : Nat
  ingestCapacity : Nat
  assignmentQueueCapacity : Nat
  deriving DecidableEq, Repr

/-- `EngineConfig::default()`. -/
def EngineConfig.default : EngineConfig where
  heartbeatTimeoutSecs := 90
  writerCapacity := 4096
  writerBatchSize := 200
  ingestCapacity := 1024
  assignmentQueueCapacity := 64

/-- Where the scheduler task is. -/
inductive Pc where
  /-- In the `select!` of its loop. -/
  | select
  /-- In `resync`, waiting for the list of monitors. After it, the pushed result that made it resync is handled, if any. -/
  | listing (after : Option PushedResult)
  /-- In `resync`, with the store's answer. -/
  | listed (answer : Except StorageError (List Monitor)) (after : Option PushedResult)
  /-- About to apply an outcome, or to mark its monitor stale. -/
  | handling (cause : Handled)
  /-- In `persist_status`, waiting for the store. -/
  | persisting (p : Scheduler.Persist)
  /-- Returned. -/
  | stopped

/-- Where a resync leads back to. -/
def Pc.resume : Option PushedResult → Pc
  | none => .select
  | some pushed => .handling (.pushed pushed)

def Pc.isStopped : Pc → Bool
  | .stopped => true
  | _ => false

structure System where
  db : Db
  /-- `Instant::now()` and the wall clock. -/
  clock : Instant
  wall : UInt64
  scheduler : Scheduler
  tasks : Tasks
  pushRx : List PushedResult
  pc : Pc
  draining : Bool
  watchdog : Watchdog
  writer : Writer
  /-- Which monitors' checks each agent holds. -/
  held : List (UInt64 × MonitorId)

/-- The daemon as it starts on a database: `Scheduler::run` begins with a resync. -/
def System.start (cfg : EngineConfig) (k8sFactory : Option K8sCollectorFactory) (db : Db) : System where
  db := db
  clock := 0
  wall := 0
  scheduler := Scheduler.new k8sFactory (AssignmentHandle.new cfg.assignmentQueueCapacity)
  tasks := Tasks.empty
  pushRx := []
  pc := .listing none
  draining := false
  watchdog := .select
  writer := Writer.spawn
  held := []

/-! ## Actions -/

inductive SchedulerAction where
  | resyncTick
  | listMonitors (fault : Bool)
  | listReturned
  | dispatchDue (due : List UInt64)
  | join (joined : Except JoinError (TaskId × Outcome))
  | recv
  | handle
  | setMonitorStatus (fault : Bool)
  | shutdown
  | stop

inductive WatchdogAction where
  | listAgents (fault : Bool)
  | listMonitors (fault : Bool)
  | next (fault : Bool)
  deriving DecidableEq

inductive WriterAction where
  | recv
  | tick
  | flush (fault : Bool) (pick : List Int64 → Int64)

inductive AgentAction where
  /-- The operator configures a local check of an agent for a monitor of the store. -/
  | configure (agentId id : UInt64)
  /-- The agent drops a check or an assignment. -/
  | forget (agentId : UInt64) (monitorId : MonitorId)
  /-- `GET /agents/{id}/assignments`. -/
  | pull (agentId : UInt64)
  /-- The heartbeat of `POST /agents/{id}/ingest`. -/
  | heartbeat (agentId : UInt64)
  /-- One result of `POST /agents/{id}/ingest`. -/
  | ingest (agentId : UInt64) (monitorId : MonitorId) (outcome : ProbeOutcome)
  deriving DecidableEq

inductive UserAction where
  | addMonitor (name target : String) (kind : MonitorKind) (intervalSecs : UInt64) (agentId : Option UInt64)
      (pick : List Int64 → Int64)
  | editMonitor (id : UInt64) (name target : Option String) (intervalSecs : Option UInt64) (agentId : Option UInt64)
  | removeMonitor (id : UInt64)
  | pauseMonitor (id : UInt64)
  | resumeMonitor (id : UInt64)
  | registerAgent (name scope : String) (region : Option String) (token : String) (pick : List Int64 → Int64)
  | removeAgent (id : UInt64)

inductive Action where
  | advance (d : Duration)
  | wallClock (t : UInt64)
  | scheduler (a : SchedulerAction)
  | watchdog (a : WatchdogAction)
  | writer (a : WriterAction)
  | agent (a : AgentAction)
  | user (a : UserAction)

namespace System

/-! ## Steps -/

/-- The results that events submit to the writer. -/
def submissions (events : List Event) : List CheckResult :=
  events.filterMap fun
    | .submitted result => some result
    | _ => none

/-- A task of the set ends: with an outcome it may return, or in a panic. -/
def joinable (s : System) : Except JoinError (TaskId × Outcome) → Bool
  | .ok (id, outcome) => s.tasks.running.any fun t => t.id = id ∧ t.body.mayReturn outcome
  | .error err => s.tasks.running.any fun t => t.id = err.id

def schedulerStep (cfg : EngineConfig) (s : System) : SchedulerAction → Option (System × List Event)
  | .resyncTick =>
    match s.pc, s.draining with
    | .select, false => some ({ s with pc := .listing none }, [])
    | _, _ => none
  | .listMonitors fault =>
    match s.pc with
    | .listing after => some ({ s with pc := .listed (answer fault s.db.listMonitors) after }, [])
    | _ => none
  | .listReturned =>
    match s.pc with
    | .listed (.ok monitors) after =>
      let (scheduler, events) := s.scheduler.resync s.clock monitors
      some ({ s with scheduler, pc := .resume after }, events)
    | .listed (.error _) after => some ({ s with pc := .resume after }, [])
    | _ => none
  | .dispatchDue due =>
    match s.pc, s.draining with
    | .select, false =>
      if due.Perm (s.scheduler.dueIds s.clock) then
        let d := s.scheduler.dispatchDue s.tasks s.clock due
        some ({ s with scheduler := d.scheduler, tasks := d.tasks }, d.events)
      else none
    | _, _ => none
  | .join joined =>
    match s.pc with
    | .select =>
      if s.joinable joined then
        let (tasks, outcome) := Scheduler.handleJoined s.tasks joined
        some ({ s with tasks, pc := (outcome.map Handled.outcome).elim .select .handling }, [])
      else none
    | _ => none
  | .recv =>
    match s.pc, s.draining, s.pushRx with
    | .select, false, pushed :: pushRx =>
      let registered := (s.scheduler.registry.lookup pushed.monitorId.val).isSome
      some ({ s with pushRx, pc := if registered then .handling (.pushed pushed) else .listing (some pushed) }, [])
    | _, _, _ => none
  | .handle =>
    match s.pc with
    | .handling cause =>
      let h := s.scheduler.handle s.wall cause
      some ({ s with
        scheduler := h.scheduler
        pc := h.persist.elim .select .persisting
        writer := s.writer.submit cfg.writerCapacity (submissions h.events) }, h.events)
    | _ => none
  | .setMonitorStatus fault =>
    match s.pc with
    | .persisting p =>
      let events := p.resume s.wall
      let s' := { s with pc := .select, writer := s.writer.submit cfg.writerCapacity (submissions events) }
      match answer fault (s.db.setMonitorStatus p.cause.monitorId.val p.status) with
      | .ok db => some ({ s' with db }, .wrote p.cause.monitorId p.status true :: events)
      | .error _ => some (s', .wrote p.cause.monitorId p.status false :: events)
    | _ => none
  | .shutdown =>
    match s.pc, s.draining with
    | .select, false => some ({ s with draining := true }, [])
    | _, _ => none
  | .stop =>
    match s.pc, s.draining, s.tasks.running with
    | .select, true, [] => some ({ s with pc := .stopped }, [])
    | _, _, _ => none

def watchdogStep (cfg : EngineConfig) (s : System) : WatchdogAction → Option (System × List Event)
  | .listAgents fault =>
    match s.watchdog, answer fault s.db.listAgents with
    | .select, .ok agents =>
      let stale := Watchdog.staleAgentIds cfg.heartbeatTimeoutSecs s.wall agents
      some ({ s with watchdog := if stale.isEmpty then .select else .listing stale }, [])
    | .select, .error _ => some (s, [])
    | _, _ => none
  | .listMonitors fault =>
    match s.watchdog, answer fault s.db.listMonitors with
    | .listing stale, .ok monitors => some ({ s with watchdog := Watchdog.goOn stale monitors }, [])
    | .listing _, .error _ => some ({ s with watchdog := .select }, [])
    | _, _ => none
  | .next fault =>
    match s.watchdog with
    | .sweeping stale (monitor :: rest) =>
      let s' := { s with watchdog := Watchdog.goOn stale rest }
      if Watchdog.demotes stale monitor then
        match answer fault (s.db.setMonitorStatus monitor.id.val .stale) with
        | .ok db => some ({ s' with db }, [.wrote monitor.id .stale true, .alert ⟨monitor.id, monitor.name, .stale⟩])
        | .error _ => some (s', [.wrote monitor.id .stale false])
      else some (s', [])
    | _ => none

def writerStep (cfg : EngineConfig) (s : System) : WriterAction → Option (System × List Event)
  | .recv => (s.writer.recv cfg.writerBatchSize s.pc.isStopped).map fun writer => ({ s with writer }, [])
  | .tick => s.writer.tick.map fun writer => ({ s with writer }, [])
  | .flush fault pick => (s.writer.flush s.db fault pick).map fun (writer, db) => ({ s with writer, db }, [])

def agentStep (cfg : EngineConfig) (s : System) : AgentAction → Option (System × List Event)
  | .configure agentId id =>
    match s.db.monitors.get? id.toInt64 with
    | some row => some ({ s with held := (agentId, ⟨id, row.origin⟩) :: s.held }, [])
    | none => none
  | .forget agentId monitorId => some ({ s with held := s.held.erase (agentId, monitorId) }, [])
  | .pull agentId =>
    let (assignments, pulled) := s.scheduler.assignments.drain agentId
    some ({ s with
      scheduler := { s.scheduler with assignments }
      held := s.held ++ pulled.map fun a => (agentId, a.monitorId) }, [])
  | .heartbeat agentId =>
    match s.db.heartbeatAgent agentId s.wall with
    | .ok db => some ({ s with db }, [])
    | .error _ => none
  | .ingest agentId monitorId outcome =>
    if (agentId, monitorId) ∈ s.held then
      match s.db.getMonitor monitorId.val with
      | .ok (some monitor) =>
        if monitor.agentId = some agentId then
          some ({ s with pushRx := Channel.trySend cfg.ingestCapacity s.pushRx ⟨monitorId, outcome⟩ }, [])
        else some (s, [])
      | _ => some (s, [])
    else none

/-- What a user's call does to the database. -/
def userCall (s : System) : UserAction → Except ProviderError Db
  | .addMonitor name target kind intervalSecs agentId pick =>
    (Service.addMonitor s.db name target kind intervalSecs agentId pick).map (·.1)
  | .editMonitor id name target intervalSecs agentId => Service.editMonitor s.db id name target intervalSecs agentId
  | .removeMonitor id => Service.removeMonitor s.db id
  | .pauseMonitor id => Service.pauseMonitor s.db id
  | .resumeMonitor id => Service.resumeMonitor s.db id
  | .registerAgent name scope region token pick =>
    (Service.registerAgent s.db name scope region s.wall token pick).map (·.1)
  | .removeAgent id => Service.removeAgent s.db id

/-- A user's call that returns `Ok`. One that fails has no effect and is no step. -/
def userStep (s : System) (a : UserAction) : Option (System × List Event) :=
  match s.userCall a with
  | .ok db => some ({ s with db }, [])
  | .error _ => none

/-- One step of the daemon. -/
def step (cfg : EngineConfig) (s : System) : Action → Option (System × List Event)
  | .advance d => some ({ s with clock := s.clock + d }, [])
  | .wallClock t => some ({ s with wall := t }, [])
  | .scheduler a => s.schedulerStep cfg a
  | .watchdog a => s.watchdogStep cfg a
  | .writer a => s.writerStep cfg a
  | .agent a => s.agentStep cfg a
  | .user a => s.userStep a

end System

end Monitra
