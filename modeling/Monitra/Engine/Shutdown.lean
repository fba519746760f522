import Monitra.Engine.Probing

/-!
# The end of the scheduler (`Scheduler::run` after its loop, and the push channel)

`Engine/System.lean` follows the scheduler until no task is left. Here its drain has its deadline: `tokio::time::timeout` drops
the drain at the await it is found at, which is the one for the next task or the one in `persist_status`, and the scheduler
warns of the tasks that are still in the set. When the scheduler returns, its end of the push channel goes with it. A run of the
model ends there.

What is told of a step is what the scheduler takes on and what becomes of it: the pushed results that find room in the channel,
the outcomes that are joined, those whose handling is complete, and the warning.
-/

namespace Monitra

structure Shutdown where
  system : System
  /-- When the drain began. -/
  since : Option Instant

inductive ShutdownAction where
  | system (a : Action)
  /-- The deadline of the drain. -/
  | timeout

inductive ShutdownEvent where
  /-- `IngestHandle::submit` found room for a pushed result. -/
  | enqueued (pushed : PushedResult)
  /-- A task was joined, with this outcome to handle. -/
  | joined (id : TaskId) (outcome : Outcome)
  | finished (cause : Handled)
  /-- "shutdown deadline exceeded, abandoning remaining in-flight probes", with the tasks that are counted. -/
  | abandoned (tasks : List Task)
  | returned
  deriving DecidableEq, Repr

def Shutdown.start (cfg : EngineConfig) (k8sFactory : Option K8sCollectorFactory) (db : Db) : Shutdown :=
  ⟨System.start cfg k8sFactory db, none⟩

namespace Shutdown

/-- What a step of the daemon takes on. -/
def taken (cfg : EngineConfig) (s : System) : Action → List ShutdownEvent
  | .agent (.ingest agentId monitorId outcome) =>
    match s.db.getMonitor monitorId.val with
    | .ok (some monitor) =>
      if monitor.agentId = some agentId ∧ s.pushRx.length < cfg.ingestCapacity then [.enqueued ⟨monitorId, outcome⟩] else []
    | _ => []
  | .scheduler (.join joined) => (Scheduler.handleJoined s.tasks joined).2.toList.map (.joined (joinedId joined))
  | _ => []

/-- The outcomes whose handling is complete. -/
def finishedIn (events : List Event) : List Handled :=
  events.filterMap fun
    | .finished cause => some cause
    | _ => none

/-- When the drain began, after a step. -/
def sinceAfter (s : Shutdown) : Action → Option Instant
  | .scheduler .shutdown => some s.system.clock
  | _ => s.since

/-- Whether the drain waits: for a task, or for the store. -/
def drainWaits (s : System) : Bool :=
  match s.pc with
  | .select => !s.tasks.running.isEmpty
  | .persisting _ => true
  | _ => false

def step (cfg : EngineConfig) (scheduler : SchedulerConfig) (s : Shutdown) :
    ShutdownAction → Option (Shutdown × List ShutdownEvent)
  | .system a =>
    if s.system.pc.isStopped then none
    else
      match s.system.step cfg a with
      | none => none
      | some (system, events) =>
        some (⟨system, s.sinceAfter a⟩,
          taken cfg s.system a ++ (finishedIn events).map .finished ++ if system.pc.isStopped then [.returned] else [])
  | .timeout =>
    match s.since with
    | some since =>
      if s.system.draining ∧ since + scheduler.shutdownDeadline ≤ s.system.clock ∧ drainWaits s.system then
        some (⟨{ s.system with pc := .stopped, tasks := { s.system.tasks with running := [] } }, s.since⟩,
          [.abandoned s.system.tasks.running, .returned])
      else none
    | none => none

end Shutdown

end Monitra
