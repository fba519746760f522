import Monitra.Engine.System

/-!
# Probes and permits (`dispatch_network` and `dispatch_k8s` in `crates/engine/src/scheduler.rs`)

What `Engine/System.lean` leaves open about a spawned task: when it may start and how long it takes. A task that probes or polls
first takes one of the permits of the scheduler's semaphore, inside the task, and gives it back when it ends. A probe ends within
`probe_timeout`, and a free permit does not lie idle while a task waits for one. Which waiting task gets a free permit is left
open. A task that has ended is joined at any time after that.
-/

namespace Monitra

structure SchedulerConfig where
  maxConcurrentProbes : Nat
  probeTimeout : Duration
  resyncInterval : Duration
  shutdownDeadline : Duration
  deriving DecidableEq, Repr

/-- `SchedulerConfig::default()`. -/
def SchedulerConfig.default : SchedulerConfig where
  maxConcurrentProbes := 64
  probeTimeout := Duration.fromSecs 10
  resyncInterval := Duration.fromSecs 5
  shutdownDeadline := Duration.fromSecs 10

/-- The permits `Scheduler::new` makes. -/
def SchedulerConfig.permits (cfg : SchedulerConfig) : Nat := max cfg.maxConcurrentProbes 1

/-- Whether a task takes a permit before it does anything else. -/
def TaskBody.takesPermit : TaskBody → Bool
  | .network .. | .poll .. => true
  | .noCollector .. => false

/-- The daemon with its tasks: which hold a permit, since when, and how the ones that have ended and are not joined did. -/
structure Probing where
  system : System
  holding : List (TaskId × Instant)
  ended : List (Except JoinError (TaskId × Outcome))

def Probing.start (cfg : EngineConfig) (k8sFactory : Option K8sCollectorFactory) (db : Db) : Probing :=
  ⟨System.start cfg k8sFactory db, [], []⟩

inductive ProbingAction where
  | system (a : Action)
  /-- A task gets a permit. -/
  | acquire (id : TaskId)
  /-- A task ends, and gives its permit back. -/
  | finish (joined : Except JoinError (TaskId × Outcome))

namespace Probing

/-- The tasks that have not ended. -/
def unfinished (p : Probing) : List Task := p.system.tasks.running.filter fun task => task.id ∉ p.ended.map joinedId

/-- Whether a task waits for a permit. -/
def waits (p : Probing) (task : Task) : Bool := task.body.takesPermit && decide (task.id ∉ p.holding.map (·.1))

/-- Whether time may pass: no probe exceeds its timeout, and no permit is free while a task waits. -/
def mayPass (cfg : SchedulerConfig) (p : Probing) (d : Duration) : Bool :=
  (p.holding.all fun h => decide (p.system.clock + d ≤ h.2 + cfg.probeTimeout)) &&
    (decide (cfg.permits ≤ p.holding.length) || p.unfinished.all fun task => !p.waits task)

/-- Whether a step of the daemon agrees with the tasks. -/
def allows (cfg : SchedulerConfig) (p : Probing) : Action → Bool
  | .advance d => p.mayPass cfg d
  | .scheduler (.join joined) => joined ∈ p.ended
  | _ => true

/-- The ended tasks that a step of the daemon leaves to be joined. -/
def endedAfter (p : Probing) : Action → List (Except JoinError (TaskId × Outcome))
  | .scheduler (.join joined) => p.ended.erase joined
  | _ => p.ended

def step (cfg : EngineConfig) (scheduler : SchedulerConfig) (p : Probing) : ProbingAction → Option (Probing × List Event)
  | .system a =>
    if p.allows scheduler a then
      (p.system.step cfg a).map fun x => ({ p with system := x.1, ended := p.endedAfter a }, x.2)
    else none
  | .acquire id =>
    if p.holding.length < scheduler.permits ∧ (p.unfinished.any fun task => task.id = id ∧ p.waits task) then
      some ({ p with holding := p.holding ++ [(id, p.system.clock)] }, [])
    else none
  | .finish joined =>
    if p.system.joinable joined ∧ (p.unfinished.any fun task => task.id = joinedId joined ∧ !p.waits task) then
      some ({ p with holding := p.holding.filter fun h => h.1 ≠ joinedId joined, ended := p.ended ++ [joined] }, [])
    else none

end Probing

end Monitra
