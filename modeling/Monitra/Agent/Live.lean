import Monitra.Agent.Run
import Monitra.Engine.System

/-!
# A running agent and its backend

The agent process beside the daemon, with one clock. Every request the process makes is answered at once: the push is the
heartbeat of the daemon, whose results come to the daemon as its own `ingest` steps, and the list of assignments is in the
action. Time passes only while the process sleeps, up to its interval, or waits for a probe, up to the probe's timeout; its
local checks take none. The wall clock of the daemon shows the seconds since the epoch.
-/

namespace Monitra

namespace Agents

structure Live where
  system : System
  process : AgentProcess

inductive LiveAction where
  /-- A step of the daemon that is not the passing of time. -/
  | daemon (a : Action)
  /-- Time passes. -/
  | pass (d : Duration)
  | check (outcome : ProbeOutcome)
  | fetch (assignments : List AssignmentDto)
  | probe (outcome : ProbeOutcome)
  | push
  | wake

/-- `now_unix_secs()`, when the clock started so many nanoseconds after the epoch. -/
def wallAt (epoch : Nat) (clock : Instant) : UInt64 := UInt64.ofNat ((epoch + clock) / 1000000000)

namespace Live

/-- The process may wait that much longer. -/
def mayPass (x : Live) (d : Duration) : Bool :=
  match x.process.pc with
  | .sleeping since => x.system.clock + d ≤ since + x.process.interval
  | .probing _ since _ => x.system.clock + d ≤ since + x.process.probeTimeout
  | _ => d = 0

/-- Whether a step of the daemon is the passing of time. -/
def isTime : Action → Bool
  | .advance _ | .wallClock _ => true
  | _ => false

/-- One step of the daemon and the process. -/
def step (cfg : EngineConfig) (epoch : Nat) (agentId : UInt64) (x : Live) : LiveAction → Option (Live × List Event)
  | .daemon a =>
    if isTime a then none
    else (x.system.step cfg a).map fun (system, events) => ({ x with system }, events)
  | .pass d =>
    if x.mayPass d then
      let clock := x.system.clock + d
      some ({ x with system := { x.system with clock, wall := wallAt epoch clock } }, [])
    else none
  | .check outcome => (x.process.check outcome).map fun process => ({ x with process }, [])
  | .fetch assignments =>
    if assignments.length ≤ cfg.assignmentQueueCapacity then
      (x.process.fetched x.system.clock (some assignments)).map fun process => ({ x with process }, [])
    else none
  | .probe outcome => (x.process.probed x.system.clock outcome).map fun process => ({ x with process }, [])
  | .push =>
    match x.process.pushed x.system.clock true, x.system.step cfg (.agent (.heartbeat agentId)) with
    | some process, some (system, events) => some ({ x with system, process }, events)
    | _, _ => none
  | .wake => (x.process.woken x.system.clock).map fun process => ({ x with process }, [])

end Live

end Agents

end Monitra
