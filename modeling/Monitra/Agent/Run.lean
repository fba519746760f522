import Monitra.Agent.Config
import Monitra.Engine.Scheduler

/-!
# The agent process (`crates/agent/src/lib.rs`, `buffer.rs`, `client.rs`)

The loop of `run`: a cycle runs the local checks one after the other, fetches the agent's assignments, probes them one after the
other, and pushes everything in one request, which is also its heartbeat; then the process sleeps. What a failed push leaves
goes back to a bounded buffer. A run of the model ends at the shutdown signal.
-/

namespace Monitra

namespace Agents

/-- One check's result, with the monitor it belongs to. -/
structure PendingResult where
  monitorId : UInt64
  outcome : ProbeOutcome
  deriving DecidableEq, Repr

/-- One assignment as the agent reads it. -/
structure AssignmentDto where
  monitorId : UInt64
  target : String
  kind : MonitorKind
  deriving DecidableEq, Repr

def AssignmentDto.probeKind (assignment : AssignmentDto) : Option NetworkProbeKind := NetworkProbeKind.tryFrom assignment.kind

/-! ## The buffer -/

structure PushBuffer where
  queue : List PendingResult
  capacity : Nat
  deriving DecidableEq, Repr

def PushBuffer.new (capacity : Nat) : PushBuffer := ⟨[], max capacity 1⟩

/-- Buffer results; a full buffer loses its oldest. -/
def PushBuffer.pushBackAll (buffer : PushBuffer) (results : List PendingResult) : PushBuffer :=
  { buffer with
    queue := results.foldl (fun queue result =>
      (if buffer.capacity ≤ queue.length then queue.drop 1 else queue) ++ [result]) buffer.queue }

/-! ## The loop -/

/-- Where the process is. -/
inductive AgentPc where
  /-- Running the local checks; those still to come, and the results so far. -/
  | checking (rest : List CheckDefinition) (results : List PendingResult)
  /-- Probing the first of the assignments still to come, since a moment. -/
  | probing (rest : List AssignmentDto) (since : Instant) (results : List PendingResult)
  /-- About to push. -/
  | pushing (results : List PendingResult)
  /-- In the `select!` of the loop, since a moment. -/
  | sleeping (since : Instant)

/-- The process, with its configuration. -/
structure AgentProcess where
  config : CheckConfig
  probeTimeout : Duration
  buffer : PushBuffer
  pc : AgentPc

namespace AgentProcess

/-- The process as it starts: with a cycle. -/
def start (config : CheckConfig) (probeTimeout : Duration) (bufferCapacity : Nat) : AgentProcess :=
  ⟨config, probeTimeout, PushBuffer.new bufferCapacity, .checking config.checks []⟩

/-- How long the process sleeps. -/
def interval (p : AgentProcess) : Duration := Duration.fromSecs (max p.config.intervalSecs 1)

/-- On to the assignments that are left; an assignment that is no network probe is passed over. -/
def goOn (rest : List AssignmentDto) (now : Instant) (results : List PendingResult) : AgentPc :=
  match rest.filter fun assignment => assignment.probeKind.isSome with
  | [] => .pushing results
  | next :: rest => .probing (next :: rest) now results

/-- A local check ends. -/
def check (p : AgentProcess) (outcome : ProbeOutcome) : Option AgentProcess :=
  match p.pc with
  | .checking (definition :: rest) results =>
    some { p with pc := .checking rest (results ++ [⟨definition.monitorId, outcome⟩]) }
  | _ => none

/-- The request for the assignments ends, with a list or in a failure. -/
def fetched (p : AgentProcess) (now : Instant) (assignments : Option (List AssignmentDto)) : Option AgentProcess :=
  match p.pc with
  | .checking [] results => some { p with pc := goOn (assignments.getD []) now results }
  | _ => none

/-- A probe ends. -/
def probed (p : AgentProcess) (now : Instant) (outcome : ProbeOutcome) : Option AgentProcess :=
  match p.pc with
  | .probing (assignment :: rest) _ results =>
    some { p with pc := goOn rest now (results ++ [⟨assignment.monitorId, outcome⟩]) }
  | _ => none

/-- What a push sends: what is buffered, and the results of the cycle. -/
def batch (p : AgentProcess) : List PendingResult :=
  match p.pc with
  | .pushing results => p.buffer.queue ++ results
  | _ => []

/-- The push ends: the buffer is empty, or holds what has room of the batch. -/
def pushed (p : AgentProcess) (now : Instant) (ok : Bool) : Option AgentProcess :=
  match p.pc with
  | .pushing _ =>
    let drained : PushBuffer := { p.buffer with queue := [] }
    some { p with buffer := if ok then drained else drained.pushBackAll p.batch, pc := .sleeping now }
  | _ => none

/-- The sleep is over, and the next cycle begins. -/
def woken (p : AgentProcess) (now : Instant) : Option AgentProcess :=
  match p.pc with
  | .sleeping since => if since + p.interval ≤ now then some { p with pc := .checking p.config.checks [] } else none
  | _ => none

end AgentProcess

end Agents

end Monitra
