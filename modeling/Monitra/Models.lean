/-!
# The shared vocabulary (`crates/models`, and the outcome of a probe from `crates/probe`)

Identifiers and counters that are `u64` in the source are `UInt64` here.

A monitor id is carried through the engine by value: a task, a queued result or a queued assignment holds the number only. To
be able to say which inserted monitor such a value came from, an id that is carried has a second component, `origin`, the
number of the insertion whose row the id was read from, and with it the target that is checked under the id. It is an auxiliary
variable: every comparison and every lookup of the model uses `val` alone, as the program does, and no definition that the
program has reads `origin`.
-/

namespace Monitra

/-- A monitor id on its way through the program: the `u64`, and (auxiliary) which insertion it was read from. -/
structure MonitorId where
  val : UInt64
  origin : Nat
  deriving DecidableEq, Repr

/-- What a monitor checks. -/
inductive MonitorKind where
  | http | tcp | icmp | k8sDeployment | k8sStatefulSet | k8sService | hostAgentCheck
  deriving DecidableEq, Repr

/-- A monitor's current status. -/
inductive MonitorStatus where
  | pending | up | down | paused | stale | unknown
  deriving DecidableEq, Repr

def MIN_INTERVAL_SECS : UInt64 := 1
def MAX_INTERVAL_SECS : UInt64 := 86400

/-- Whether a check interval is one the scheduler accepts. -/
def validIntervalSecs (value : UInt64) : Bool := MIN_INTERVAL_SECS ≤ value ∧ value ≤ MAX_INTERVAL_SECS

/-- Configuration for one thing being watched. -/
structure Monitor where
  id : MonitorId
  name : String
  target : String
  kind : MonitorKind
  intervalSecs : UInt64
  status : MonitorStatus
  agentId : Option UInt64
  deriving DecidableEq, Repr

/-- One observation of a monitor. -/
structure CheckResult where
  monitorId : MonitorId
  checkedAt : UInt64
  success : Bool
  latencyMs : UInt64
  message : Option String
  deriving DecidableEq, Repr

/-- A record of an alert that was sent. -/
structure AlertEvent where
  id : UInt64
  monitorId : UInt64
  transitionedTo : MonitorStatus
  occurredAt : UInt64
  sinksAttempted : String
  deliveryOutcome : String
  deriving DecidableEq, Repr

/-- A registered remote collector. -/
structure Agent where
  id : UInt64
  name : String
  lastHeartbeatAt : UInt64
  scope : String
  token : String
  region : Option String
  deriving DecidableEq, Repr

/-! ## Probes -/

/-- The result of one probe attempt. `unavailable` is trouble on our side, never a verdict on the target. -/
inductive ProbeOutcome where
  | success (latencyMs : UInt64)
  | failure (message : String)
  | unavailable (message : String)
  deriving DecidableEq, Repr

/-- The kinds of monitor that run as a network probe. -/
inductive NetworkProbeKind where
  | http | tcp | icmp
  deriving DecidableEq, Repr

/-- The network probe of a kind of monitor, if it has one. -/
def NetworkProbeKind.tryFrom : MonitorKind → Option NetworkProbeKind
  | .http => some .http
  | .tcp => some .tcp
  | .icmp => some .icmp
  | .k8sDeployment | .k8sStatefulSet | .k8sService | .hostAgentCheck => none

end Monitra
