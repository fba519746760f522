import Monitra.Storage.Store

/-!
# The agent-liveness watchdog (`crates/engine/src/watchdog.rs`)

A sweep lists the agents, then the monitors, and then goes through the listed monitors and marks stale those whose agent has
gone quiet, one write at a time. It decides from the list it read; what the store holds by the time of a write is not looked
at.
-/

namespace Monitra

/-- Where the watchdog task is: in its `select!`, waiting for the monitors of the agents found quiet, or in the loop with the
monitors still to come. -/
inductive Watchdog where
  | select
  | listing (staleAgentIds : List UInt64)
  | sweeping (staleAgentIds : List UInt64) (rest : List Monitor)
  deriving DecidableEq, Repr

namespace Watchdog

/-- The agents whose last heartbeat is longer ago than the timeout. A heartbeat in the future is no time ago. -/
def staleAgentIds (heartbeatTimeoutSecs now : UInt64) (agents : List Agent) : List UInt64 :=
  (agents.filter fun agent => heartbeatTimeoutSecs.toNat < now.toNat - agent.lastHeartbeatAt.toNat).map (·.id)

/-- Whether the loop writes for a listed monitor: linked to a quiet agent, and neither paused, stale nor quarantined. -/
def demotes (staleAgentIds : List UInt64) (monitor : Monitor) : Bool :=
  match monitor.agentId with
  | none => false
  | some agentId =>
    agentId ∈ staleAgentIds ∧ monitor.status ≠ .paused ∧ monitor.status ≠ .stale ∧ monitor.status ≠ .unknown

/-- The loop with the monitors still to come; with none left the sweep is over. -/
def goOn (staleAgentIds : List UInt64) (rest : List Monitor) : Watchdog :=
  if rest.isEmpty then .select else .sweeping staleAgentIds rest

end Watchdog

end Monitra
