import Monitra.Engine.System

/-!
# A sweep of the watchdog from end to end (`crates/engine/src/watchdog.rs`)

`sweep` as one function of what the store answers, for when no other party comes in between. What it leaves is the store and the
channel of alert requests.
-/

namespace Monitra

namespace Watchdog

/-- What a sweep writes to: the store, and the channel to the alert task. -/
structure Sweep where
  db : Db
  alertRx : List AlertRequest

/-- One turn of the loop. `fails` says for which monitors the store refuses the write. -/
def sweepOne (alertCapacity : Nat) (fails : UInt64 → Bool) (staleAgentIds : List UInt64) (s : Sweep) (monitor : Monitor) : Sweep :=
  if demotes staleAgentIds monitor then
    match answer (fails monitor.id.val) (s.db.setMonitorStatus monitor.id.val .stale) with
    | .error _ => s
    | .ok db => ⟨db, Channel.trySend alertCapacity s.alertRx ⟨monitor.id, monitor.name, .stale⟩⟩
  else s

/-- `sweep`, with the answers to `list_agents` and `list_monitors`. -/
def sweep (alertCapacity : Nat) (heartbeatTimeoutSecs now : UInt64) (agents : Except StorageError (List Agent))
    (monitors : Except StorageError (List Monitor)) (fails : UInt64 → Bool) (s : Sweep) : Sweep :=
  match agents with
  | .error _ => s
  | .ok agents =>
    let stale := staleAgentIds heartbeatTimeoutSecs now agents
    if stale.isEmpty then s
    else
      match monitors with
      | .error _ => s
      | .ok monitors => monitors.foldl (sweepOne alertCapacity fails stale) s

end Watchdog

/-- The steps of one sweep of the daemon with nothing in between: the two lists, and a turn for each monitor. -/
def System.sweepActions (cfg : EngineConfig) (s : System) (agentsFault monitorsFault : Bool) (fails : UInt64 → Bool) : List Action :=
  .watchdog (.listAgents agentsFault) ::
    match answer agentsFault s.db.listAgents with
    | .error _ => []
    | .ok agents =>
      if (Watchdog.staleAgentIds cfg.heartbeatTimeoutSecs s.wall agents).isEmpty then []
      else
        .watchdog (.listMonitors monitorsFault) ::
          match answer monitorsFault s.db.listMonitors with
          | .error _ => []
          | .ok monitors => monitors.map fun monitor => .watchdog (.next (fails monitor.id.val))

end Monitra
