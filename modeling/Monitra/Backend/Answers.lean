import Monitra.Backend.Router

/-!
# The answers on the wire

The derived `Serialize` of the types that the handlers answer with (`monitors.rs`, `agents.rs`, `alerts.rs`, `regions.rs`,
`health.rs`, `error.rs`), and of the status of a monitor, which is shared.
-/

namespace Monitra

open Serde

/-- The name of the variant in the source, which is the name on the wire. -/
def MonitorStatus.variantName : MonitorStatus → String
  | .pending => "Pending"
  | .up => "Up"
  | .down => "Down"
  | .paused => "Paused"
  | .stale => "Stale"
  | .unknown => "Unknown"

/-- A status is written as the name of its variant. -/
def MonitorStatus.serialize (status : MonitorStatus) : Json := .str status.variantName

/-- A status is read from the name of its variant, and from nothing else. -/
def MonitorStatus.deserialize (value : Json) : Except Serde.Error MonitorStatus := do
  let name ← readStr value
  if name = "Pending" then return .pending
  else if name = "Up" then return .up
  else if name = "Down" then return .down
  else if name = "Paused" then return .paused
  else if name = "Stale" then return .stale
  else if name = "Unknown" then return .unknown
  else throw (.unknownVariant name)

/-- A status is read as written. -/
@[simp] theorem MonitorStatus.deserialize_serialize (status : MonitorStatus) : deserialize status.serialize = .ok status := by
  cases status <;> rfl

/-- An object with every field under its name, in the order of the struct, as every answer here. A field that is `None` is `null`. -/
def MonitorDto.serialize (dto : MonitorDto) : Json :=
  .obj [("id", u64 dto.id), ("name", .str dto.name), ("target", .str dto.target), ("kind", dto.kind.serialize),
    ("interval_secs", u64 dto.intervalSecs), ("status", dto.status.serialize), ("status_reason", option .str dto.statusReason),
    ("agent_id", option u64 dto.agentId)]

/-- A result of the history, without the monitor that was asked for. -/
def CheckResultDto.serialize (dto : CheckResultDto) : Json :=
  .obj [("checked_at", u64 dto.checkedAt), ("success", .bool dto.success), ("latency_ms", u64 dto.latencyMs),
    ("message", option .str dto.message)]

def AgentDto.serialize (dto : AgentDto) : Json :=
  .obj [("id", u64 dto.id), ("name", .str dto.name), ("last_heartbeat_at", u64 dto.lastHeartbeatAt), ("scope", .str dto.scope),
    ("region", option .str dto.region)]

/-- The one answer that has a token. -/
def RegisterAgentResponse.serialize (response : RegisterAgentResponse) : Json :=
  .obj [("id", u64 response.id), ("name", .str response.name), ("scope", .str response.scope), ("token", .str response.token),
    ("region", option .str response.region)]

def AlertEventDto.serialize (dto : AlertEventDto) : Json :=
  .obj [("id", u64 dto.id), ("monitor_id", u64 dto.monitorId), ("transitioned_to", dto.transitionedTo.serialize),
    ("occurred_at", u64 dto.occurredAt), ("sinks_attempted", .str dto.sinksAttempted), ("delivery_outcome", .str dto.deliveryOutcome)]

/-- `RegionAggregateDto` has the fields of the aggregate. -/
def Service.RegionAggregate.serialize (aggregate : Service.RegionAggregate) : Json :=
  .obj [("target", .str aggregate.target), ("kind", aggregate.kind.serialize), ("region", .str aggregate.region),
    ("monitor_count", usize aggregate.monitorCount), ("probe_count", usize aggregate.probeCount),
    ("failure_count", usize aggregate.failureCount), ("p95_latency_ms", u64 aggregate.p95LatencyMs)]

/-- The three parts of the health are objects of their own. -/
def StoreHealth.serialize (health : StoreHealth) : Json := .obj [("name", .str health.name), ("reachable", .bool health.reachable)]

def CacheHealth.serialize (health : CacheHealth) : Json := .obj [("name", .str health.name), ("degraded", .bool health.degraded)]

def NotifierHealth.serialize (health : NotifierHealth) : Json :=
  .obj [("name", .str health.name), ("queue_len", usize health.queueLen)]

/-- What `GET /health` answers with. -/
def HealthResponse.serialize (response : HealthResponse) : Json :=
  .obj [("status", .str response.status), ("version", .str response.version), ("store", response.store.serialize),
    ("cache", response.cache.serialize), ("notifier", response.notifier.serialize),
    ("k8s_clusters", vec .str response.k8sClusters), ("quarantined_monitors", usize response.quarantinedMonitors)]

/-- The JSON that a body is, if it is JSON. -/
def Body.json : Body → Option Json
  | .error message => some (.obj [("error", .str message)])
  | .health response => some response.serialize
  | .monitor dto => some dto.serialize
  | .monitors dtos => some (vec MonitorDto.serialize dtos)
  | .history dtos => some (vec CheckResultDto.serialize dtos)
  | .registered response => some response.serialize
  | .agents dtos => some (vec AgentDto.serialize dtos)
  | .alerts dtos => some (vec AlertEventDto.serialize dtos)
  | .regions aggregates => some (vec Service.RegionAggregate.serialize aggregates)
  | .assignments response => some response.serialize
  | .empty | .rejection | .text _ | .asset _ _ => none

end Monitra
