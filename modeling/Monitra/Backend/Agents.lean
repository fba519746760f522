import Monitra.Provider.Config
import Monitra.Backend.Monitors

/-!
# The `/agents` and `/alerts` handlers (`crates/backend/src/agents.rs`, `alerts.rs`)

The token of an agent is in one answer only, that of its registration. What an agent pushes and pulls is in `Ingest.lean` and
`Wire.lean`.
-/

namespace Monitra

/-- An agent as `GET /agents` shows it. Its token is left out; its region is what it was registered with, if anything. -/
structure AgentDto where
  id : UInt64
  name : String
  lastHeartbeatAt : UInt64
  scope : String
  region : Option String
  deriving DecidableEq, Repr

/-- `impl From<Agent> for AgentDto` -/
def AgentDto.ofAgent (agent : Agent) : AgentDto where
  id := agent.id
  name := agent.name
  lastHeartbeatAt := agent.lastHeartbeatAt
  scope := agent.scope
  region := agent.region

/-- The body of a registration. A region that is omitted means no region, also for an agent that had one. -/
structure RegisterAgentRequest where
  name : String
  scope : String
  region : Option String
  deriving DecidableEq, Repr

/-- The answer to a registration, the only one with the token of the agent. -/
structure RegisterAgentResponse where
  id : UInt64
  name : String
  scope : String
  token : String
  region : Option String
  deriving DecidableEq, Repr

/-- `impl From<Agent> for RegisterAgentResponse` -/
def RegisterAgentResponse.ofAgent (agent : Agent) : RegisterAgentResponse where
  id := agent.id
  name := agent.name
  scope := agent.scope
  token := agent.token
  region := agent.region

namespace Registration

/-- `POST /agents`: a token is generated, and the agent of that name is registered with it, or has its token replaced by it. -/
def register (db : Db) (fault : Option ProviderError) (nowUnixSecs : UInt64) (randomBytes : Vector UInt8 32)
    (pick : List Int64 → Int64) (body : RegisterAgentRequest) : Except ApiError (Db × RegisterAgentResponse) := do
  let token := generateApiToken randomBytes
  let (db, agent) ←
    Service.called fault (Service.registerAgent db body.name body.scope body.region nowUnixSecs token pick)
  return (db, .ofAgent agent)

/-- `GET /agents`. -/
def list (db : Db) (fault : Option ProviderError) : Except ApiError (List AgentDto) := do
  let agents ← Service.called fault (Service.provider db.listAgents)
  return agents.map .ofAgent

/-- `DELETE /agents/{id}`. -/
def remove (db : Db) (fault : Option ProviderError) (id : UInt64) : Except ApiError Db :=
  Service.called fault (Service.removeAgent db id)

end Registration

/-- An event of the alert history as `GET /alerts` shows it. -/
structure AlertEventDto where
  id : UInt64
  monitorId : UInt64
  transitionedTo : MonitorStatus
  occurredAt : UInt64
  sinksAttempted : String
  deliveryOutcome : String
  deriving DecidableEq, Repr

/-- `impl From<AlertEvent> for AlertEventDto` -/
def AlertEventDto.ofAlertEvent (event : AlertEvent) : AlertEventDto where
  id := event.id
  monitorId := event.monitorId
  transitionedTo := event.transitionedTo
  occurredAt := event.occurredAt
  sinksAttempted := event.sinksAttempted
  deliveryOutcome := event.deliveryOutcome

/-- `GET /alerts`. -/
def Alerts.list (db : Db) (fault : Option ProviderError) : Except ApiError (List AlertEventDto) := do
  let events ← Service.called fault (Service.provider db.listAllAlertEvents)
  return events.map .ofAlertEvent

end Monitra
