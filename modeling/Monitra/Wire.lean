import Monitra.Agent.Run
import Monitra.Backend.Ingest
import Monitra.Library.Serde

/-!
# The wire between agents and server (`crates/agent/src/client.rs`, `crates/backend/src/ingest.rs`, `assignments.rs`)

The body an agent pushes and the body of its assignments, as the side that has them writes them and the other side reads them. The
two sides have types of their own; of the shared vocabulary only `MonitorKind` is on the wire.
-/

namespace Monitra

open Serde

/-! ## The kind of a monitor -/

/-- The name of the variant in the source, which is the name on the wire. -/
def MonitorKind.variantName : MonitorKind → String
  | .http => "Http"
  | .tcp => "Tcp"
  | .icmp => "Icmp"
  | .k8sDeployment => "K8sDeployment"
  | .k8sStatefulSet => "K8sStatefulSet"
  | .k8sService => "K8sService"
  | .hostAgentCheck => "HostAgentCheck"

/-- A kind is written as the name of its variant. -/
def MonitorKind.serialize (kind : MonitorKind) : Json := .str kind.variantName

/-- A kind is read from the name of its variant, and from nothing else. -/
def MonitorKind.deserialize (value : Json) : Except Serde.Error MonitorKind := do
  let name ← readStr value
  if name = "Http" then return .http
  else if name = "Tcp" then return .tcp
  else if name = "Icmp" then return .icmp
  else if name = "K8sDeployment" then return .k8sDeployment
  else if name = "K8sStatefulSet" then return .k8sStatefulSet
  else if name = "K8sService" then return .k8sService
  else if name = "HostAgentCheck" then return .hostAgentCheck
  else throw (.unknownVariant name)

/-- A kind is read as written. -/
theorem MonitorKind.deserialize_serialize (kind : MonitorKind) : deserialize kind.serialize = .ok kind := by
  cases kind <;> rfl

/-! ## The agent's side (`client.rs`) -/

namespace Agents

/-- What an agent found, as it pushes it. -/
inductive WireOutcome where
  | success (latencyMs : UInt64)
  | failure (message : String)
  | unavailable (message : String)
  deriving DecidableEq, Repr

/-- `impl From<&ProbeOutcome> for WireOutcome` -/
def WireOutcome.ofProbeOutcome : ProbeOutcome → WireOutcome
  | .success latencyMs => .success latencyMs
  | .failure message => .failure message
  | .unavailable message => .unavailable message

/-- `tag = "outcome"`, `rename_all = "snake_case"` -/
def WireOutcome.fields : WireOutcome → List (String × Json)
  | .success latencyMs => tagged "outcome" (snakeCase "Success") [("latency_ms", u64 latencyMs)]
  | .failure message => tagged "outcome" (snakeCase "Failure") [("message", .str message)]
  | .unavailable message => tagged "outcome" (snakeCase "Unavailable") [("message", .str message)]

/-- A pushed result. `outcome` is flattened: its fields stand beside `monitor_id`. -/
structure WireResult where
  monitorId : UInt64
  outcome : WireOutcome
  deriving DecidableEq, Repr

def WireResult.serialize (result : WireResult) : Json := .obj (("monitor_id", u64 result.monitorId) :: result.outcome.fields)

/-- The body of a push: all the results of a cycle, or none. -/
structure IngestBody where
  results : List WireResult
  deriving DecidableEq, Repr

/-- The body of `IngestClient::push`. -/
def IngestBody.ofPending (results : List PendingResult) : IngestBody :=
  ⟨results.map fun pending => ⟨pending.monitorId, .ofProbeOutcome pending.outcome⟩⟩

def IngestBody.serialize (body : IngestBody) : Json := .obj [("results", vec WireResult.serialize body.results)]

/-- The derived `Deserialize`. Fields that the agent does not know are passed over. -/
def AssignmentDto.deserialize (value : Json) : Except Serde.Error AssignmentDto := do
  let fields ← readFields value
  let (monitorId, _) ← takeField "monitor_id" fields
  let (target, _) ← takeField "target" fields
  let (kind, _) ← takeField "kind" fields
  return ⟨← readU64 monitorId, ← readStr target, ← MonitorKind.deserialize kind⟩

/-- The answer to a pull, as the agent reads it. -/
structure AssignmentsBody where
  assignments : List AssignmentDto
  deriving DecidableEq, Repr

def AssignmentsBody.deserialize (value : Json) : Except Serde.Error AssignmentsBody := do
  let fields ← readFields value
  let (assignments, _) ← takeField "assignments" fields
  return ⟨← readVec AssignmentDto.deserialize assignments⟩

end Agents

/-! ## The server's side (`ingest.rs`, `assignments.rs`) -/

/-- `tag = "outcome"`, `rename_all = "snake_case"`, from the fields that are left to a flattened enum. -/
def PushedOutcomeDto.deserialize (fields : List (String × Json)) : Except Serde.Error PushedOutcomeDto := do
  let (name, fields) ← untag "outcome" fields
  if name = snakeCase "Success" then
    let (latencyMs, _) ← takeField "latency_ms" fields
    return .success (← readU64 latencyMs)
  else if name = snakeCase "Failure" then
    let (message, _) ← takeField "message" fields
    return .failure (← readStr message)
  else if name = snakeCase "Unavailable" then
    let (message, _) ← takeField "message" fields
    return .unavailable (← readStr message)
  else throw (.unknownVariant name)

/-- What is on the wire of an id is its number; `origin` is what the agent that sent it had in mind. -/
def PushedResultDto.deserialize (origin : UInt64 → Nat) (value : Json) : Except Serde.Error PushedResultDto := do
  let fields ← readFields value
  let (monitorId, fields) ← takeField "monitor_id" fields
  let monitorId ← readU64 monitorId
  return ⟨⟨monitorId, origin monitorId⟩, ← PushedOutcomeDto.deserialize fields⟩

/-- The body of a push, as the server reads it: one result that does not read fails them all. -/
def IngestRequest.deserialize (origin : UInt64 → Nat) (value : Json) : Except Serde.Error IngestRequest := do
  let fields ← readFields value
  let (results, _) ← takeField "results" fields
  return ⟨← readVec (PushedResultDto.deserialize origin) results⟩

namespace Assignments

/-- An assignment as the server writes it. -/
structure AssignmentDto where
  monitorId : UInt64
  target : String
  kind : MonitorKind
  deriving DecidableEq, Repr

/-- `impl From<Assignment> for AssignmentDto` -/
def AssignmentDto.ofAssignment (assignment : Assignment) : AssignmentDto :=
  ⟨assignment.monitorId.val, assignment.target, assignment.kind⟩

def AssignmentDto.serialize (dto : AssignmentDto) : Json :=
  .obj [("monitor_id", u64 dto.monitorId), ("target", .str dto.target), ("kind", dto.kind.serialize)]

/-- The answer to a pull, as the server writes it. -/
structure AssignmentsResponse where
  assignments : List AssignmentDto
  deriving DecidableEq, Repr

def AssignmentsResponse.serialize (response : AssignmentsResponse) : Json :=
  .obj [("assignments", vec AssignmentDto.serialize response.assignments)]

/-- The handler of `GET /agents/{id}/assignments`: the queue of the agent is drained. -/
def list (handle : AssignmentHandle) (agentId : UInt64) : AssignmentHandle × AssignmentsResponse :=
  let (handle, assignments) := handle.drain agentId
  (handle, ⟨assignments.map .ofAssignment⟩)

end Assignments

end Monitra
