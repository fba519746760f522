import Monitra.Backend.Auth

/-!
# The push endpoint (`crates/backend/src/ingest.rs`)

`POST /agents/{id}/ingest`, behind `requireAgentToken`. One request carries the results of a cycle of the agent. The handler
records a heartbeat of the agent and submits each result whose monitor is the agent's; the others are dropped with a warning.

The id of a result is a `MonitorId`: what the agent sends is its number.
-/

namespace Monitra

/-- A probe outcome on the wire. -/
inductive PushedOutcomeDto where
  | success (latencyMs : UInt64)
  | failure (message : String)
  | unavailable (message : String)
  deriving DecidableEq, Repr

def PushedOutcomeDto.into : PushedOutcomeDto → ProbeOutcome
  | .success latencyMs => .success latencyMs
  | .failure message => .failure message
  | .unavailable message => .unavailable message

structure PushedResultDto where
  monitorId : MonitorId
  outcome : PushedOutcomeDto
  deriving DecidableEq, Repr

structure IngestRequest where
  results : List PushedResultDto
  deriving DecidableEq, Repr

/-- The result as it is submitted. -/
def PushedResultDto.into (result : PushedResultDto) : PushedResult := ⟨result.monitorId, result.outcome.into⟩

namespace Ingest

/-- What the handler does with one result: submits it, or drops it. -/
def submission (store : Db) (agentId : UInt64) (result : PushedResultDto) : Option PushedResult :=
  match Service.provider (store.getMonitor result.monitorId.val) with
  | .ok (some monitor) => if monitor.agentId = some agentId then some result.into else none
  | .ok none => none
  | .error _ => none

/-- What a request came to: the answer, the state it left, and the results that were submitted, in order. -/
structure Reply (ε : Type) where
  answer : ε
  state : AppState
  submitted : List PushedResult

/-- The handler. Submitting waits for nothing and changes nothing that the handler reads. -/
def push (state : AppState) (agentId nowUnixSecs : UInt64) (body : IngestRequest) : Reply (Except ApiError StatusCode) :=
  match Service.provider (state.store.heartbeatAgent agentId nowUnixSecs) with
  | .error e => ⟨.error (.ofProviderError e), state, []⟩
  | .ok store =>
    let submitted := body.results.filterMap (submission store agentId)
    ⟨.ok .accepted, { state with store, ingest := submitted.foldl IngestHandle.submit state.ingest }, submitted⟩

/-- The route: the check of the agent's token, and behind it the handler. -/
def route {V : Type} (toStr : V → Option String) (state : AppState) (agentId nowUnixSecs : UInt64) (request : Request V)
    (body : IngestRequest) : Reply Response :=
  match requireAgentToken toStr state agentId request fun _ => push state agentId nowUnixSecs body with
  | .error code => ⟨code.intoResponse, state, []⟩
  | .ok ⟨.error e, state, submitted⟩ => ⟨e.intoResponse, state, submitted⟩
  | .ok ⟨.ok code, state, submitted⟩ => ⟨code.intoResponse, state, submitted⟩

end Ingest

end Monitra
