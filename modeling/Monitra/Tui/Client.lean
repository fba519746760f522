import Monitra.Backend.Answers

/-!
# The client of the terminal dashboard (`crates/tui/src/client.rs`, `fetch_snapshot` in `data.rs`)

The client has types of its own for what the daemon answers. It is run here against the router: a request that arrives is answered
by `serve`, in the state that the daemon has then; one that does not arrive fails with the text of the `reqwest` crate's error.

A request is for a URL, which is the text of the base URL with a path behind it. What path of the daemon's that is depends on the base
URL too: `http://host/` with `/monitors` behind it is a URL for `//monitors`.
-/

namespace Monitra

open Serde

namespace Tui

/-! ## What is read -/

structure MonitorDto where
  id : UInt64
  name : String
  target : String
  kind : MonitorKind
  intervalSecs : UInt64
  status : MonitorStatus
  statusReason : Option String
  agentId : Option UInt64
  deriving DecidableEq, Repr

def MonitorDto.deserialize (value : Json) : Except Serde.Error MonitorDto := do
  let fields ← readFields value
  return {
    id := ← readField readU64 "id" fields
    name := ← readField readStr "name" fields
    target := ← readField readStr "target" fields
    kind := ← readField MonitorKind.deserialize "kind" fields
    intervalSecs := ← readField readU64 "interval_secs" fields
    status := ← readField MonitorStatus.deserialize "status" fields
    statusReason := ← readFieldOption readStr "status_reason" fields
    agentId := ← readFieldOption readU64 "agent_id" fields }

/-- `From<MonitorDto> for Monitor`. The wire has no origin. -/
def MonitorDto.into (dto : MonitorDto) : Monitor where
  id := ⟨dto.id, 0⟩
  name := dto.name
  target := dto.target
  kind := dto.kind
  intervalSecs := dto.intervalSecs
  status := dto.status
  agentId := dto.agentId

structure AgentDto where
  id : UInt64
  name : String
  lastHeartbeatAt : UInt64
  scope : String
  deriving DecidableEq, Repr

def AgentDto.deserialize (value : Json) : Except Serde.Error AgentDto := do
  let fields ← readFields value
  return {
    id := ← readField readU64 "id" fields
    name := ← readField readStr "name" fields
    lastHeartbeatAt := ← readField readU64 "last_heartbeat_at" fields
    scope := ← readField readStr "scope" fields }

/-- `From<AgentDto> for Agent`. The token is never sent, and the region is not read. -/
def AgentDto.into (dto : AgentDto) : Agent where
  id := dto.id
  name := dto.name
  lastHeartbeatAt := dto.lastHeartbeatAt
  scope := dto.scope
  token := ""
  region := none

/-- `AlertEventDto`, which has the fields of the answer. -/
def AlertEventDto.deserialize (value : Json) : Except Serde.Error AlertEventDto := do
  let fields ← readFields value
  return {
    id := ← readField readU64 "id" fields
    monitorId := ← readField readU64 "monitor_id" fields
    transitionedTo := ← readField MonitorStatus.deserialize "transitioned_to" fields
    occurredAt := ← readField readU64 "occurred_at" fields
    sinksAttempted := ← readField readStr "sinks_attempted" fields
    deliveryOutcome := ← readField readStr "delivery_outcome" fields }

/-- `CheckResultDto`, which has the fields of the answer. -/
def CheckResultDto.deserialize (value : Json) : Except Serde.Error CheckResultDto := do
  let fields ← readFields value
  return {
    checkedAt := ← readField readU64 "checked_at" fields
    success := ← readField readBool "success" fields
    latencyMs := ← readField readU64 "latency_ms" fields
    message := ← readFieldOption readStr "message" fields }

/-- `StoreHealth`, `CacheHealth` and `NotifierHealth` have the fields of the answer. -/
structure HealthResponse where
  status : String
  version : String
  store : StoreHealth
  cache : CacheHealth
  notifier : NotifierHealth
  k8sClusters : List String
  deriving DecidableEq, Repr

def StoreHealth.deserialize (value : Json) : Except Serde.Error StoreHealth := do
  let fields ← readFields value
  return { name := ← readField readStr "name" fields, reachable := ← readField readBool "reachable" fields }

def CacheHealth.deserialize (value : Json) : Except Serde.Error CacheHealth := do
  let fields ← readFields value
  return { name := ← readField readStr "name" fields, degraded := ← readField readBool "degraded" fields }

def NotifierHealth.deserialize (value : Json) : Except Serde.Error NotifierHealth := do
  let fields ← readFields value
  return { name := ← readField readStr "name" fields, queueLen := ← readField readUsize "queue_len" fields }

def HealthResponse.deserialize (value : Json) : Except Serde.Error HealthResponse := do
  let fields ← readFields value
  return {
    status := ← readField readStr "status" fields
    version := ← readField readStr "version" fields
    store := ← readField StoreHealth.deserialize "store" fields
    cache := ← readField CacheHealth.deserialize "cache" fields
    notifier := ← readField NotifierHealth.deserialize "notifier" fields
    k8sClusters := ← readField (readVec readStr) "k8s_clusters" fields }

/-! ## The client -/

inductive ClientError where
  | request (url source : String)
  | status (url : String) (code : Nat)
  | decode (url : String)
  deriving DecidableEq, Repr

/-- `display` is that of the `http` crate's `StatusCode`. -/
def ClientError.text (display : Nat → String) : ClientError → String
  | .request url source => "tui: request to " ++ url ++ " failed: " ++ source
  | .status url code => "tui: " ++ url ++ " returned " ++ display code
  | .decode url => "tui: failed to decode response from " ++ url ++ ": error decoding response body"

structure Client where
  baseUrl : String
  token : String
  deriving DecidableEq, Repr

/-- The way to the daemon. -/
structure Network where
  axum : Axum (List UInt8)
  assets : String → Option (List UInt8)
  /-- The path and the query that the `url` crate, or for a handshake the `http` crate, reads from a URL. -/
  target : String → String × List (String × String)
  /-- For the request of a URL the state of the daemon that it meets and what its handler is given, or why it does not arrive. -/
  arrive : String → Except String (ApiState × Env)

namespace Client

/-- A request for a URL, without a body. -/
def getRequest (client : Client) (net : Network) (url : String) : ApiRequest (List UInt8) where
  method := .get
  path := (net.target url).1
  query := (net.target url).2
  headers := ⟨[(.authorization, Str.asBytes ("Bearer " ++ client.token))]⟩
  json := ⟨.error 415, .error 415, .error 415, .error 415⟩
  upgrade := some 400

/-- The URL of the live feed, with the base URL's path if it has one. -/
def wsUrl (client : Client) : String :=
  Str.replaceOnce "http://" "ws://" (Str.replaceOnce "https://" "wss://" client.baseUrl) ++ "/ws"

/-- The handshake that `connect_async` sends for the URL of the live feed, with the headers of a handshake and no others. -/
def wsRequest (client : Client) (net : Network) : ApiRequest (List UInt8) where
  method := .get
  path := (net.target client.wsUrl).1
  query := (net.target client.wsUrl).2
  headers := ⟨[]⟩
  json := ⟨.error 415, .error 415, .error 415, .error 415⟩
  upgrade := none

/-- `connect_async`: there is a stream when the daemon switches protocols. -/
def connectAsync (client : Client) (net : Network) : Bool :=
  match net.arrive client.wsUrl with
  | .error _ => false
  | .ok (state, env) => (serve net.axum env state (client.wsRequest net) net.assets).2.status = 101

/-- What comes of a response. -/
def received {α : Type} (read : Json → Except Serde.Error α) (url : String) (response : ApiResponse) : Except ClientError α :=
  if ¬(200 ≤ response.status ∧ response.status < 300) then .error (.status url response.status)
  else
    match response.body.json.map read with
    | some (.ok value) => .ok value
    | _ => .error (.decode url)

section

variable (client : Client) (net : Network)

/-- What is asked for is the path that the URL has, which is not the one appended if the base URL has a path of its own. -/
def get {α : Type} (read : Json → Except Serde.Error α) (path : String) : Except ClientError α :=
  let url := client.baseUrl ++ path
  match net.arrive url with
  | .error source => .error (.request url source)
  | .ok (state, env) => received read url (serve net.axum env state (client.getRequest net url) net.assets).2

def listMonitors : Except ClientError (List MonitorDto) := client.get net (readVec MonitorDto.deserialize) "/monitors"

def listAgents : Except ClientError (List AgentDto) := client.get net (readVec AgentDto.deserialize) "/agents"

def listAlerts : Except ClientError (List AlertEventDto) := client.get net (readVec AlertEventDto.deserialize) "/alerts"

def monitorHistory (id : UInt64) : Except ClientError (List CheckResultDto) :=
  client.get net (readVec CheckResultDto.deserialize) ("/monitors/" ++ toString id ++ "/history")

def health : Except ClientError HealthResponse := client.get net HealthResponse.deserialize "/health"

end

end Client

/-! ## Snapshots -/

structure DashboardSnapshot where
  monitors : List Monitor
  agents : List Agent
  alerts : List AlertEventDto
  health : Option HealthResponse
  selectedHistory : Option (UInt64 × List CheckResultDto)
  lastError : Option String
  deriving DecidableEq, Repr

/-- What is noted of a request that failed; of several the last one stays. -/
def noteError {α : Type} (display : Nat → String) (lastError : Option String) (context : String) (r : Except ClientError α) :
    Option String :=
  match r with
  | .ok _ => lastError
  | .error e => some (context ++ ": " ++ e.text display)

/-- What cannot be fetched is empty, and the error is shown. -/
def fetchSnapshot (client : Client) (net : Network) (display : Nat → String) (selected : Option UInt64) : DashboardSnapshot :=
  let monitors := client.listMonitors net
  let agents := client.listAgents net
  let alerts := client.listAlerts net
  let health := client.health net
  let lastError := noteError display none "monitors" monitors
  let lastError := noteError display lastError "agents" agents
  let lastError := noteError display lastError "alerts" alerts
  let lastError := noteError display lastError "health" health
  let (selectedHistory, lastError) :=
    match selected with
    | some id =>
      match client.monitorHistory net id with
      | .ok history => (some (id, history), lastError)
      | .error error => (none, noteError display lastError "history" (.error error : Except ClientError Unit))
    | none => (none, lastError)
  { monitors := (monitors.toOption.getD []).map MonitorDto.into
    agents := (agents.toOption.getD []).map AgentDto.into
    alerts := alerts.toOption.getD []
    health := health.toOption
    selectedHistory
    lastError }

end Tui

end Monitra
