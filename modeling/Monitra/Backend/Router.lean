import Monitra.Wire
import Monitra.Provider.Cache
import Monitra.Provider.Policy
import Monitra.Backend.Agents

/-!
# The router (`crates/backend/src/lib.rs`, `health.rs`, `assets.rs`)

A request comes to the endpoint whose path it has, passes the guard that is layered over the endpoint, and is answered by the
handler of its method; without an endpoint it is answered from the embedded assets. The whole of it is `serve`, from the shared
state and a request to the state left and the response.

What the `axum` crate does is in `Axum`, and what its extractors make of the body of a request is in the request. What a handler
asks of its surroundings, the time, the randomness and whether the store fails it, is an `Env`.
-/

namespace Monitra

/-! ## The state -/

/-- The shared state of the handlers. -/
structure ApiState extends AppState where
  version : String
  assignments : AssignmentHandle
  notifier : RetryingNotifier
  cache : DegradingCache
  k8sClusters : List String
  retentionSecs : UInt64

def DegradingCache.isDegraded (c : DegradingCache) : Bool := c.degraded

/-- The name of the cache in effect: the configured one's, unless it has been given up. -/
def DegradingCache.activeName (c : DegradingCache) : String :=
  if c.degraded then "in-process" else c.configured.getD "in-process"

def RetryingNotifier.queueLen (n : RetryingNotifier) : Nat := n.queue.length

/-! ## Health -/

structure StoreHealth where
  name : String
  reachable : Bool
  deriving DecidableEq, Repr

structure CacheHealth where
  name : String
  degraded : Bool
  deriving DecidableEq, Repr

structure NotifierHealth where
  name : String
  queueLen : Nat
  deriving DecidableEq, Repr

structure HealthResponse where
  status : String
  version : String
  store : StoreHealth
  cache : CacheHealth
  notifier : NotifierHealth
  k8sClusters : List String
  quarantinedMonitors : Nat
  deriving DecidableEq, Repr

/-- A store that does not answer is reported, and is no error. -/
def health (state : ApiState) (healthCheck : Except ProviderError Unit) : HealthResponse :=
  let reachable := healthCheck.isOk
  let quarantinedMonitors := state.assignments.quarantinedCount
  { status := if reachable ∧ quarantinedMonitors = 0 then "ok" else "degraded"
    version := state.version
    store := ⟨"sqlite", reachable⟩
    cache := ⟨state.cache.activeName, state.cache.isDegraded⟩
    notifier := ⟨state.notifier.innerName, state.notifier.queueLen⟩
    k8sClusters := state.k8sClusters
    quarantinedMonitors }

/-! ## Requests and responses -/

inductive Method where
  | get | head | post | patch | delete | other
  deriving DecidableEq, Repr

/-- What the extractor `Json` makes of the body, for each type that a handler asks it for: the value, or the status that it rejects
the request with. -/
structure Extracted where
  createMonitor : Except Nat CreateMonitorRequest
  editMonitor : Except Nat EditMonitorRequest
  registerAgent : Except Nat RegisterAgentRequest
  ingest : Except Nat IngestRequest

/-- A request. `upgrade` is the status that `WebSocketUpgrade` rejects it with, if it does. -/
structure ApiRequest (V : Type) where
  method : Method
  path : String
  query : List (String × String)
  headers : Request V
  json : Extracted
  upgrade : Option Nat

/-- The body of a response. Of what axum answers by itself it is left open. -/
inductive Body where
  | empty
  | rejection
  | text (message : String)
  | error (message : String)
  | health (response : HealthResponse)
  | monitor (dto : MonitorDto)
  | monitors (dtos : List MonitorDto)
  | history (dtos : List CheckResultDto)
  | registered (response : RegisterAgentResponse)
  | agents (dtos : List AgentDto)
  | alerts (dtos : List AlertEventDto)
  | regions (aggregates : List Service.RegionAggregate)
  | assignments (response : Assignments.AssignmentsResponse)
  | asset (path : String) (data : List UInt8)
  deriving DecidableEq

structure ApiResponse where
  status : Nat
  body : Body
  deriving DecidableEq

def ApiResponse.ofResponse (response : Response) : ApiResponse := ⟨response.status, response.error.elim .empty .error⟩

def ApiResponse.ofApiError (e : ApiError) : ApiResponse := .ofResponse e.intoResponse

/-- A rejection by an extractor. -/
def ApiResponse.rejected (status : Nat) : ApiResponse := ⟨status, .rejection⟩

/-- What `axum` does: reading a header, decoding a segment of a path, and whether a layer of a route also stands before the answer
to a method that the route does not have. -/
structure Axum (V : Type) where
  toStr : V → Option String
  decode : String → Option String
  layersMethods : Bool

structure Env where
  nowUnixSecs : UInt64
  pick : List Int64 → Int64
  randomBytes : Vector UInt8 32
  healthCheck : Except ProviderError Unit
  /-- Whether the store fails the look-up of an agent by the guard. -/
  guardFault : Bool
  /-- What the store fails the handler's call with. -/
  fault : Option ProviderError

/-! ## Endpoints -/

inductive Segment where
  | lit (text : String)
  | id
  deriving DecidableEq, Repr

/-- Whether a path has a pattern, and its parameter if it does (or no text when the pattern has none). -/
def matchPattern : List Segment → List String → Option String
  | [], [] => some ""
  | .lit text :: pattern, segment :: path => if text = segment then matchPattern pattern path else none
  | .id :: pattern, segment :: path =>
    if segment.isEmpty then none else (matchPattern pattern path).map fun _ => segment
  | _, _ => none

inductive Guard where
  | none | token | tokenWs | agentToken
  deriving DecidableEq, Repr

inductive Handler where
  | healthCheck
  | createMonitor | listMonitors | showMonitor | editMonitor | removeMonitor | pauseMonitor | resumeMonitor
  | monitorHistory
  | registerAgent | listAgents | removeAgent
  | listAlerts | listRegions
  | upgrade
  | push | listAssignments
  deriving DecidableEq, Repr

inductive Endpoint where
  | health | monitors | monitor | pause | resume | history | agents | agent | alerts | regions | ws | ingest | assignments
  deriving DecidableEq, Repr

namespace Endpoint

/-- The endpoints, as the router is built from them. -/
def all : List Endpoint :=
  [.health, .monitors, .monitor, .pause, .resume, .history, .agents, .agent, .alerts, .regions, .ws, .ingest, .assignments]

def pattern : Endpoint → List Segment
  | .health => [.lit "health"]
  | .monitors => [.lit "monitors"]
  | .monitor => [.lit "monitors", .id]
  | .pause => [.lit "monitors", .id, .lit "pause"]
  | .resume => [.lit "monitors", .id, .lit "resume"]
  | .history => [.lit "monitors", .id, .lit "history"]
  | .agents => [.lit "agents"]
  | .agent => [.lit "agents", .id]
  | .alerts => [.lit "alerts"]
  | .regions => [.lit "regions"]
  | .ws => [.lit "ws"]
  | .ingest => [.lit "agents", .id, .lit "ingest"]
  | .assignments => [.lit "agents", .id, .lit "assignments"]

def guard : Endpoint → Guard
  | .health => .none
  | .monitors | .monitor | .pause | .resume | .history | .agents | .agent | .alerts | .regions => .token
  | .ws => .tokenWs
  | .ingest | .assignments => .agentToken

/-- The handler of a method. What `get` is given for is served to `HEAD` as well. -/
def handler : Endpoint → Method → Option Handler
  | .health, .get | .health, .head => some .healthCheck
  | .monitors, .post => some .createMonitor
  | .monitors, .get | .monitors, .head => some .listMonitors
  | .monitor, .get | .monitor, .head => some .showMonitor
  | .monitor, .patch => some .editMonitor
  | .monitor, .delete => some .removeMonitor
  | .pause, .post => some .pauseMonitor
  | .resume, .post => some .resumeMonitor
  | .history, .get | .history, .head => some .monitorHistory
  | .agents, .post => some .registerAgent
  | .agents, .get | .agents, .head => some .listAgents
  | .agent, .delete => some .removeAgent
  | .alerts, .get | .alerts, .head => some .listAlerts
  | .regions, .get | .regions, .head => some .listRegions
  | .ws, .get | .ws, .head => some .upgrade
  | .ingest, .post => some .push
  | .assignments, .get | .assignments, .head => some .listAssignments
  | _, _ => none

/-- The endpoint of a path, and the parameter in the path. -/
def find (path : String) : Option (Endpoint × String) :=
  all.findSome? fun endpoint => (matchPattern endpoint.pattern (Str.split '/' path).tail).map fun param => (endpoint, param)

end Endpoint

/-! ## Extractors and guards -/

/-- `Path<u64>` -/
def Axum.pathId {V : Type} (axum : Axum V) (param : String) : Except ApiResponse UInt64 :=
  match (axum.decode param).bind fun text => (Str.parseU64 text).toOption with
  | some id => .ok id
  | none => .error (.rejected 400)

/-- `Query`, of the one field `since`. -/
def querySince (query : List (String × String)) : Except ApiResponse (Option UInt64) :=
  match query.filter fun field => field.1 = "since" with
  | [] => .ok none
  | [(_, text)] =>
    match Str.parseU64 text with
    | .ok since => .ok (some since)
    | .error _ => .error (.rejected 400)
  | _ => .error (.rejected 400)

section

variable {V : Type} (axum : Axum V) (env : Env) (state : ApiState) (request : ApiRequest V) (param : String)

/-- The guard of an endpoint lets a request pass, or answers it. -/
def Guard.check : Guard → Except ApiResponse Unit
  | .none => .ok ()
  | .token =>
    (requireToken axum.toStr state.toAppState request.headers fun _ => ()).mapError fun code => .ofResponse code.intoResponse
  | .tokenWs =>
    (requireTokenWs axum.toStr state.toAppState request.headers fun _ => ()).mapError fun code => .ofResponse code.intoResponse
  | .agentToken => do
    let id ← axum.pathId param
    if env.guardFault then throw (.ofResponse StatusCode.unauthorized.intoResponse)
    (requireAgentToken axum.toStr state.toAppState id request.headers fun _ => ()).mapError fun code =>
      .ofResponse code.intoResponse

/-! ## Handlers -/

/-- A handler that only reads. -/
def reading {α : Type} (body : α → Body) (r : Except ApiError α) : Except ApiResponse (ApiState × ApiResponse) :=
  match r with
  | .ok answer => .ok (state, ⟨200, body answer⟩)
  | .error e => .error (.ofApiError e)

/-- A handler that creates an entity. -/
def creating {α : Type} (body : α → Body) (r : Except ApiError (Db × α)) : Except ApiResponse (ApiState × ApiResponse) :=
  match r with
  | .ok (store, answer) => .ok ({ state with store }, ⟨201, body answer⟩)
  | .error e => .error (.ofApiError e)

/-- A handler that changes an entity, or removes it. -/
def changing (r : Except ApiError Db) : Except ApiResponse (ApiState × ApiResponse) :=
  match r with
  | .ok store => .ok ({ state with store }, ⟨204, .empty⟩)
  | .error e => .error (.ofApiError e)

/-- A query that the store may fail. -/
def queried {α : Type} (r : Except ApiError α) : Except ApiError α :=
  match env.fault with
  | some e => .error (.ofProviderError e)
  | none => r

/-- A handler with its extractors: what it leaves and answers, or the response to a request that it does not carry out. -/
def Handler.run : Handler → Except ApiResponse (ApiState × ApiResponse)
  | .healthCheck => .ok (state, ⟨200, .health (health state env.healthCheck)⟩)
  | .createMonitor => do
    let body ← request.json.createMonitor.mapError .rejected
    creating state .monitor (Monitors.create state.store env.fault env.pick body)
  | .listMonitors => reading state .monitors (Monitors.list state.store env.fault)
  | .showMonitor => do
    let id ← axum.pathId param
    reading state .monitor (Monitors.showMonitor state.store env.fault id)
  | .editMonitor => do
    let id ← axum.pathId param
    let body ← request.json.editMonitor.mapError .rejected
    changing state (Monitors.edit state.store env.fault id body)
  | .removeMonitor => do
    let id ← axum.pathId param
    changing state (Monitors.remove state.store env.fault id)
  | .pauseMonitor => do
    let id ← axum.pathId param
    changing state (Monitors.pause state.store env.fault id)
  | .resumeMonitor => do
    let id ← axum.pathId param
    changing state (Monitors.resume state.store env.fault id)
  | .monitorHistory => do
    let id ← axum.pathId param
    let since ← querySince request.query
    reading state .history (queried env (history state.store state.retentionSecs env.nowUnixSecs id since))
  | .registerAgent => do
    let body ← request.json.registerAgent.mapError .rejected
    creating state .registered
      (Registration.register state.store env.fault env.nowUnixSecs env.randomBytes env.pick body)
  | .listAgents => reading state .agents (Registration.list state.store env.fault)
  | .removeAgent => do
    let id ← axum.pathId param
    changing state (Registration.remove state.store env.fault id)
  | .listAlerts => reading state .alerts (Alerts.list state.store env.fault)
  | .listRegions => do
    let since ← querySince request.query
    reading state .regions (queried env (regions state.store state.retentionSecs env.nowUnixSecs since))
  | .upgrade =>
    match request.upgrade with
    | some status => .error (.rejected status)
    | none => .ok (state, ⟨101, .empty⟩)
  | .push => do
    let id ← axum.pathId param
    let body ← request.json.ingest.mapError .rejected
    match env.fault with
    | some e => .error (.ofApiError (.ofProviderError e))
    | none =>
      match Ingest.push state.toAppState id env.nowUnixSecs body with
      | ⟨.ok code, app, _⟩ => .ok ({ state with toAppState := app }, ⟨code.asU16, .empty⟩)
      | ⟨.error e, _, _⟩ => .error (.ofApiError e)
  | .listAssignments => do
    let id ← axum.pathId param
    let (assignments, response) := Assignments.list state.assignments id
    return ({ state with assignments }, ⟨200, .assignments response⟩)

/-- A file of the dashboard, or its page, which is served for every path that no endpoint and no file has. -/
def fallback (assets : String → Option (List UInt8)) (path : String) : ApiResponse :=
  let path := String.ofList (path.toList.dropWhile (· = '/'))
  match if path.isEmpty then none else assets path with
  | some data => ⟨200, .asset path data⟩
  | none =>
    match assets "index.html" with
    | some data => ⟨200, .asset "index.html" data⟩
    | none =>
      ⟨404, .text ("monitra-backend: web dashboard assets are not embedded — did the frontend build run? " ++
        "(`web/dist` was empty at compile time)")⟩

/-- The answer to a method that an endpoint does not have. -/
def methodNotAllowed : ApiResponse := ⟨405, .empty⟩

/-- The answer of an endpoint. -/
def Endpoint.answer (endpoint : Endpoint) : ApiState × ApiResponse :=
  match endpoint.handler request.method with
  | some handler =>
    match endpoint.guard.check axum env state request param with
    | .error response => (state, response)
    | .ok () =>
      match handler.run axum env state request param with
      | .ok answer => answer
      | .error response => (state, response)
  | none =>
    match if axum.layersMethods then endpoint.guard.check axum env state request param else .ok () with
    | .error response => (state, response)
    | .ok () => (state, methodNotAllowed)

/-- A response as it goes out: without its body when the request is for the head only. -/
def ApiResponse.to (response : ApiResponse) : ApiResponse :=
  if request.method = .head then { response with body := .empty } else response

/-- The router. -/
def serve (assets : String → Option (List UInt8)) : ApiState × ApiResponse :=
  let (state, response) :=
    match Endpoint.find request.path with
    | some (endpoint, param) => endpoint.answer axum env state request param
    | none => (state, fallback assets request.path)
  (state, response.to request)

end

/-! ## A history of requests -/

/-- A request that was answered: the state that it met, and the response. -/
structure Exchange (V : Type) where
  state : ApiState
  env : Env
  request : ApiRequest V
  response : ApiResponse

inductive ApiAction (V : Type) where
  | request (env : Env) (request : ApiRequest V)
  /-- The rest of the daemon changes the state that it shares with the handlers. -/
  | daemon (state : ApiState)

/-- Requests, by any clients and in any order, and between them what the rest of the daemon does. The token is for as long as the
daemon runs. -/
def ApiState.step {V : Type} (axum : Axum V) (assets : String → Option (List UInt8)) (state : ApiState) :
    ApiAction V → Option (ApiState × List (Exchange V))
  | .request env request =>
    let (state', response) := serve axum env state request assets
    some (state', [⟨state, env, request, response⟩])
  | .daemon state' => if state'.token = state.token then some (state', []) else none

end Monitra
