import Monitra.Library.Runs
import Monitra.Lemmas.Router

/-!
# Requests without a credential

What the daemon shows to a client that has no credential is computed here without its state, `stranger`: from the request, the
files of the dashboard, and what `/health` reports. Whatever such clients send between the requests of others, and whatever the
store holds, is the same to everybody else as if they had sent nothing.
-/

namespace Monitra

open Runs

variable {V : Type}

/-- Whether a request presents the credential that the endpoint of its path asks for. No credential is asked for by `/health`, or
for the dashboard. -/
def authorized (axum : Axum V) (state : ApiState) (request : ApiRequest V) : Bool :=
  match Endpoint.find request.path with
  | none => false
  | some (endpoint, param) =>
    match endpoint.guard with
    | .none => false
    | .token => bearerToken axum.toStr request.headers = some state.token
    | .tokenWs =>
      ((bearerToken axum.toStr request.headers).orElse fun _ => wsProtocolToken axum.toStr request.headers) = some state.token
    | .agentToken =>
      match axum.pathId param with
      | .error _ => false
      | .ok id => (state.store.agents.get? id.toInt64).any fun row => bearerToken axum.toStr request.headers = some row.token

/-- How a guard answers a request that it does not let pass. -/
def Guard.refusal (axum : Axum V) (param : String) (guard : Guard) : ApiResponse :=
  let unauthorized := .ofResponse StatusCode.unauthorized.intoResponse
  match guard with
  | .agentToken =>
    match axum.pathId param with
    | .error response => response
    | .ok _ => unauthorized
  | _ => unauthorized

/-- The answer to a client without a credential. -/
def stranger (axum : Axum V) (assets : String → Option (List UInt8)) (health : HealthResponse) (request : ApiRequest V) :
    ApiResponse :=
  let response :=
    match Endpoint.find request.path with
    | none => fallback assets request.path
    | some (endpoint, param) =>
      if (endpoint.handler request.method).isNone ∧ (endpoint.guard = Guard.none ∨ ¬axum.layersMethods) then methodNotAllowed
      else if endpoint.guard = Guard.none then ⟨200, .health health⟩
      else endpoint.guard.refusal axum param
  response.to request

/-- What `/health` reported when a request was answered. -/
def Exchange.health (x : Exchange V) : HealthResponse := Monitra.health x.state x.env.healthCheck

def Exchange.authorized (axum : Axum V) (x : Exchange V) : Bool := Monitra.authorized axum x.state x.request

namespace StrangersAux

variable {axum : Axum V} {env : Env} {state : ApiState} {request : ApiRequest V} {assets : String → Option (List UInt8)}

/-- A comparison that the presented token does not pass. -/
theorem requireToken_eq_error {next : Request V → Unit} {app : AppState} {headers : Request V}
    (h : bearerToken axum.toStr headers ≠ some app.token) :
    requireToken axum.toStr app headers next = .error .unauthorized := by
  unfold requireToken
  split
  · rename_i token ht
    rw [if_neg (by simp only [constantTimeEq_iff, Str.asBytes_inj]; exact fun e => h (e ▸ ht))]
  · rfl

theorem requireTokenWs_eq_error {next : Request V → Unit} {app : AppState} {headers : Request V}
    (h : ((bearerToken axum.toStr headers).orElse fun _ => wsProtocolToken axum.toStr headers) ≠ some app.token) :
    requireTokenWs axum.toStr app headers next = .error .unauthorized := by
  unfold requireTokenWs
  split
  · rename_i token ht
    rw [if_neg (by simp only [constantTimeEq_iff, Str.asBytes_inj]; exact fun e => h (e ▸ ht))]
  · rfl

theorem requireAgentToken_eq_unauthorized {next : Request V → Unit} {app : AppState} {headers : Request V} {id : UInt64}
    (h : (app.store.agents.get? id.toInt64).any (fun row => decide (bearerToken axum.toStr headers = some row.token)) = false) :
    requireAgentToken axum.toStr app id headers next = .error .unauthorized := by
  cases hr : requireAgentToken axum.toStr app id headers next with
  | error code => rw [requireAgentToken_eq_error hr]
  | ok x =>
    obtain ⟨⟨row, hrow, ht⟩, -⟩ := requireAgentToken_eq_ok.mp hr
    simp [hrow, ht] at h

/-- A guard refuses a request that does not present its credential, always with the same answer. -/
theorem check_of_not_authorized {endpoint : Endpoint} {param : String} (hf : Endpoint.find request.path = some (endpoint, param))
    (h : authorized axum state request = false) (hg : endpoint.guard ≠ Guard.none) :
    endpoint.guard.check axum env state request param = .error (endpoint.guard.refusal axum param) := by
  unfold authorized at h
  simp only [hf] at h
  cases hguard : endpoint.guard with
  | none => exact absurd hguard hg
  | token =>
    simp only [hguard, decide_eq_false_iff_not] at h
    simp only [Guard.check, Guard.refusal]
    rw [requireToken_eq_error h]
    rfl
  | tokenWs =>
    simp only [hguard, decide_eq_false_iff_not] at h
    simp only [Guard.check, Guard.refusal]
    rw [requireTokenWs_eq_error h]
    rfl
  | agentToken =>
    simp only [hguard] at h
    simp only [Guard.check, Guard.refusal]
    cases hid : axum.pathId param with
    | error response => rfl
    | ok id =>
      simp only [hid] at h
      simp only [bind, Except.bind]
      split
      · rfl
      · rw [requireAgentToken_eq_unauthorized h]
        rfl

/-- Only `/health` is not guarded, and it has one handler. -/
theorem handler_of_guard_none {endpoint : Endpoint} {method : Method} {handler : Handler} (hg : endpoint.guard = Guard.none)
    (hh : endpoint.handler method = some handler) : handler = .healthCheck := by
  cases endpoint <;> cases hg
  cases method <;> cases hh <;> rfl

/-- A request without a credential changes nothing, and is answered as a stranger is. -/
theorem serve_of_not_authorized (h : authorized axum state request = false) :
    serve axum env state request assets = (state, stranger axum assets (health state env.healthCheck) request) := by
  unfold serve stranger
  cases hf : Endpoint.find request.path with
  | none => rfl
  | some x =>
    obtain ⟨endpoint, param⟩ := x
    simp only [Endpoint.answer]
    by_cases hg : endpoint.guard = Guard.none
    · cases hh : endpoint.handler request.method with
      | none => simp [hg, Guard.check]
      | some handler => simp [hg, Guard.check, handler_of_guard_none hg hh, Handler.run]
    · rw [check_of_not_authorized hf h hg]
      cases hh : endpoint.handler request.method with
      | none => cases hl : axum.layersMethods <;> simp [hg]
      | some handler => simp [hg]

end StrangersAux

open RouterAux StrangersAux

/-- Requests without a credential leave no trace, and learn nothing. In every run of the daemon, with requests of all sorts by any
clients and with anything that the rest of the daemon does in between, the requests that do not present the credential of their
endpoint can be left out: the others are answered as they were, and the state is the same in the end. And each of them was
answered with what can be told without the state, but for what `/health` reports. -/
theorem strangers_leave_no_trace {axum : Axum V} {assets : String → Option (List UInt8)}
    {ok : ApiState → ApiAction V → Prop} {s₀ s : ApiState} {log : List (Exchange V)}
    (h : Run (ApiState.step axum assets) ok s₀ s log) :
    Run (ApiState.step axum assets) ok s₀ s (log.filter (·.authorized axum)) ∧
      ∀ x ∈ log, x.authorized axum = false → x.response = stranger axum assets x.health x.request := by
  constructor
  · refine h.filter fun s s' ev a hs => ?_
    rcases step_cases hs with rfl | ⟨env, request, rfl, rfl⟩
    · exact Or.inl rfl
    · rw [List.filter_singleton]
      cases ha : Exchange.authorized axum ⟨s, env, request, (serve axum env s request assets).2⟩ with
      | true => exact Or.inl rfl
      | false =>
        right
        rw [serve_of_not_authorized ha]
        exact ⟨rfl, rfl⟩
  · refine h.invariant (I := fun _ log => ∀ x ∈ log, x.authorized axum = false → x.response = stranger axum assets x.health x.request)
      (by simp) fun s s' log ev a hI _ hs x hx hno => ?_
    rcases List.mem_append.mp hx with hx | hx
    · exact hI x hx hno
    · rcases step_cases hs with rfl | ⟨env, request, rfl, rfl⟩
      · cases hx
      · cases List.mem_singleton.mp hx
        simp only [serve_of_not_authorized hno, Exchange.health]

namespace ApiExample

def axum : Axum String := ⟨some, some, true⟩

def assets : String → Option (List UInt8) := fun _ => none

def env : Env := ⟨0, fun _ => 0, Vector.replicate 32 0, .ok (), false, none⟩

/-- A daemon that has just started. -/
def start : ApiState where
  toAppState := ⟨Db.empty, "secret", ⟨1, []⟩⟩
  version := "0"
  assignments := AssignmentHandle.new 1
  notifier := RetryingNotifier.new "webhook" 1
  cache := DegradingCache.new none
  k8sClusters := []
  retentionSecs := 0

/-- A request with the token, and with a monitor to create in its body. -/
def request (method : Method) (path : String) : ApiRequest String where
  method := method
  path := path
  query := []
  headers := ⟨[(.authorization, "Bearer secret")]⟩
  json := ⟨.ok ⟨"api", "http://api", .http, some (.num (.posInt 30)), none⟩, .error 415, .error 415, .error 415⟩
  upgrade := none

end ApiExample

open ApiExample in
theorem strangers_leave_no_trace_monitors :
    let x := after (ApiState.step axum assets) always start
      [.request env { request .get "/monitors" with headers := ⟨[]⟩ }, .request env (request .get "/monitors")]
    Run (ApiState.step axum assets) (fun s a => always s a = true) start x.1 (x.2.filter (·.authorized axum)) ∧
      ∀ y ∈ x.2, y.authorized axum = false → y.response = stranger axum assets y.health y.request := by
  intro x
  exact strangers_leave_no_trace (run_after rfl)

end Monitra
