import Monitra.Lemmas.Steps
import Monitra.Backend.Router

/-!
# What a request does

`Handler.Done` has, for each handler that carries a request out, what it did and what it answered. The proofs about the router read
the handlers through it: `serve_cases` says that a request either reaches such a handler, or changes nothing.
-/

namespace Monitra

open Results

/-- A response to a request that is not carried out: a rejection by an extractor, an error of a handler, or a credential that is
missing. -/
def ApiResponse.refuses (response : ApiResponse) : Prop :=
  response.body = .rejection ∨ (∃ message, response.body = .error message) ∨ response = ⟨401, .empty⟩

/-- The handlers that leave the state as it is. -/
def Handler.reads : Handler → Bool
  | .healthCheck | .listMonitors | .showMonitor | .monitorHistory | .listAgents | .listAlerts | .listRegions | .upgrade => true
  | _ => false

section

variable {V : Type}

/-- What a handler did with a request that it carried out, and what it answered. -/
inductive Handler.Done (axum : Axum V) (env : Env) (state : ApiState) (request : ApiRequest V) (param : String) :
    Handler → ApiState × ApiResponse → Prop where
  | answered {handler response} (hr : handler.reads = true) : Done axum env state request param handler (state, response)
  | created {body intervalSecs store monitor} (hb : request.json.createMonitor = .ok body)
      (hi : parseInterval body.intervalSecs = .ok intervalSecs)
      (h : Service.addMonitor state.store body.name body.target body.kind intervalSecs body.agentId env.pick =
        .ok (store, monitor)) :
      Done axum env state request param .createMonitor ({ state with store }, ⟨201, .monitor (.ofMonitor monitor)⟩)
  | edited {id body intervalSecs store} (hid : axum.pathId param = .ok id) (hb : request.json.editMonitor = .ok body)
      (hi : (body.intervalSecs.mapM fun value => parseInterval (some value)) = .ok intervalSecs)
      (h : Service.editMonitor state.store id body.name body.target intervalSecs body.agentId = .ok store) :
      Done axum env state request param .editMonitor ({ state with store }, ⟨204, .empty⟩)
  | removed {id store} (hid : axum.pathId param = .ok id) (h : Service.removeMonitor state.store id = .ok store) :
      Done axum env state request param .removeMonitor ({ state with store }, ⟨204, .empty⟩)
  | paused {id store} (hid : axum.pathId param = .ok id) (h : Service.pauseMonitor state.store id = .ok store) :
      Done axum env state request param .pauseMonitor ({ state with store }, ⟨204, .empty⟩)
  | resumed {id store} (hid : axum.pathId param = .ok id) (h : Service.resumeMonitor state.store id = .ok store) :
      Done axum env state request param .resumeMonitor ({ state with store }, ⟨204, .empty⟩)
  | registered {body store agent} (hb : request.json.registerAgent = .ok body)
      (h : Service.registerAgent state.store body.name body.scope body.region env.nowUnixSecs
        (generateApiToken env.randomBytes) env.pick = .ok (store, agent)) :
      Done axum env state request param .registerAgent ({ state with store }, ⟨201, .registered (.ofAgent agent)⟩)
  | deregistered {id store} (hid : axum.pathId param = .ok id) (h : Service.removeAgent state.store id = .ok store) :
      Done axum env state request param .removeAgent ({ state with store }, ⟨204, .empty⟩)
  | pushed {id body store} (hid : axum.pathId param = .ok id) (hb : request.json.ingest = .ok body)
      (h : Service.provider (state.store.heartbeatAgent id env.nowUnixSecs) = .ok store) :
      Done axum env state request param .push
        ({ state with
            store
            ingest := (body.results.filterMap (Ingest.submission store id)).foldl IngestHandle.submit state.ingest },
          ⟨202, .empty⟩)
  | pulled {id} (hid : axum.pathId param = .ok id) :
      Done axum env state request param .listAssignments
        ({ state with assignments := (Assignments.list state.assignments id).1 },
          ⟨200, .assignments (Assignments.list state.assignments id).2⟩)

/-- What the result of a query is answered with. -/
def ApiResponse.ofQuery {α : Type} (body : α → Body) : Except ApiError α → ApiResponse
  | .ok answer => ⟨200, body answer⟩
  | .error e => .ofApiError e

namespace RouterAux

variable {axum : Axum V} {env : Env} {state : ApiState} {request : ApiRequest V} {param : String}

/-- A call that succeeds met no fault. -/
theorem called_eq_ok {α : Type} {fault : Option ProviderError} {r : Except ProviderError α} {x : α}
    (h : Service.called fault r = .ok x) : r = .ok x := by
  unfold Service.called at h
  split at h
  · cases h
  · exact mapError_eq_ok h

theorem reading_eq_ok {α : Type} {body : α → Body} {r : Except ApiError α} {x : ApiState × ApiResponse}
    (h : reading state body r = .ok x) : ∃ answer, r = .ok answer ∧ x = (state, ⟨200, body answer⟩) := by
  unfold reading at h
  split at h
  · cases h
    exact ⟨_, rfl, rfl⟩
  · cases h

theorem creating_eq_ok {α : Type} {body : α → Body} {r : Except ApiError (Db × α)} {x : ApiState × ApiResponse}
    (h : creating state body r = .ok x) : ∃ store answer, r = .ok (store, answer) ∧ x = ({ state with store }, ⟨201, body answer⟩) := by
  unfold creating at h
  split at h
  · cases h
    exact ⟨_, _, rfl, rfl⟩
  · cases h

theorem changing_eq_ok {r : Except ApiError Db} {x : ApiState × ApiResponse} (h : changing state r = .ok x) :
    ∃ store, r = .ok store ∧ x = ({ state with store }, ⟨204, .empty⟩) := by
  unfold changing at h
  split at h
  · cases h
    exact ⟨_, rfl, rfl⟩
  · cases h

/-- What a handler that carries a request out has done. -/
theorem done_of_run {handler : Handler} {x : ApiState × ApiResponse} (h : handler.run axum env state request param = .ok x) :
    handler.Done axum env state request param x := by
  cases handler with
  | healthCheck =>
    cases h
    exact .answered rfl
  | createMonitor =>
    obtain ⟨body, hb, h⟩ := bind_eq_ok h
    obtain ⟨store, dto, hr, rfl⟩ := creating_eq_ok h
    obtain ⟨intervalSecs, hi, hr⟩ := bind_eq_ok hr
    obtain ⟨⟨store', monitor⟩, hcall, he⟩ := bind_eq_ok hr
    cases he
    exact .created (mapError_eq_ok hb) hi (called_eq_ok hcall)
  | listMonitors | listAgents | listAlerts =>
    obtain ⟨answer, -, rfl⟩ := reading_eq_ok h
    exact .answered rfl
  | showMonitor | listRegions =>
    obtain ⟨y, -, h⟩ := bind_eq_ok h
    obtain ⟨answer, -, rfl⟩ := reading_eq_ok h
    exact .answered rfl
  | monitorHistory =>
    obtain ⟨id, -, h⟩ := bind_eq_ok h
    obtain ⟨since, -, h⟩ := bind_eq_ok h
    obtain ⟨answer, -, rfl⟩ := reading_eq_ok h
    exact .answered rfl
  | editMonitor =>
    obtain ⟨id, hid, h⟩ := bind_eq_ok h
    obtain ⟨body, hb, h⟩ := bind_eq_ok h
    obtain ⟨store, hr, rfl⟩ := changing_eq_ok h
    obtain ⟨intervalSecs, hi, hr⟩ := bind_eq_ok hr
    exact .edited hid (mapError_eq_ok hb) hi (called_eq_ok hr)
  | removeMonitor =>
    obtain ⟨id, hid, h⟩ := bind_eq_ok h
    obtain ⟨store, hr, rfl⟩ := changing_eq_ok h
    exact .removed hid (called_eq_ok hr)
  | pauseMonitor =>
    obtain ⟨id, hid, h⟩ := bind_eq_ok h
    obtain ⟨store, hr, rfl⟩ := changing_eq_ok h
    exact .paused hid (called_eq_ok hr)
  | resumeMonitor =>
    obtain ⟨id, hid, h⟩ := bind_eq_ok h
    obtain ⟨store, hr, rfl⟩ := changing_eq_ok h
    exact .resumed hid (called_eq_ok hr)
  | registerAgent =>
    obtain ⟨body, hb, h⟩ := bind_eq_ok h
    obtain ⟨store, response, hr, rfl⟩ := creating_eq_ok h
    obtain ⟨⟨store', agent⟩, hcall, he⟩ := bind_eq_ok hr
    cases he
    exact .registered (mapError_eq_ok hb) (called_eq_ok hcall)
  | removeAgent =>
    obtain ⟨id, hid, h⟩ := bind_eq_ok h
    obtain ⟨store, hr, rfl⟩ := changing_eq_ok h
    exact .deregistered hid (called_eq_ok hr)
  | upgrade =>
    simp only [Handler.run] at h
    split at h
    · cases h
    · cases h
      exact .answered rfl
  | push =>
    obtain ⟨id, hid, h⟩ := bind_eq_ok h
    obtain ⟨body, hb, h⟩ := bind_eq_ok h
    split at h
    · cases h
    · unfold Ingest.push at h
      cases hheard : Service.provider (state.store.heartbeatAgent id env.nowUnixSecs) with
      | error e =>
        rw [hheard] at h
        cases h
      | ok store =>
        rw [hheard] at h
        cases h
        exact .pushed hid (mapError_eq_ok hb) hheard
  | listAssignments =>
    obtain ⟨id, hid, h⟩ := bind_eq_ok h
    cases h
    exact .pulled hid

/-! ## Requests that are not carried out -/

theorem refuses_of_pathId {response : ApiResponse} (h : axum.pathId param = .error response) : response.refuses := by
  unfold Axum.pathId at h
  split at h
  · cases h
  · cases h
    exact Or.inl rfl

theorem refuses_of_querySince {query : List (String × String)} {response : ApiResponse}
    (h : querySince query = .error response) : response.refuses := by
  unfold querySince at h
  repeat' split at h
  all_goals cases h
  all_goals exact Or.inl rfl

theorem refuses_rejected {α : Type} {r : Except Nat α} {response : ApiResponse}
    (h : r.mapError ApiResponse.rejected = .error response) : response.refuses := by
  cases r with
  | error status =>
    cases h
    exact Or.inl rfl
  | ok x => cases h

theorem refuses_ofApiError (e : ApiError) : (ApiResponse.ofApiError e).refuses := by
  right
  left
  unfold ApiResponse.ofApiError ApiResponse.ofResponse
  cases e with
  | notFound => exact ⟨_, rfl⟩
  | validation message => exact ⟨_, rfl⟩
  | provider e => cases e <;> exact ⟨_, rfl⟩

theorem refuses_of_reading {α : Type} {body : α → Body} {r : Except ApiError α} {response : ApiResponse}
    (h : reading state body r = .error response) : response.refuses := by
  unfold reading at h
  split at h
  · cases h
  · cases h
    exact refuses_ofApiError _

theorem refuses_of_creating {α : Type} {body : α → Body} {r : Except ApiError (Db × α)} {response : ApiResponse}
    (h : creating state body r = .error response) : response.refuses := by
  unfold creating at h
  split at h
  · cases h
  · cases h
    exact refuses_ofApiError _

theorem refuses_of_changing {r : Except ApiError Db} {response : ApiResponse} (h : changing state r = .error response) :
    response.refuses := by
  unfold changing at h
  split at h
  · cases h
  · cases h
    exact refuses_ofApiError _

theorem refuses_of_compare {r : Except StatusCode Unit} {response : ApiResponse} (hr : ∀ code, r = .error code → code = .unauthorized)
    (h : (r.mapError fun code => ApiResponse.ofResponse code.intoResponse) = .error response) : response.refuses := by
  cases r with
  | error code =>
    cases h
    rw [hr code rfl]
    exact Or.inr (Or.inr rfl)
  | ok x => cases h

/-- A guard that does not let a request pass refuses it. -/
theorem refuses_of_check {guard : Guard} {response : ApiResponse}
    (h : guard.check axum env state request param = .error response) : response.refuses := by
  cases guard with
  | none => cases h
  | token =>
    refine refuses_of_compare (fun code hc => ?_) h
    unfold requireToken at hc
    repeat' split at hc
    all_goals cases hc
    all_goals rfl
  | tokenWs =>
    refine refuses_of_compare (fun code hc => ?_) h
    unfold requireTokenWs at hc
    repeat' split at hc
    all_goals cases hc
    all_goals rfl
  | agentToken =>
    rcases bind_eq_error h with h | ⟨id, -, h⟩
    · exact refuses_of_pathId h
    · dsimp only at h
      split at h
      · cases h
        exact Or.inr (Or.inr rfl)
      · exact refuses_of_compare (fun code hc => requireAgentToken_eq_error hc) h

/-- A handler that does not carry a request out refuses it. -/
theorem refuses_of_run {handler : Handler} {response : ApiResponse}
    (h : handler.run axum env state request param = .error response) : response.refuses := by
  cases handler with
  | healthCheck => cases h
  | createMonitor | registerAgent =>
    rcases bind_eq_error h with h | ⟨body, -, h⟩
    · exact refuses_rejected h
    · exact refuses_of_creating h
  | listMonitors | listAgents | listAlerts => exact refuses_of_reading h
  | showMonitor =>
    rcases bind_eq_error h with h | ⟨id, -, h⟩
    · exact refuses_of_pathId h
    · exact refuses_of_reading h
  | listRegions =>
    rcases bind_eq_error h with h | ⟨since, -, h⟩
    · exact refuses_of_querySince h
    · exact refuses_of_reading h
  | monitorHistory =>
    rcases bind_eq_error h with h | ⟨id, -, h⟩
    · exact refuses_of_pathId h
    · rcases bind_eq_error h with h | ⟨since, -, h⟩
      · exact refuses_of_querySince h
      · exact refuses_of_reading h
  | editMonitor =>
    rcases bind_eq_error h with h | ⟨id, -, h⟩
    · exact refuses_of_pathId h
    · rcases bind_eq_error h with h | ⟨body, -, h⟩
      · exact refuses_rejected h
      · exact refuses_of_changing h
  | removeMonitor | pauseMonitor | resumeMonitor | removeAgent =>
    rcases bind_eq_error h with h | ⟨id, -, h⟩
    · exact refuses_of_pathId h
    · exact refuses_of_changing h
  | upgrade =>
    simp only [Handler.run] at h
    split at h
    · cases h
      exact Or.inl rfl
    · cases h
  | push =>
    rcases bind_eq_error h with h | ⟨id, -, h⟩
    · exact refuses_of_pathId h
    · rcases bind_eq_error h with h | ⟨body, -, h⟩
      · exact refuses_rejected h
      · split at h
        · cases h
          exact refuses_ofApiError _
        · split at h
          · cases h
          · cases h
            exact refuses_ofApiError _
  | listAssignments =>
    rcases bind_eq_error h with h | ⟨id, -, h⟩
    · exact refuses_of_pathId h
    · cases h

/-! ## All requests -/

/-- A response goes out with its status. -/
@[simp] theorem status_to (response : ApiResponse) : (response.to request).status = response.status := by
  unfold ApiResponse.to
  split <;> rfl

/-- What becomes of a request. It reaches no endpoint, or one that does not have its method, or it is refused, and then nothing
changes; or it passes the guard, and the handler carries it out. -/
theorem serve_cases (axum : Axum V) (env : Env) (state : ApiState) (request : ApiRequest V)
    (assets : String → Option (List UInt8)) :
    (Endpoint.find request.path = none ∧ serve axum env state request assets = (state, (fallback assets request.path).to request)) ∨
      ∃ endpoint param, Endpoint.find request.path = some (endpoint, param) ∧
        ((endpoint.handler request.method = none ∧ (serve axum env state request assets).1 = state) ∨
          ∃ handler, endpoint.handler request.method = some handler ∧
            ((∃ response : ApiResponse, response.refuses ∧ serve axum env state request assets = (state, response.to request)) ∨
              ∃ x, endpoint.guard.check axum env state request param = .ok () ∧
                handler.Done axum env state request param x ∧ serve axum env state request assets = (x.1, x.2.to request))) := by
  unfold serve
  cases hf : Endpoint.find request.path with
  | none => exact Or.inl ⟨rfl, rfl⟩
  | some y =>
    obtain ⟨endpoint, param⟩ := y
    refine Or.inr ⟨endpoint, param, rfl, ?_⟩
    simp only [Endpoint.answer]
    cases hh : endpoint.handler request.method with
    | none =>
      refine Or.inl ⟨rfl, ?_⟩
      dsimp only
      split <;> rfl
    | some handler =>
      refine Or.inr ⟨handler, rfl, ?_⟩
      cases ha : endpoint.guard.check axum env state request param with
      | error response => exact Or.inl ⟨response, refuses_of_check ha, rfl⟩
      | ok u =>
        cases hr : handler.run axum env state request param with
        | error response =>
          refine Or.inl ⟨response, refuses_of_run hr, ?_⟩
          simp [hr]
        | ok x =>
          refine Or.inr ⟨x, rfl, done_of_run hr, ?_⟩
          simp [hr]

/-! ## A request that reads -/

/-- The guard of the token lets the requests pass that carry it. -/
theorem check_token :
    Guard.token.check axum env state request param =
      if bearerToken axum.toStr request.headers = some state.token then .ok () else .error ⟨401, .empty⟩ := by
  unfold Guard.check requireToken
  cases bearerToken axum.toStr request.headers with
  | none => rfl
  | some token =>
    simp only [constantTimeEq_iff, Str.asBytes_inj, Option.some.injEq]
    split <;> rfl

/-- The guard of the live feed lets the requests pass that carry the token, also as their first subprotocol. -/
theorem check_tokenWs :
    Guard.tokenWs.check axum env state request param =
      if (bearerToken axum.toStr request.headers).orElse (fun _ => wsProtocolToken axum.toStr request.headers) = some state.token then
        .ok ()
      else .error ⟨401, .empty⟩ := by
  unfold Guard.check requireTokenWs
  cases (bearerToken axum.toStr request.headers).orElse fun _ => wsProtocolToken axum.toStr request.headers with
  | none => rfl
  | some token =>
    simp only [constantTimeEq_iff, Str.asBytes_inj, Option.some.injEq]
    split <;> rfl

/-- The response to a request that a query answers. -/
theorem serve_reading {α : Type} {assets : String → Option (List UInt8)} {endpoint : Endpoint} {handler : Handler} {body : α → Body}
    {r : Except ApiError α} (hfind : Endpoint.find request.path = some (endpoint, param)) (hmethod : request.method = .get)
    (hhandler : endpoint.handler .get = some handler) (hrun : handler.run axum env state request param = reading state body r) :
    (serve axum env state request assets).2 =
      match endpoint.guard.check axum env state request param with
      | .error response => response
      | .ok () => .ofQuery body r := by
  have hto : ∀ response : ApiResponse, response.to request = response := by
    intro response
    rw [ApiResponse.to, hmethod, if_neg (by decide)]
  rw [← hmethod] at hhandler
  simp only [serve, hfind, Endpoint.answer, hhandler, hrun, reading, hto]
  cases endpoint.guard.check axum env state request param with
  | error response => rfl
  | ok u => cases r <;> rfl

/-- What a step of the history is. -/
theorem step_cases {assets : String → Option (List UInt8)} {state' : ApiState} {a : ApiAction V} {ev : List (Exchange V)}
    (h : state.step axum assets a = some (state', ev)) :
    ev = [] ∨ ∃ env request, state' = (serve axum env state request assets).1 ∧
      ev = [⟨state, env, request, (serve axum env state request assets).2⟩] := by
  cases a with
  | daemon after =>
    simp only [ApiState.step] at h
    split at h
    · cases h
      exact Or.inl rfl
    · cases h
  | request env request =>
    cases h
    exact Or.inr ⟨env, request, rfl, rfl⟩

end RouterAux

end

end Monitra
