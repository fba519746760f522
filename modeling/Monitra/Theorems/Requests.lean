import Monitra.Library.Runs
import Monitra.Lemmas.Router
import Monitra.Theorems.Ledger

/-!
# Requests that are left out, and requests that are repeated

A client that does not see the response to a request sends it again. What a run of requests comes to depends on those alone that were
carried out and whose handler writes; and of these, the ones that edit, pause, resume or remove can be sent again.
-/

namespace Monitra

open Runs

variable {V : Type}

/-- A request that its endpoint has a writing handler for, and that was answered as carried out. -/
def Exchange.carriedOut (x : Exchange V) : Bool :=
  match Endpoint.find x.request.path with
  | none => false
  | some (endpoint, _) => (endpoint.handler x.request.method).any fun handler => !handler.reads && decide (x.response.status < 400)

/-- The handlers whose requests a client can send again: all that read, and those that edit, pause, resume or remove. -/
def Handler.repeatable : Handler → Bool
  | .editMonitor | .removeMonitor | .pauseMonitor | .resumeMonitor | .removeAgent => true
  | handler => handler.reads

def ApiRequest.repeatable (request : ApiRequest V) : Bool :=
  (Endpoint.find request.path).all fun x => (x.1.handler request.method).all (·.repeatable)

/-- A status of success, 2xx. -/
def ApiResponse.isSuccess (response : ApiResponse) : Bool := 200 ≤ response.status ∧ response.status < 300

/-- The state after a request was sent again and again, each time in surroundings of its own. -/
def sentAgain (axum : Axum V) (assets : String → Option (List UInt8)) (request : ApiRequest V) (state : ApiState)
    (envs : List Env) : ApiState :=
  envs.foldl (fun state env => (serve axum env state request assets).1) state

/-- What each of the attempts was answered with. -/
def answersAgain (axum : Axum V) (assets : String → Option (List UInt8)) (request : ApiRequest V) : ApiState → List Env →
    List ApiResponse
  | _, [] => []
  | state, env :: envs =>
    (serve axum env state request assets).2 :: answersAgain axum assets request (serve axum env state request assets).1 envs

namespace RequestsAux

open RouterAux LedgerAux

variable {axum : Axum V} {env env' : Env} {state : ApiState} {request : ApiRequest V} {assets : String → Option (List UInt8)}

@[simp] theorem isSuccess_to (response : ApiResponse) : (response.to request).isSuccess = response.isSuccess := by
  simp only [ApiResponse.isSuccess, status_to]

/-- A handler that writes answers with a status of success. -/
theorem isSuccess_of_done {param : String} {handler : Handler} {x : ApiState × ApiResponse}
    (h : handler.Done axum env state request param x) (hw : handler.reads = false) : x.2.isSuccess = true := by
  cases h with
  | answered hr => cases hw.symm.trans hr
  | _ => rfl

/-- A request that was not carried out, or only read, changes nothing. -/
theorem state_of_not_carriedOut
    (h : Exchange.carriedOut ⟨state, env, request, (serve axum env state request assets).2⟩ = false) :
    (serve axum env state request assets).1 = state := by
  have hcases := serve_cases axum env state request assets
  generalize serve axum env state request assets = r at hcases h ⊢
  rcases hcases with ⟨-, rfl⟩ | ⟨endpoint, param, hf, ⟨-, h'⟩ | ⟨handler, hh, ⟨response, -, rfl⟩ | ⟨x, -, hdone, rfl⟩⟩⟩
  · rfl
  · exact h'
  · rfl
  · by_cases hreads : handler.reads = true
    · cases hdone with
      | answered => rfl
      | _ => cases hreads
    · have hw : handler.reads = false := by simpa using hreads
      have hsuccess := isSuccess_of_done hdone hw
      simp only [ApiResponse.isSuccess, decide_eq_true_eq] at hsuccess
      have hstatus : x.2.status < 400 := by omega
      simp [Exchange.carriedOut, hf, hh, hw, hstatus] at h

/-- A request that was not answered with success changes nothing. -/
theorem state_of_not_isSuccess (h : (serve axum env state request assets).2.isSuccess = false) :
    (serve axum env state request assets).1 = state := by
  have hcases := serve_cases axum env state request assets
  generalize serve axum env state request assets = r at hcases h ⊢
  rcases hcases with ⟨-, rfl⟩ | ⟨endpoint, param, -, ⟨-, h'⟩ | ⟨handler, -, ⟨response, -, rfl⟩ | ⟨x, -, hdone, rfl⟩⟩⟩
  · rfl
  · exact h'
  · rfl
  · cases hreads : handler.reads with
    | false =>
      rw [isSuccess_to, isSuccess_of_done hdone hreads] at h
      cases h
    | true =>
      cases hdone with
      | answered => rfl
      | _ => cases hreads

/-! ## The same request again -/

/-- A valid interval is stored in range. -/
theorem in_range_of_valid {v : UInt64} (h : validIntervalSecs v = true) : ¬(v.toInt64 < 1 ∨ v.toInt64 > 86400) := by
  have hsmall := RefinementAux.small_of_valid h
  simp only [validIntervalSecs, decide_eq_true_eq] at h
  have hlo := (Word.toUInt64_le_iff (a := 1) (by decide) (Word.nonneg_toInt64 hsmall)).mp h.1
  have hhi := (Word.toUInt64_le_iff (b := 86400) (Word.nonneg_toInt64 hsmall) (by decide)).mp h.2
  rintro (hlt | hgt)
  · exact Int64.not_lt.mpr hlo hlt
  · exact Int64.not_lt.mpr hhi hgt

/-- The tables that an update leaves. -/
theorem updateMonitor_eq {db db' : Db} {id : UInt64} {name target : Option String} {intervalSecs agentId : Option UInt64}
    (h : db.updateMonitor id name target intervalSecs agentId = .ok db') :
    db' = { db with
      monitors := db.monitors.update (fun row => decide (row.id = id.toInt64)) (Db.updatedRow name target intervalSecs agentId)
        (Db.id_updatedRow name target intervalSecs agentId) } := by
  unfold Db.updateMonitor at h
  repeat' split at h
  all_goals cases h
  rfl

/-- A row that is updated twice in the same way is updated once. -/
theorem updatedRow_updatedRow {name target : Option String} {intervalSecs agentId : Option UInt64}
    (hi : ∀ v ∈ intervalSecs, validIntervalSecs v = true) (row : MonitorRow) :
    Db.updatedRow name target intervalSecs agentId (Db.updatedRow name target intervalSecs agentId row) =
      Db.updatedRow name target intervalSecs agentId row := by
  generalize hrow : Db.updatedRow name target intervalSecs agentId row = row'
  have hname : name.getD row'.name = row'.name := by subst hrow; cases name <;> rfl
  have htarget : target.getD row'.target = row'.target := by subst hrow; cases target <;> rfl
  have hinterval : (intervalSecs.map (·.toInt64)).getD row'.intervalSecs = row'.intervalSecs := by
    subst hrow
    cases intervalSecs <;> rfl
  have hagent : ((agentId.map (·.toInt64)).orElse fun _ => row'.agentId) = row'.agentId := by
    subst hrow
    cases agentId <;> rfl
  -- the interval that repaired the row, if one did, is in range now
  have hstatus : ¬((row'.intervalSecs < 1 ∨ row'.intervalSecs > 86400) ∧ intervalSecs.isSome = true) := by
    rintro ⟨hbad, hsome⟩
    obtain ⟨v, rfl⟩ := Option.isSome_iff_exists.mp hsome
    rw [← hinterval] at hbad
    exact in_range_of_valid (hi v rfl) hbad
  simp only [Db.updatedRow, hname, htarget, hinterval, hagent, if_neg hstatus]

/-- An edit that was made changes nothing when it is made again. -/
theorem editMonitor_again {db db' db'' : Db} {id : UInt64} {name target : Option String} {intervalSecs agentId : Option UInt64}
    (h : Service.editMonitor db id name target intervalSecs agentId = .ok db')
    (h' : Service.editMonitor db' id name target intervalSecs agentId = .ok db'') : db'' = db' := by
  obtain ⟨hi, h⟩ := editMonitor_eq_ok h
  obtain ⟨-, h'⟩ := editMonitor_eq_ok h'
  rw [updateMonitor_eq h', updateMonitor_eq h, Table.update_update fun row _ _ => updatedRow_updatedRow hi row]

/-- A status that was set is set again without a change. -/
theorem setMonitorStatus_again {db db' db'' : Db} {id : UInt64} {status : MonitorStatus}
    (h : db.setMonitorStatus id status = .ok db') (h' : db'.setMonitorStatus id status = .ok db'') : db'' = db' := by
  unfold Db.setMonitorStatus at h h'
  split at h
  · cases h
  · cases h
    split at h'
    · cases h'
    · cases h'
      congr 1
      exact Table.update_update (f := fun row : MonitorRow => { row with status := monitorStatusToStr status }) fun row _ _ => rfl

/-- A removal is not found a second time. -/
theorem removeMonitor_again {db db' db'' : Db} {id : UInt64} (h : Service.removeMonitor db id = .ok db')
    (h' : Service.removeMonitor db' id = .ok db'') : False := by
  obtain ⟨-, -, -, hget⟩ := Db.deleteMonitor_eq_ok (provider_eq_ok.mp h)
  have hnone : db'.monitors.get? id.toInt64 = none := by
    rw [← Db.row?, hget, if_pos rfl]
  have h' := provider_eq_ok.mp h'
  rw [Db.deleteMonitor, hnone] at h'
  cases h'

theorem removeAgent_again {db db' db'' : Db} {id : UInt64} (h : Service.removeAgent db id = .ok db')
    (h' : Service.removeAgent db' id = .ok db'') : False := by
  have h := provider_eq_ok.mp h
  have h' := provider_eq_ok.mp h'
  unfold Db.deleteAgent at h
  split at h
  · cases h
  · split at h
    · cases h
    · cases h
      have hnone : (db.agents.delete fun row => decide (row.id = id.toInt64)).get? id.toInt64 = none := by
        rw [Table.get?_delete_key, if_pos rfl]
      rw [Db.deleteAgent, hnone] at h'
      cases h'

/-- A request that was carried out and can be sent again changes nothing the second time. -/
theorem serve_again {param : String} {handler : Handler} {x : ApiState × ApiResponse} {endpoint : Endpoint}
    (hf : Endpoint.find request.path = some (endpoint, param)) (hh : endpoint.handler request.method = some handler)
    (hrep : handler.repeatable = true) (hdone : handler.Done axum env state request param x) :
    (serve axum env' x.1 request assets).1 = x.1 := by
  rcases serve_cases axum env' x.1 request assets with ⟨hnone, h⟩ | ⟨endpoint', param', hf', ⟨-, h⟩ | ⟨handler', hh', h⟩⟩
  · rw [h]
  · exact h
  · cases hf.symm.trans hf'
    cases hh.symm.trans hh'
    rcases h with ⟨response, -, h⟩ | ⟨y, -, hdone', h⟩
    · rw [h]
    · rw [h]
      cases hdone' with
      | answered => rfl
      | edited hid hb hi hcall =>
        cases hdone with
        | answered hr => cases hr
        | edited hid₁ hb₁ hi₁ hcall₁ =>
          cases hid₁.symm.trans hid
          cases hb₁.symm.trans hb
          cases hi₁.symm.trans hi
          rw [editMonitor_again hcall₁ hcall]
      | removed hid hcall =>
        cases hdone with
        | answered hr => cases hr
        | removed hid₁ hcall₁ =>
          cases hid₁.symm.trans hid
          exact (removeMonitor_again hcall₁ hcall).elim
      | paused hid hcall =>
        cases hdone with
        | answered hr => cases hr
        | paused hid₁ hcall₁ =>
          cases hid₁.symm.trans hid
          rw [setMonitorStatus_again (provider_eq_ok.mp hcall₁) (provider_eq_ok.mp hcall)]
      | resumed hid hcall =>
        cases hdone with
        | answered hr => cases hr
        | resumed hid₁ hcall₁ =>
          cases hid₁.symm.trans hid
          rw [setMonitorStatus_again (provider_eq_ok.mp hcall₁) (provider_eq_ok.mp hcall)]
      | deregistered hid hcall =>
        cases hdone with
        | answered hr => cases hr
        | deregistered hid₁ hcall₁ =>
          cases hid₁.symm.trans hid
          exact (removeAgent_again hcall₁ hcall).elim
      | created | registered | pushed | pulled => cases hrep

/-- What a handler that was carried out changes, it changes or fails to change whenever it is run on the request. -/
theorem run_of_done {state' : ApiState} {param : String} {handler : Handler} {x : ApiState × ApiResponse}
    (hrep : handler.repeatable = true) (hw : handler.reads = false) (hdone : handler.Done axum env' state' request param x) :
    ∃ r, handler.run axum env state request param = changing state r := by
  cases hdone with
  | answered hr => cases hw.symm.trans hr
  | edited hid hb =>
    rw [Handler.run, hid, hb]
    exact ⟨_, rfl⟩
  | removed hid | paused hid | resumed hid | deregistered hid =>
    rw [Handler.run, hid]
    exact ⟨_, rfl⟩
  | created | registered | pushed | pulled => cases hrep

/-- The handlers that edit, pause, resume or remove are behind the token. -/
theorem guard_of_repeatable {endpoint : Endpoint} {method : Method} {handler : Handler}
    (hh : endpoint.handler method = some handler) (hrep : handler.repeatable = true) (hw : handler.reads = false) :
    endpoint.guard = .token := by
  cases endpoint <;> cases method <;> cases hh <;> first | rfl | exact absurd hw (by decide) | exact absurd hrep (by decide)

/-- An error of a handler is no success. -/
theorem not_isSuccess_ofApiError (e : ApiError) : (ApiResponse.ofApiError e).isSuccess = false := by
  cases e with
  | notFound | validation => rfl
  | provider e => cases e <;> rfl

/-- An attempt that was answered with success was carried out. -/
theorem done_of_isSuccess {endpoint : Endpoint} {param : String} {handler : Handler} {r : Except ApiError Db}
    (hf : Endpoint.find request.path = some (endpoint, param)) (hh : endpoint.handler request.method = some handler)
    (hguard : endpoint.guard = .token) (hrun : handler.run axum env state request param = changing state r)
    (h : (serve axum env state request assets).2.isSuccess = true) :
    ∃ x, handler.Done axum env state request param x ∧ (serve axum env state request assets).1 = x.1 := by
  by_cases htoken : bearerToken axum.toStr request.headers = some state.token
  · cases r with
    | error e =>
      simp only [serve, hf, Endpoint.answer, hh, hguard, check_token, htoken, if_true, hrun, changing, isSuccess_to,
        not_isSuccess_ofApiError] at h
      cases h
    | ok store =>
      refine ⟨_, done_of_run hrun, ?_⟩
      simp only [serve, hf, Endpoint.answer, hh, hguard, check_token, htoken, if_true, hrun, changing]
  · simp only [serve, hf, Endpoint.answer, hh, hguard, check_token, htoken, if_false, isSuccess_to] at h
    exact absurd h (by decide)

/-- A request that was answered with success and can be sent again changes nothing the second time. -/
theorem serve_after_success (hrep : request.repeatable = true)
    (h : (serve axum env state request assets).2.isSuccess = true) :
    (serve axum env' (serve axum env state request assets).1 request assets).1 = (serve axum env state request assets).1 := by
  rcases serve_cases axum env' (serve axum env state request assets).1 request assets with
    ⟨-, hs⟩ | ⟨endpoint, param, hf, ⟨-, hs⟩ | ⟨handler, hh, ⟨response, -, hs⟩ | ⟨x', -, hdone', hs⟩⟩⟩
  · rw [hs]
  · exact hs
  · rw [hs]
  · cases hw : handler.reads with
    | true =>
      rw [hs]
      cases hdone' with
      | answered => rfl
      | _ => cases hw
    | false =>
      -- the second attempt was carried out, so the first, which met the same checks of the request, was too
      have hhandler : handler.repeatable = true := by
        simpa [ApiRequest.repeatable, hf, hh] using hrep
      obtain ⟨r, hrun⟩ : ∃ r, handler.run axum env state request param = changing state r := run_of_done hhandler hw hdone'
      obtain ⟨x, hdone, hx⟩ := done_of_isSuccess hf hh (guard_of_repeatable hh hhandler hw) hrun h
      rw [hx]
      exact serve_again hf hh hhandler hdone

/-- However often it is sent after that. -/
theorem sentAgain_after_success (hrep : request.repeatable = true)
    (h : (serve axum env state request assets).2.isSuccess = true) (envs : List Env) :
    sentAgain axum assets request (serve axum env state request assets).1 envs = (serve axum env state request assets).1 := by
  induction envs with
  | nil => rfl
  | cons env' envs ih =>
    rw [sentAgain, List.foldl_cons, serve_after_success hrep h]
    exact ih

end RequestsAux

open RouterAux RequestsAux

/-- The state of the daemon is what the requests made of it that were carried out by a handler that writes. In every run of requests
by any clients, whatever the rest of the daemon does in between: the requests that were refused, that no endpoint has, or that only
read, can be left out, and the others are answered as they were and leave the same state. -/
theorem carried_out_requests_suffice {axum : Axum V} {assets : String → Option (List UInt8)} {ok : ApiState → ApiAction V → Prop}
    {s₀ s : ApiState} {log : List (Exchange V)} (h : Run (ApiState.step axum assets) ok s₀ s log) :
    Run (ApiState.step axum assets) ok s₀ s (log.filter (·.carriedOut)) := by
  refine h.filter fun s s' ev a hs => ?_
  rcases step_cases hs with rfl | ⟨env, request, rfl, rfl⟩
  · exact Or.inl rfl
  · rw [List.filter_singleton]
    cases hc : Exchange.carriedOut ⟨s, env, request, (serve axum env s request assets).2⟩ with
    | true => exact Or.inl rfl
    | false => exact Or.inr ⟨state_of_not_carriedOut hc, rfl⟩

open ApiExample in
theorem carried_out_requests_suffice_created :
    let x := after (ApiState.step axum assets) always start
      [.request env (request .get "/monitors"), .request env (request .post "/monitors"), .request env (request .get "/monitors")]
    Run (ApiState.step axum assets) (fun s a => always s a = true) start x.1 (x.2.filter (·.carriedOut)) := by
  intro x
  exact carried_out_requests_suffice (run_after rfl)

/-- A request to edit, pause, resume or remove can be sent again, however often. Whatever the store failed of the attempts, they leave
the state as it was when none of them was answered with success; when one was, they leave exactly what an attempt alone leaves that is
answered with success, and the other attempts count for nothing. -/
theorem retries_count_once {axum : Axum V} {assets : String → Option (List UInt8)} {request : ApiRequest V}
    (hrep : request.repeatable = true) (state : ApiState) (envs : List Env) :
    ((∀ answer ∈ answersAgain axum assets request state envs, answer.isSuccess = false) →
        sentAgain axum assets request state envs = state) ∧
      ((∃ answer ∈ answersAgain axum assets request state envs, answer.isSuccess = true) →
        ∃ env ∈ envs, (serve axum env state request assets).2.isSuccess = true ∧
          sentAgain axum assets request state envs = (serve axum env state request assets).1) := by
  induction envs with
  | nil => exact ⟨fun _ => rfl, fun ⟨answer, hanswer, _⟩ => absurd hanswer List.not_mem_nil⟩
  | cons env envs ih =>
    have hsent : sentAgain axum assets request state (env :: envs) =
        sentAgain axum assets request (serve axum env state request assets).1 envs := rfl
    rw [hsent, answersAgain]
    cases hfirst : (serve axum env state request assets).2.isSuccess with
    | true =>
      -- the first success: what is sent after it changes nothing
      refine ⟨fun hnone => ?_, fun _ => ⟨env, List.mem_cons_self, hfirst, sentAgain_after_success hrep hfirst envs⟩⟩
      cases hfirst.symm.trans (hnone _ List.mem_cons_self)
    | false =>
      -- a failure: the attempts after it meet the state that it met
      rw [state_of_not_isSuccess hfirst]
      refine ⟨fun hnone => ih.1 fun answer hanswer => hnone answer (List.mem_cons_of_mem _ hanswer), ?_⟩
      rintro ⟨answer, hanswer, hsuccess⟩
      rcases List.mem_cons.mp hanswer with rfl | hanswer
      · cases hfirst.symm.trans hsuccess
      · obtain ⟨env', hin, hsuccess', hleft⟩ := ih.2 ⟨answer, hanswer, hsuccess⟩
        exact ⟨env', List.mem_cons_of_mem _ hin, hsuccess', hleft⟩

open ApiExample in
/-- The store fails the first attempt and carries out the second, and the client sends a third. -/
theorem retries_count_once_paused :
    let state := (serve axum env start (request .post "/monitors") assets).1
    let failing : Env := { env with fault := some (.unavailable .store "locked") }
    let pause := request .post "/monitors/1/pause"
    let sent := sentAgain axum assets pause state [failing, env, env]
    state.store.status? 1 = some "pending" ∧ sent.store.status? 1 = some "paused" ∧
      (answersAgain axum assets pause state [failing, env, env]).map (·.status) = [503, 204, 204] ∧
      ∃ env' ∈ [failing, env, env], sent = (serve axum env' state pause assets).1 := by
  intro state failing pause sent
  have hanswer : (⟨204, .empty⟩ : ApiResponse) ∈ answersAgain axum assets pause state [failing, env, env] := by decide +kernel
  obtain ⟨env', hin, -, hsent⟩ :=
    (retries_count_once (by decide +kernel) state [failing, env, env]).2 ⟨⟨204, .empty⟩, hanswer, rfl⟩
  exact ⟨by decide +kernel, by decide +kernel, by decide +kernel, env', hin, hsent⟩

end Monitra
