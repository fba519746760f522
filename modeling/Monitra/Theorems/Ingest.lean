import Monitra.Backend.Ingest
import Monitra.Lemmas.Steps

/-!
# Who can push for a monitor

The ingest route submits a result only for a monitor of the agent in the path, and only when the request carries the token that
is stored for that agent. What it does submit is all there was for such monitors, in order; and a request for an agent that
does not exist is answered like one with a wrong token.
-/

namespace Monitra

open Runs

/-- The request's bearer value is the token, byte for byte. -/
def Bears {V : Type} (toStr : V → Option String) (request : Request V) (token : String) : Prop :=
  ∃ value, bearerToken toStr request = some value ∧ Str.asBytes value = Str.asBytes token

/-- There is an agent with the id, and the request's bearer value is its token. -/
def AgentAuthorized {V : Type} (toStr : V → Option String) (store : Db) (agentId : UInt64) (request : Request V) : Prop :=
  ∃ row, store.agents.get? agentId.toInt64 = some row ∧ Bears toStr request row.token

/-- Whether there is a monitor with the id and it belongs to the agent. -/
def Db.belongs (store : Db) (agentId monitorId : UInt64) : Bool :=
  (store.row? monitorId).any fun row => row.agentId == some agentId.toInt64

namespace IngestAux

variable {V : Type} {toStr : V → Option String} {state : AppState} {agentId now : UInt64} {request : Request V}
  {body : IngestRequest}

theorem bears_iff {token : String} : Bears toStr request token ↔ bearerToken toStr request = some token := by
  constructor
  · rintro ⟨value, hv, he⟩
    rw [hv, Str.asBytes_inj.mp he]
  · intro h
    exact ⟨token, h, rfl⟩

/-- What reading a monitor answers. -/
theorem getMonitor_eq_ok {store : Db} {id : UInt64} {m : Option Monitor} (h : store.getMonitor id = .ok m) :
    (store.row? id = none ∧ m = none) ∨ ∃ row monitor, store.row? id = some row ∧ rowToMonitor row = .ok monitor ∧
      m = some monitor := by
  unfold Db.getMonitor at h
  unfold Db.row?
  split at h
  · rename_i hrow
    cases h
    exact Or.inl ⟨hrow, rfl⟩
  · rename_i row hrow
    cases hm : rowToMonitor row with
    | error e => simp [hm, Except.map] at h
    | ok monitor =>
      simp only [hm, Except.map, Except.ok.injEq] at h
      exact Or.inr ⟨row, monitor, hrow, hm, h.symm⟩

/-- A result is submitted only for a monitor that belongs to the agent, and as it is. -/
theorem of_submission {store : Db} {result : PushedResultDto} {p : PushedResult}
    (h : Ingest.submission store agentId result = some p) :
    p = result.into ∧ store.belongs agentId result.monitorId.val = true := by
  unfold Ingest.submission Service.provider at h
  cases hm : store.getMonitor result.monitorId.val with
  | error e => simp [hm, Except.mapError] at h
  | ok m =>
    simp only [hm, Except.mapError] at h
    rcases getMonitor_eq_ok hm with ⟨-, rfl⟩ | ⟨row, monitor, hrow, hread, rfl⟩
    · cases h
    · simp only [Option.ite_none_right_eq_some, Option.some.injEq] at h
      obtain ⟨hagent, rfl⟩ := h
      rw [(rowToMonitor_eq_ok hread).2.2.2.2.2.1, Word.map_toUInt64_eq_some] at hagent
      exact ⟨rfl, by simp [Db.belongs, hrow, hagent]⟩

/-- When its monitor can be read, a result is submitted exactly when the monitor belongs to the agent. -/
theorem submission_eq {store : Db} {result : PushedResultDto} {m : Option Monitor}
    (h : store.getMonitor result.monitorId.val = .ok m) :
    Ingest.submission store agentId result =
      if store.belongs agentId result.monitorId.val then some result.into else none := by
  unfold Ingest.submission Service.provider Db.belongs
  rcases getMonitor_eq_ok h with ⟨hrow, rfl⟩ | ⟨row, monitor, hrow, hread, rfl⟩
  · simp [h, Except.mapError, hrow]
  · simp only [h, Except.mapError, hrow, Option.any_some, beq_iff_eq, (rowToMonitor_eq_ok hread).2.2.2.2.2.1,
      Word.map_toUInt64_eq_some]

/-- A heartbeat leaves the monitors alone. -/
theorem getMonitor_of_heartbeat {store store' : Db} (h : store.heartbeatAgent agentId now = .ok store') (id : UInt64) :
    store'.getMonitor id = store.getMonitor id := by
  unfold Db.getMonitor
  rw [(heartbeatAgent_eq_ok h).1]

/-- There is a heartbeat to record exactly when there is the agent. -/
theorem heartbeat_of_agent {store : Db} {row : AgentRow} (now : UInt64) (h : store.agents.get? agentId.toInt64 = some row) :
    ∃ store', store.heartbeatAgent agentId now = .ok store' := by
  unfold Db.heartbeatAgent
  simp [h]

/-- Submitting results one after the other is sending them. -/
theorem foldl_submit (h : IngestHandle) (ps : List PushedResult) :
    ps.foldl IngestHandle.submit h = { h with queue := Channel.sendAll h.capacity h.queue ps } := by
  induction ps generalizing h with
  | nil => rfl
  | cons p ps ih => rw [List.foldl_cons, ih, IngestHandle.submit, Channel.sendAll_cons]

/-- What the handler does for an agent that exists. -/
theorem push_eq (state : AppState) {row : AgentRow} (now : UInt64) (body : IngestRequest) (h : state.store.agents.get? agentId.toInt64 = some row) :
    ∃ store, state.store.heartbeatAgent agentId now = .ok store ∧
      Ingest.push state agentId now body =
        ⟨.ok .accepted,
          { state with
            store
            ingest := { state.ingest with
              queue := Channel.sendAll state.ingest.capacity state.ingest.queue
                (body.results.filterMap (Ingest.submission state.store agentId)) } },
          body.results.filterMap (Ingest.submission state.store agentId)⟩ := by
  obtain ⟨store, hs⟩ := heartbeat_of_agent now h
  have hsub : Ingest.submission store agentId = Ingest.submission state.store agentId := by
    funext result
    unfold Ingest.submission
    rw [getMonitor_of_heartbeat hs]
  refine ⟨store, hs, ?_⟩
  unfold Ingest.push Service.provider
  simp only [hs, Except.mapError, hsub, foldl_submit]

/-- A request that is not authorized is answered as such, and has no effect. -/
theorem route_of_not_authorized (h : ¬AgentAuthorized toStr state.store agentId request) :
    Ingest.route toStr state agentId now request body = ⟨StatusCode.unauthorized.intoResponse, state, []⟩ := by
  unfold Ingest.route
  cases hr : requireAgentToken toStr state agentId request fun _ => Ingest.push state agentId now body with
  | error code => rw [requireAgentToken_eq_error hr]
  | ok reply =>
    obtain ⟨⟨row, hrow, hb⟩, -⟩ := requireAgentToken_eq_ok.mp hr
    exact absurd ⟨row, hrow, bears_iff.mpr hb⟩ h

/-- A request that is authorized is accepted, and comes to what the handler does. -/
theorem route_of_authorized (now : UInt64) (body : IngestRequest) (h : AgentAuthorized toStr state.store agentId request) :
    (Ingest.route toStr state agentId now request body).answer = StatusCode.accepted.intoResponse ∧
      (Ingest.route toStr state agentId now request body).state = (Ingest.push state agentId now body).state ∧
      (Ingest.route toStr state agentId now request body).submitted =
        body.results.filterMap (Ingest.submission state.store agentId) := by
  obtain ⟨row, hrow, hb⟩ := h
  obtain ⟨store, -, hpush⟩ := push_eq state now body hrow
  have hr : requireAgentToken toStr state agentId request (fun _ => Ingest.push state agentId now body) =
      .ok (Ingest.push state agentId now body) :=
    requireAgentToken_eq_ok.mpr ⟨⟨row, hrow, bears_iff.mp hb⟩, rfl⟩
  unfold Ingest.route
  rw [hr, hpush]
  exact ⟨rfl, rfl, rfl⟩

end IngestAux

/-! ## The route and the running daemon -/

namespace IngestAux

/-- The results of a request, as the daemon's steps take them one by one. -/
theorem results_run {cfg : EngineConfig} {agentId : UInt64} : ∀ {results : List PushedResultDto} {s : System},
    (∀ r ∈ results, (agentId, r.monitorId) ∈ s.held) →
    Run (System.step cfg) (fun _ _ => True) s
      { s with
        pushRx := Channel.sendAll cfg.ingestCapacity s.pushRx (results.filterMap (Ingest.submission s.db agentId)) } []
  | [], s, _ => Run.nil
  | r :: results, s, hheld => by
    have hr : s.agentStep cfg (.ingest agentId r.monitorId r.outcome.into) =
        some ({ s with
          pushRx := Channel.sendAll cfg.ingestCapacity s.pushRx (Ingest.submission s.db agentId r).toList }, []) := by
      simp only [System.agentStep, hheld r List.mem_cons_self, if_true, Ingest.submission, Service.provider]
      cases s.db.getMonitor r.monitorId.val with
      | error e => simp [Except.mapError]
      | ok m =>
        cases m with
        | none => simp [Except.mapError]
        | some monitor =>
          simp only [Except.mapError]
          split
          · rfl
          · rfl
    have hfirst : Run (System.step cfg) (fun _ _ => True) s _ [] :=
      Run.single (a := .agent (.ingest agentId r.monitorId r.outcome.into)) trivial hr
    have hrest := hfirst.trans (results_run fun r' hr' => hheld r' (List.mem_cons_of_mem r hr'))
    cases hs : Ingest.submission s.db agentId r with
    | none => simpa [hs] using hrest
    | some p => simpa [hs] using hrest

end IngestAux

/-- What the handler does is a run of the daemon: the heartbeat, and then the results one by one, when no step of another party
comes between. -/
theorem push_run {cfg : EngineConfig} {s : System} {agentId : UInt64} {body : IngestRequest} {token : String} {row : AgentRow}
    (hagent : s.db.agents.get? agentId.toInt64 = some row) (hheld : ∀ r ∈ body.results, (agentId, r.monitorId) ∈ s.held) :
    Run (System.step cfg) (fun _ _ => True) s
      { s with
        db := (Ingest.push ⟨s.db, token, ⟨cfg.ingestCapacity, s.pushRx⟩⟩ agentId s.wall body).state.store
        pushRx := (Ingest.push ⟨s.db, token, ⟨cfg.ingestCapacity, s.pushRx⟩⟩ agentId s.wall body).state.ingest.queue } [] := by
  obtain ⟨store, hs, hpush⟩ := IngestAux.push_eq ⟨s.db, token, ⟨cfg.ingestCapacity, s.pushRx⟩⟩ s.wall body hagent
  have hbeat : s.agentStep cfg (.heartbeat agentId) = some ({ s with db := store }, []) := by
    unfold System.agentStep
    simp only [hs]
  have hsub : Ingest.submission store agentId = Ingest.submission s.db agentId := by
    funext result
    unfold Ingest.submission
    rw [IngestAux.getMonitor_of_heartbeat hs]
  have hfirst : Run (System.step cfg) (fun _ _ => True) s { s with db := store } [] :=
    Run.single (a := .agent (.heartbeat agentId)) trivial hbeat
  have hrest := hfirst.trans (IngestAux.results_run (s := { s with db := store }) hheld)
  rw [hpush]
  simpa [hsub] using hrest

/-! ## The result -/

/-- The ingest route submits only for the monitors of an agent whose token the request carries; when it is authorized, and the
monitors of its body can be read, it submits exactly the results for the agent's monitors, in the order of the body, as far as
the channel has room; and it answers for an agent that does not exist as for a wrong token. -/
theorem ingest_only_own {V : Type} (toStr : V → Option String) (state : AppState) (agentId now : UInt64)
    (request : Request V) (body : IngestRequest) :
    (∀ p ∈ (Ingest.route toStr state agentId now request body).submitted,
      AgentAuthorized toStr state.store agentId request ∧ state.store.belongs agentId p.monitorId.val = true) ∧
    (AgentAuthorized toStr state.store agentId request →
      (∀ r ∈ body.results, ∃ m, state.store.getMonitor r.monitorId.val = .ok m) →
      (Ingest.route toStr state agentId now request body).answer = StatusCode.accepted.intoResponse ∧
      (Ingest.route toStr state agentId now request body).submitted =
        (body.results.filter fun r => state.store.belongs agentId r.monitorId.val).map PushedResultDto.into ∧
      (Ingest.route toStr state agentId now request body).state.ingest.queue = state.ingest.queue ++
        (Ingest.route toStr state agentId now request body).submitted.take
          (state.ingest.capacity - state.ingest.queue.length)) ∧
    (∀ (state' : AppState) (agentId' now' : UInt64) (request' : Request V) (body' : IngestRequest) (row : AgentRow),
      state.store.agents.get? agentId.toInt64 = none →
      state'.store.agents.get? agentId'.toInt64 = some row → ¬Bears toStr request' row.token →
      (Ingest.route toStr state agentId now request body).answer =
        (Ingest.route toStr state' agentId' now' request' body').answer) := by
  refine ⟨fun p hp => ?_, fun hauth hread => ?_, fun state' agentId' now' request' body' row hnone hrow hwrong => ?_⟩
  · by_cases hauth : AgentAuthorized toStr state.store agentId request
    · rw [(IngestAux.route_of_authorized now body hauth).2.2] at hp
      obtain ⟨result, -, hsub⟩ := List.mem_filterMap.mp hp
      obtain ⟨rfl, hbelongs⟩ := IngestAux.of_submission hsub
      exact ⟨hauth, hbelongs⟩
    · rw [IngestAux.route_of_not_authorized hauth] at hp
      cases hp
  · obtain ⟨hans, hstate, hsubmitted⟩ :=
      IngestAux.route_of_authorized now body hauth
    obtain ⟨row, hrow, -⟩ := hauth
    obtain ⟨store, -, hpush⟩ := IngestAux.push_eq state now body hrow
    refine ⟨hans, ?_, ?_⟩
    · rw [hsubmitted, ← List.filterMap_eq_map, List.filterMap_filter]
      refine List.filterMap_congr fun r hr => ?_
      obtain ⟨m, hm⟩ := hread r hr
      exact IngestAux.submission_eq hm
    · rw [hstate, hsubmitted, hpush, Channel.sendAll_eq]
  · have hunknown : ¬AgentAuthorized toStr state.store agentId request := by
      rintro ⟨_, h, -⟩
      cases hnone.symm.trans h
    have hwrong' : ¬AgentAuthorized toStr state'.store agentId' request' := by
      rintro ⟨_, h, hb⟩
      cases hrow.symm.trans h
      exact hwrong hb
    rw [IngestAux.route_of_not_authorized hunknown, IngestAux.route_of_not_authorized hwrong']

namespace IngestAux

/-- A store with the monitors 1 and 2, of which 1 belongs to agent 1, whose token is `ab`. -/
def demoStore : Db where
  monitors := ⟨[⟨1, 0, "disk", "/", "host_agent_check", 30, "pending", some 1⟩, ⟨2, 1, "site", "http://x", "http", 30, "up", none⟩],
    by decide⟩
  checkResults := Table.empty
  agents := ⟨[⟨1, "edge", 0, "", "ab", none⟩], by decide⟩
  alertEvents := Table.empty
  inserted := 2

def demoState : AppState := ⟨demoStore, "human", ⟨1024, []⟩⟩

/-- The header `Authorization: Bearer` with a token. -/
def demoRequest (token : String) : Request (List UInt8) := ⟨[(.authorization, Str.asBytes ("Bearer " ++ token))]⟩

/-- Results for the agent's monitor, for the other one and for the agent's again. -/
def demoBody : IngestRequest :=
  ⟨[⟨⟨1, 0⟩, .success 5⟩, ⟨⟨2, 1⟩, .failure "down"⟩, ⟨⟨1, 0⟩, .unavailable "denied"⟩]⟩

end IngestAux

/-- An agent's two results for its own monitor are submitted and the one for another monitor is not; and an unknown agent is
answered like a wrong token. -/
theorem ingest_submits_own :
    (Ingest.route visibleAscii IngestAux.demoState 1 100 (IngestAux.demoRequest "ab") IngestAux.demoBody).submitted =
        [⟨⟨1, 0⟩, .success 5⟩, ⟨⟨1, 0⟩, .unavailable "denied"⟩] ∧
      (Ingest.route visibleAscii IngestAux.demoState 9 100 (IngestAux.demoRequest "ab") IngestAux.demoBody).answer =
        (Ingest.route visibleAscii IngestAux.demoState 1 100 (IngestAux.demoRequest "a") IngestAux.demoBody).answer := by
  have hrow : IngestAux.demoState.store.agents.get? (1 : UInt64).toInt64 = some ⟨1, "edge", 0, "", "ab", none⟩ := by
    decide +kernel
  have hauth : AgentAuthorized visibleAscii IngestAux.demoState.store 1 (IngestAux.demoRequest "ab") :=
    ⟨_, hrow, "ab", by decide +kernel, rfl⟩
  have hread : ∀ r ∈ IngestAux.demoBody.results,
      ∃ m, IngestAux.demoState.store.getMonitor r.monitorId.val = .ok m := by
    intro r hr
    have hok : (IngestAux.demoState.store.getMonitor r.monitorId.val).toOption.isSome := by
      revert r
      decide +kernel
    cases h : IngestAux.demoState.store.getMonitor r.monitorId.val with
    | error e => simp [h, Except.toOption] at hok
    | ok m => exact ⟨m, rfl⟩
  have hwrong : ¬Bears visibleAscii (IngestAux.demoRequest "a") "ab" := by
    rintro ⟨value, hv, he⟩
    rw [Str.asBytes_inj.mp he] at hv
    exact absurd hv (by decide +kernel)
  refine ⟨((ingest_only_own visibleAscii IngestAux.demoState 1 100 (IngestAux.demoRequest "ab") IngestAux.demoBody).2.1
    hauth hread).2.1.trans (by decide +kernel), ?_⟩
  exact (ingest_only_own visibleAscii IngestAux.demoState 9 100 (IngestAux.demoRequest "ab") IngestAux.demoBody).2.2
    IngestAux.demoState 1 100 (IngestAux.demoRequest "a") IngestAux.demoBody _ (by decide +kernel) hrow hwrong

end Monitra
