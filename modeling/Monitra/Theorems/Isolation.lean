import Monitra.Lemmas.Outside

/-!
# An agent's requests and the monitors of the others

Two runs of which the same is seen outside a domain are the same outside (`other_monitors_alike`), whatever the agent of the
domain asked for in either. What is seen has the batches that the store takes; which results share a batch says as much
(`other_monitors_alike_unspoiled`). The agent takes room in the channels that all agents share: a message of another agent that finds
one full is lost, and the agent can see to that (`pushes_crowded_out`, `other_monitors_not_alike`).
-/

namespace Monitra

open Runs

/-- The daemon from outside a domain: its steps, each telling what is seen of it. -/
def outsideStep (D : Domain) (cfg : EngineConfig) : System → Action → Option (System × List Seen) :=
  seeing (System.step cfg) (System.seen D cfg)

namespace IsolationAux

/-- What is the same outside a domain is so of every monitor there. -/
theorem alike_of_outside {D : Domain} {s t : System} (hview : s.outside D = t.outside D) {id : UInt64} (hid : D.has id = false) :
    s.db.status? id = t.db.status? id ∧
      (s.scheduler.registry.lookup id).map (·.flap) = (t.scheduler.registry.lookup id).map (·.flap) ∧
      ∀ r : CheckResult, r.monitorId.val = id → s.db.recorded r = t.db.recorded r := by
  refine ⟨?_, ?_, fun r hr => ?_⟩
  · have hdb : D.hideDb s.db = D.hideDb t.db := congrArg Outside.db hview
    rw [Db.status?, ← IsolationAux.row?_hideDb hid, hdb, IsolationAux.row?_hideDb hid, Db.status?]
  · have hreg := congrFun (congrArg Outside.registry hview) id
    simp only [System.outside, hid, Bool.false_eq_true, if_false] at hreg
    have hflap := congrArg (Option.map Prod.snd) hreg
    simpa only [Option.map_map, Function.comp_def, MonitorState.core] using hflap
  · have hresults := congrFun (congrArg Outside.results hview) r
    simp only [System.outside, hr, hid, Bool.false_eq_true, if_false] at hresults
    exact hresults

end IsolationAux

/-- Take two runs of which the same is seen outside a domain: the same requests of the other agents and of the users, the same
time, the same outcomes of probes, and the same steps of the engine for the other monitors, with its resyncs and with the batches
that the store takes and does not take. Whatever the domain's agent asked for in either, and whatever the engine did on account of
it, every monitor that never was the domain's has the same status, the same counters and the same results in both, as long as no
message about such a monitor found a channel full. -/
theorem other_monitors_alike {D : Domain} {cfg : EngineConfig} {k8sFactory : Option K8sCollectorFactory} {db : Db}
    {s t : System} {seen : List Seen}
    (h : Run (outsideStep D cfg) (fun s a => (D.covers s.db && s.roomy D cfg a) = true) (System.start cfg k8sFactory db) s seen)
    (h' : Run (outsideStep D cfg) (fun s a => (D.covers s.db && s.roomy D cfg a) = true) (System.start cfg k8sFactory db) t seen)
    (id : UInt64) (hid : D.has id = false) :
    s.db.status? id = t.db.status? id ∧
      (s.scheduler.registry.lookup id).map (·.flap) = (t.scheduler.registry.lookup id).map (·.flap) ∧
      ∀ r : CheckResult, r.monitorId.val = id → s.db.recorded r = t.db.recorded r := by
  have hview : s.outside D = t.outside D := by
    refine h.view_eq_view (I := IsolationAux.Apart D) h' (System.outside D) (fun v x => v.step D cfg x)
      (fun stale rest hw => by cases hw) ?_ ?_
    · intro s s' ev a hI hok hs
      obtain ⟨ev', hstep, -⟩ := seeing_eq_some hs
      exact IsolationAux.apart_step hI (Bool.and_eq_true_iff.mp hok).1 hstep
    · intro s s' ev a hI hok hs
      obtain ⟨ev', hstep, rfl⟩ := seeing_eq_some hs
      obtain ⟨hD, hroom⟩ := Bool.and_eq_true_iff.mp hok
      rw [IsolationAux.outside_step hI hD hroom hstep]
      cases System.seen D cfg s a <;> rfl
  exact IsolationAux.alike_of_outside hview hid

/-! ## Batches that the store takes -/

/-- What is seen of a step, when of a flush only the store's own failure is. -/
inductive Noticed where
  | step (x : Seen)
  | flush (fault : Bool)

def System.noticed (D : Domain) (cfg : EngineConfig) (s : System) : Action → Option Noticed
  | .writer (.flush fault _) => if (D.hideResults s.writer.batch).isEmpty then none else some (.flush fault)
  | a => (s.seen D cfg a).map .step

/-- A batch has no result of the domain's that makes the store refuse it: the monitors of those in it exist, and the table has rowids
for all. -/
def System.unspoiled (D : Domain) (s : System) : Action → Bool
  | .writer (.flush _ _) =>
    (s.writer.batch.all fun r => !D.has r.monitorId.val || (s.db.row? r.monitorId.val).isSome) &&
      decide (s.writer.batch.length < 2 ^ 63) &&
      s.db.checkResults.rows.all fun row => decide (row.id.toInt + s.writer.batch.length < 2 ^ 63)
  | _ => true

/-- A flush as it looks from outside: the store takes the batch when it does not fail and the monitors of the results exist. -/
def Outside.judge (v : Outside) : Noticed → Seen
  | .step x => x
  | .flush fault => .flushed (!fault && v.batch.all fun r => (v.db.row? r.monitorId.val).isSome)

namespace IsolationAux

/-- A batch that has room is taken exactly when the monitors of its results exist. -/
theorem isOk_insertCheckResults {db : Db} {pick : List Int64 → Int64} {batch : List CheckResult} (hlen : batch.length < 2 ^ 63)
    (hroom : ∀ row ∈ db.checkResults.rows, row.id.toInt + batch.length < 2 ^ 63) :
    (db.insertCheckResults pick batch).isOk = batch.all fun r => (db.row? r.monitorId.val).isSome := by
  cases hins : db.insertCheckResults pick batch with
  | ok db' =>
    refine (List.all_eq_true.mpr ?_).symm
    exact (Db.insertCheckResults_eq_ok hins).2.2.2.1
  | error e =>
    refine (List.all_eq_false.mpr ?_).symm
    rcases Db.insertCheckResults_eq_error hins with rfl | ⟨-, r, hr, hnone⟩
    · have hle : 2 ^ 63 ≤ (2 ^ 63 - 1 - batch.length) + batch.length := by
        refine Db.le_of_insertCheckResults_full (fun row hrow => ?_) hins
        have hrow := hroom row hrow
        omega
      omega
    · exact ⟨r, hr, by simp [hnone]⟩

/-- An unspoiled batch is taken when the results outside the domain let it. -/
theorem seen_eq_judge {D : Domain} {cfg : EngineConfig} {s : System} {a : Action} (h : s.unspoiled D a = true) :
    s.seen D cfg a = (s.noticed D cfg a).map (s.outside D).judge := by
  unfold System.noticed
  split
  · rename_i fault pick
    simp only [System.seen, System.writerSeen]
    split
    · rfl
    · simp only [System.unspoiled, Bool.and_eq_true, decide_eq_true_eq, List.all_eq_true] at h
      obtain ⟨⟨hown, hlen⟩, hroom⟩ := h
      have hbatch : (s.writer.batch.all fun r => (s.db.row? r.monitorId.val).isSome) =
          (D.hideResults s.writer.batch).all fun r => ((D.hideDb s.db).row? r.monitorId.val).isSome := by
        rw [Bool.eq_iff_iff, List.all_eq_true, List.all_eq_true]
        constructor
        · intro hall r hr
          obtain ⟨hr, hid⟩ := List.mem_filter.mp hr
          rw [row?_hideDb (Bool.not_eq_true' _ ▸ hid)]
          exact hall r hr
        · intro hall r hr
          cases hid : D.has r.monitorId.val with
          | true => simpa [hid] using hown r hr
          | false =>
            rw [← row?_hideDb hid]
            exact hall r (List.mem_filter.mpr ⟨hr, by simp [hid]⟩)
      have hflush : (answer fault (s.db.insertCheckResults pick s.writer.batch)).isOk =
          (!fault && s.writer.batch.all fun r => (s.db.row? r.monitorId.val).isSome) := by
        rw [← isOk_insertCheckResults hlen hroom]
        cases fault <;> rfl
      rw [hflush, hbatch]
      rfl
  · rw [Option.map_map]
    exact (Option.map_id' (x := s.seen D cfg a)).symm

end IsolationAux

/-- What comes of the writer's batches need not be the same in both runs for that, only when the store fails: it is, as long as the
results of the domain that share a batch with others are of monitors that exist. -/
theorem other_monitors_alike_unspoiled {D : Domain} {cfg : EngineConfig} {k8sFactory : Option K8sCollectorFactory} {db : Db}
    {s t : System} {noticed : List Noticed}
    (h : Run (seeing (System.step cfg) (System.noticed D cfg))
      (fun s a => (D.covers s.db && s.roomy D cfg a && s.unspoiled D a) = true) (System.start cfg k8sFactory db) s noticed)
    (h' : Run (seeing (System.step cfg) (System.noticed D cfg))
      (fun s a => (D.covers s.db && s.roomy D cfg a && s.unspoiled D a) = true) (System.start cfg k8sFactory db) t noticed)
    (id : UInt64) (hid : D.has id = false) :
    s.db.status? id = t.db.status? id ∧
      (s.scheduler.registry.lookup id).map (·.flap) = (t.scheduler.registry.lookup id).map (·.flap) ∧
      ∀ r : CheckResult, r.monitorId.val = id → s.db.recorded r = t.db.recorded r := by
  have hview : s.outside D = t.outside D := by
    refine h.view_eq_view (I := IsolationAux.Apart D) h' (System.outside D) (fun v x => v.step D cfg (v.judge x))
      (fun stale rest hw => by cases hw) ?_ ?_
    · intro s s' ev a hI hok hs
      obtain ⟨ev', hstep, -⟩ := seeing_eq_some hs
      exact IsolationAux.apart_step hI (Bool.and_eq_true_iff.mp (Bool.and_eq_true_iff.mp hok).1).1 hstep
    · intro s s' ev a hI hok hs
      obtain ⟨ev', hstep, rfl⟩ := seeing_eq_some hs
      obtain ⟨hok, hunspoiled⟩ := Bool.and_eq_true_iff.mp hok
      obtain ⟨hD, hroom⟩ := Bool.and_eq_true_iff.mp hok
      rw [IsolationAux.outside_step hI hD hroom hstep, IsolationAux.seen_eq_judge hunspoiled]
      cases System.noticed D cfg s a <;> rfl
  exact IsolationAux.alike_of_outside hview hid

/-! ## A crowded channel -/

/-- Two agents, with a monitor each. -/
def twoAgents : Db where
  monitors := ⟨[⟨1, 0, "api", "http://api", "http", 60, "up", some 1⟩, ⟨2, 1, "web", "http://web", "http", 60, "up", some 2⟩],
    by decide⟩
  checkResults := Table.empty
  agents := ⟨[⟨1, "edge", 0, "", "t", none⟩, ⟨2, "core", 0, "", "u", none⟩], by decide⟩
  alertEvents := Table.empty
  inserted := 2

/-- The first of them. -/
def firstAgent : Domain := ⟨1, fun id => id = 1⟩

namespace IsolationAux

/-- The scheduler waits, the results pushed and not taken up are `queue`, and the second monitor has the counters `flap`. -/
structure Contested (s : System) (queue : List PushedResult) (flap : FlapState) : Prop where
  db : s.db = twoAgents
  pc : s.pc = .select
  draining : s.draining = false
  pushRx : s.pushRx = queue
  held : (1, ⟨1, 0⟩) ∈ s.held ∧ (2, ⟨2, 1⟩) ∈ s.held
  first : ∃ state, s.scheduler.registry.lookup 1 = some state ∧ state.monitor.status = .up
  second : ∃ state, s.scheduler.registry.lookup 2 = some state ∧ state.monitor.status = .up ∧ state.flap = flap

/-- Steps as the first agent's domain sees them, from states it covers. -/
abbrev Contest (cfg : EngineConfig) (s t : System) (seen : List Seen) : Prop :=
  Run (outsideStep firstAgent cfg) (fun s _ => firstAgent.covers s.db = true) s t seen

variable {cfg : EngineConfig} {s : System} {queue : List PushedResult} {flap : FlapState}

theorem Contested.covers (h : Contested s queue flap) : firstAgent.covers s.db = true := by
  rw [h.db]
  decide

theorem contest_of_step (seen : Option Seen) {a : Action} {s' : System} {ev : List Event}
    (hD : firstAgent.covers s.db = true) (hs : s.step cfg a = some (s', ev)) (hseen : s.seen firstAgent cfg a = seen) :
    Contest cfg s s' seen.toList := by
  refine Run.single (a := a) hD ?_
  rw [outsideStep, seeing, hs, hseen]
  rfl

variable (cfg)

/-- The daemon after its first resync, with a check of its own held by each agent. -/
theorem contested_start :
    ∃ s, Contest cfg (System.start cfg none twoAgents) s [.listMonitors true, .listReturned] ∧
      Contested s [] FlapState.default := by
  let actions : List Action :=
    [.scheduler (.listMonitors false), .scheduler .listReturned, .agent (.configure 1 1), .agent (.configure 2 2)]
  let x := after (outsideStep firstAgent cfg) (fun s _ => firstAgent.covers s.db) (System.start cfg none twoAgents) actions
  have h : Contest cfg (System.start cfg none twoAgents) x.1 x.2 := run_after rfl
  have hheld : x.1.held = [(2, ⟨2, 1⟩), (1, ⟨1, 0⟩)] := rfl
  refine ⟨x.1, h, rfl, rfl, rfl, rfl, ?_, ⟨_, rfl, rfl⟩, ⟨_, rfl, rfl, rfl⟩⟩
  rw [hheld]
  decide

/-- A push of one of the agents. -/
theorem Contested.push (h : Contested s queue flap) {agentId : UInt64} {m : MonitorId} (hheld : (agentId, m) ∈ s.held)
    (hacc : s.accepts agentId m = true) (outcome : ProbeOutcome) :
    ∃ s', Contest cfg s s' (System.agentSeen firstAgent (.ingest agentId m outcome)).toList ∧
      Contested s' (Channel.trySend cfg.ingestCapacity queue ⟨m, outcome⟩) flap := by
  obtain ⟨monitor, hm, hlink⟩ := accepts_iff.mp hacc
  refine ⟨_, contest_of_step _ h.covers (System.step_ingest hheld hm hlink outcome) rfl,
    ⟨h.db, h.pc, h.draining, ?_, h.held, h.first, h.second⟩⟩
  simp only [h.pushRx]

theorem Contested.push_first (h : Contested s queue flap) (outcome : ProbeOutcome) :
    ∃ s', Contest cfg s s' [] ∧ Contested s' (Channel.trySend cfg.ingestCapacity queue ⟨⟨1, 0⟩, outcome⟩) flap := by
  refine h.push cfg h.held.1 ?_ outcome
  rw [System.accepts, h.db]
  rfl

theorem Contested.push_second (h : Contested s queue flap) (outcome : ProbeOutcome) :
    ∃ s', Contest cfg s s' [.ingest 2 ⟨2, 1⟩ outcome] ∧
      Contested s' (Channel.trySend cfg.ingestCapacity queue ⟨⟨2, 1⟩, outcome⟩) flap := by
  refine h.push cfg h.held.2 ?_ outcome
  rw [System.accepts, h.db]
  rfl

/-- The scheduler takes up a pushed check that changes no status, and counts it. -/
theorem Contested.take {p : PushedResult} (h : Contested s (p :: queue) flap) {state : MonitorState} {success : Bool}
    {message : Option String} {latencyMs : UInt64} (hr : s.scheduler.registry.lookup p.monitorId.val = some state)
    (hv : (Handled.pushed p).verdict = .applied success message latencyMs)
    (ho : (state.flap.observe success state.monitor.status).2 = none) :
    ∃ s₁ s₂ ev, s.step cfg (.scheduler .recv) = some (s₁, []) ∧ s₁.pc = .handling (.pushed p) ∧ s₁.db = s.db ∧
      s₁.step cfg (.scheduler .handle) = some (s₂, ev) ∧ s₂.db = s.db ∧ s₂.pc = .select ∧ s₂.draining = s.draining ∧
      s₂.pushRx = queue ∧ s₂.held = s.held ∧
      s₂.scheduler.registry = s.scheduler.registry.insert p.monitorId.val { state with flap := state.flap.count success } := by
  obtain ⟨hpersist, hreg⟩ := Scheduler.handle_counted s.wall (.pushed p) hr hv ho
  refine ⟨_, _, _, System.step_recv h.pc h.draining h.pushRx (by rw [hr]; rfl), rfl, rfl, System.step_handle rfl, rfl, ?_, rfl,
    rfl, rfl, hreg⟩
  simp only [hpersist, Option.elim_none]

/-- A success of the first monitor is taken up unseen. -/
theorem Contested.take_first (h : Contested s (⟨⟨1, 0⟩, .success 0⟩ :: queue) flap) :
    ∃ s', Contest cfg s s' [] ∧ Contested s' queue flap := by
  obtain ⟨state, hr, hup⟩ := h.first
  obtain ⟨other, hr', hup', hflap⟩ := h.second
  have ho : (state.flap.observe true state.monitor.status).2 = none := by simp [FlapState.observe_success, hup]
  obtain ⟨s₁, s₂, ev, hs₁, hpc₁, hdb₁, hs₂, hdb, hpc, hdraining, hpush, hheld, hreg⟩ := h.take cfg hr rfl ho
  have hrun₁ : Contest cfg s s₁ [] := by
    refine contest_of_step none h.covers hs₁ ?_
    simp only [System.seen, System.schedulerSeen, h.pushRx, hr, Option.isSome_some, if_true]
    rfl
  have hrun₂ : Contest cfg s₁ s₂ [] := by
    refine contest_of_step none (hdb₁ ▸ h.covers) hs₂ ?_
    simp only [System.seen, System.schedulerSeen, hpc₁]
    rfl
  refine ⟨s₂, hrun₁.trans hrun₂, hdb.trans h.db, hpc, hdraining.trans h.draining, hpush, hheld ▸ h.held, ?_, ?_⟩
  · refine ⟨{ state with flap := state.flap.count true }, ?_, hup⟩
    rw [hreg]
    exact HashMap.lookup_insert _ _ _ _
  · refine ⟨other, ?_, hup', hflap⟩
    rw [hreg]
    exact (HashMap.lookup_insert _ _ _ _).trans hr'

/-- A check of the second monitor is seen to be taken up, and counted. -/
theorem Contested.take_second {outcome : ProbeOutcome} {success : Bool} {message : Option String} {latencyMs : UInt64}
    (h : Contested s (⟨⟨2, 1⟩, outcome⟩ :: queue) flap)
    (hv : (Handled.pushed ⟨⟨2, 1⟩, outcome⟩).verdict = .applied success message latencyMs)
    (ho : (flap.observe success .up).2 = none) :
    ∃ s', Contest cfg s s' [.recv, .handle] ∧ Contested s' queue (flap.count success) := by
  obtain ⟨first, hr', hup'⟩ := h.first
  obtain ⟨state, hr, hup, rfl⟩ := h.second
  obtain ⟨s₁, s₂, ev, hs₁, hpc₁, hdb₁, hs₂, hdb, hpc, hdraining, hpush, hheld, hreg⟩ := h.take cfg hr hv (by rw [hup]; exact ho)
  have hrun₁ : Contest cfg s s₁ [.recv] := by
    refine contest_of_step (some .recv) h.covers hs₁ ?_
    simp only [System.seen, System.schedulerSeen, h.pushRx]
    rfl
  have hrun₂ : Contest cfg s₁ s₂ [.handle] := by
    refine contest_of_step (some .handle) (hdb₁ ▸ h.covers) hs₂ ?_
    simp only [System.seen, System.schedulerSeen, hpc₁]
    rfl
  refine ⟨s₂, hrun₁.trans hrun₂, hdb.trans h.db, hpc, hdraining.trans h.draining, hpush, hheld ▸ h.held, ?_, ?_⟩
  · refine ⟨first, ?_, hup'⟩
    rw [hreg]
    exact (HashMap.lookup_insert _ _ _ _).trans hr'
  · refine ⟨{ state with flap := state.flap.count success }, ?_, hup, rfl⟩
    rw [hreg]
    exact HashMap.lookup_insert _ _ _ _

/-- The first agent pushes until the channel holds so many of its results. -/
theorem contested_flood (h : Contested s [] flap) (n : Nat) (hn : n ≤ cfg.ingestCapacity) :
    ∃ s', Contest cfg s s' [] ∧ Contested s' (List.replicate n ⟨⟨1, 0⟩, .success 0⟩) flap := by
  have hturns : ∃ s' seen, Contest cfg s s' seen ∧
      (seen = [] ∧ Contested s' (List.replicate n ⟨⟨1, 0⟩, .success 0⟩) flap) := by
    refine exists_run_turns (P := fun n s seen => seen = [] ∧ Contested s (List.replicate n ⟨⟨1, 0⟩, .success 0⟩) flap)
      ⟨rfl, h⟩ ?_
    rintro k hk s₁ seen ⟨rfl, h₁⟩
    obtain ⟨s₂, hrun₂, h₂⟩ := h₁.push_first cfg (.success 0)
    rw [Channel.trySend_of_lt (by rw [List.length_replicate]; omega), ← List.replicate_succ'] at h₂
    exact ⟨s₂, [], hrun₂, rfl, h₂⟩
  obtain ⟨s', seen, hrun, rfl, h'⟩ := hturns
  exact ⟨s', hrun, h'⟩

/-- The scheduler takes them all up. -/
theorem contested_drain : ∀ (n : Nat) {s : System}, Contested s (List.replicate n ⟨⟨1, 0⟩, .success 0⟩ ++ queue) flap →
    ∃ s', Contest cfg s s' [] ∧ Contested s' queue flap := by
  intro n
  induction n with
  | zero => exact fun {s} h => ⟨s, Run.nil, h⟩
  | succ n ih =>
    intro s h
    obtain ⟨s₁, hrun₁, h₁⟩ := Contested.take_first cfg h
    obtain ⟨s₂, hrun₂, h₂⟩ := ih h₁
    exact ⟨s₂, hrun₁.trans hrun₂, h₂⟩

end IsolationAux

/-- Without room for every message the other monitors are not apart: the first agent fills the channel, and a push of the second
is lost. The counters of the second monitor then have the failure that came after it, and without the first agent's pushes the
success. -/
theorem pushes_crowded_out {cfg : EngineConfig} (hroom : 2 ≤ cfg.ingestCapacity) :
    ∃ (s t : System) (seen : List Seen),
      Run (outsideStep firstAgent cfg) (fun s _ => firstAgent.covers s.db = true) (System.start cfg none twoAgents) s seen ∧
        Run (outsideStep firstAgent cfg) (fun s _ => firstAgent.covers s.db = true) (System.start cfg none twoAgents) t seen ∧
        (s.scheduler.registry.lookup 2).map (·.flap) ≠ (t.scheduler.registry.lookup 2).map (·.flap) := by
  obtain ⟨s₀, hrun₀, h₀⟩ := IsolationAux.contested_start cfg
  -- with the first agent's pushes: the success of the second finds the channel full
  obtain ⟨s₁, hrun₁, h₁⟩ := IsolationAux.contested_flood cfg h₀ cfg.ingestCapacity le_rfl
  obtain ⟨s₂, hrun₂, h₂⟩ := h₁.push_second cfg (.success 0)
  rw [Channel.trySend_of_le (by rw [List.length_replicate])] at h₂
  obtain ⟨n, hn⟩ : ∃ n, cfg.ingestCapacity = n + 1 := ⟨cfg.ingestCapacity - 1, by omega⟩
  rw [hn] at h₂
  obtain ⟨s₃, hrun₃, h₃⟩ := IsolationAux.Contested.take_first cfg h₂
  obtain ⟨s₄, hrun₄, h₄⟩ := h₃.push_second cfg (.failure "")
  have hlt : (List.replicate n (⟨⟨1, 0⟩, .success 0⟩ : PushedResult)).length < cfg.ingestCapacity := by
    rw [List.length_replicate]
    omega
  rw [Channel.trySend_of_lt hlt] at h₄
  obtain ⟨s₅, hrun₅, h₅⟩ := IsolationAux.contested_drain cfg n h₄
  obtain ⟨s, hrun₆, h₆⟩ := h₅.take_second cfg rfl rfl
  -- without them
  obtain ⟨t₁, hrun₁', h₁'⟩ := h₀.push_second cfg (.success 0)
  rw [Channel.trySend_of_lt (Nat.lt_of_lt_of_le (by decide) hroom)] at h₁'
  obtain ⟨t₂, hrun₂', h₂'⟩ := h₁'.push_second cfg (.failure "")
  rw [Channel.trySend_of_lt (Nat.lt_of_lt_of_le (by decide) hroom)] at h₂'
  obtain ⟨t, hrun₃', h₃'⟩ := h₂'.take_second cfg rfl rfl
  obtain ⟨state, hstate, -, hflap⟩ := h₆.second
  obtain ⟨state', hstate', -, hflap'⟩ := h₃'.second
  refine ⟨s, t, _, (((((hrun₀.trans hrun₁).trans hrun₂).trans hrun₃).trans hrun₄).trans hrun₅).trans hrun₆,
    ((hrun₀.trans hrun₁').trans hrun₂').trans hrun₃', ?_⟩
  rw [hstate, hstate', Option.map_some, Option.map_some, hflap, hflap']
  decide

/-- So two runs of which the same is seen can differ outside the domain. -/
theorem other_monitors_not_alike :
    ¬∀ (D : Domain) (cfg : EngineConfig) (k8sFactory : Option K8sCollectorFactory) (db : Db) (s t : System) (seen : List Seen),
      Run (outsideStep D cfg) (fun s _ => D.covers s.db = true) (System.start cfg k8sFactory db) s seen →
      Run (outsideStep D cfg) (fun s _ => D.covers s.db = true) (System.start cfg k8sFactory db) t seen →
      ∀ id, D.has id = false →
        s.db.status? id = t.db.status? id ∧
          (s.scheduler.registry.lookup id).map (·.flap) = (t.scheduler.registry.lookup id).map (·.flap) ∧
          ∀ r : CheckResult, r.monitorId.val = id → s.db.recorded r = t.db.recorded r := by
  intro h
  obtain ⟨s, t, seen, hs, ht, hne⟩ := @pushes_crowded_out EngineConfig.default (by decide)
  exact hne (h _ _ _ _ s t seen hs ht 2 rfl).2.1

/-- The first agent pushes a result and the second one too, or the second alone; the results are taken up and stored. -/
def pushesOf (first : Bool) : List Action :=
  [.scheduler (.listMonitors false), .scheduler .listReturned, .agent (.configure 1 1), .agent (.configure 2 2)] ++
    (if first then [.agent (.ingest 1 ⟨1, 0⟩ (.failure "")), .scheduler .recv, .scheduler .handle, .writer .recv] else []) ++
    [.agent (.ingest 2 ⟨2, 1⟩ (.success 7)), .scheduler .recv, .scheduler .handle, .writer .recv, .writer .tick,
      .writer (.flush false fun _ => 0)]

/-- The run of those actions. -/
def runOf (first : Bool) : System × List Seen :=
  after (outsideStep firstAgent EngineConfig.default)
    (fun s a => firstAgent.covers s.db && s.roomy firstAgent EngineConfig.default a)
    (System.start EngineConfig.default none twoAgents) (pushesOf first)

/-- What is seen of either. -/
def pushesSeen : List Seen :=
  [.listMonitors true, .listReturned, .ingest 2 ⟨2, 1⟩ (.success 7), .recv, .handle, .writerRecv, .flushed true]

theorem runOf_seen (first : Bool) : (runOf first).2 = pushesSeen := by cases first <;> rfl

theorem run_runOf (first : Bool) :
    Run (outsideStep firstAgent EngineConfig.default)
      (fun s a => (firstAgent.covers s.db && s.roomy firstAgent EngineConfig.default a) = true)
      (System.start EngineConfig.default none twoAgents) (runOf first).1 pushesSeen := by
  rw [← runOf_seen first]
  exact run_after (by cases first <;> decide +kernel)

/-- The second agent's monitor has the same result recorded in both. -/
theorem first_agent_unnoticed :
    (runOf true).1.db.checkResults.rows.length = 2 ∧ (runOf false).1.db.checkResults.rows.length = 1 ∧
      ∀ r : CheckResult, r.monitorId.val = 2 → (runOf true).1.db.recorded r = (runOf false).1.db.recorded r :=
  ⟨by decide +kernel, by decide +kernel, (other_monitors_alike (run_runOf true) (run_runOf false) 2 rfl).2.2⟩

end Monitra
