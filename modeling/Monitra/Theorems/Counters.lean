import Monitra.Lemmas.Steps
import Monitra.Library.Runs
import Monitra.Library.Streak

/-!
# The counters against counters without a bound

Every outcome counts, also while the status no longer changes, and nothing stops a counter at its largest value. So it is the
streak of equal outcomes that decides: one of 2^32 takes a counter back to zero, below both thresholds (`flap_exact_iff`). The
daemon makes such calls: an agent can push as often as it likes (`flap_not_exact`).
-/

namespace Monitra

open Runs Streak

/-! ## The rule with counters without a bound -/

/-- The counters of `FlapState`, without a bound. -/
structure UnboundedFlap where
  consecutiveSuccess : Nat
  consecutiveFailure : Nat
  deriving DecidableEq, Repr

namespace UnboundedFlap

def default : UnboundedFlap := ⟨0, 0⟩

def count (f : UnboundedFlap) (success : Bool) : UnboundedFlap :=
  if success then { consecutiveFailure := 0, consecutiveSuccess := f.consecutiveSuccess + 1 }
  else { consecutiveSuccess := 0, consecutiveFailure := f.consecutiveFailure + 1 }

def observe (f : UnboundedFlap) (success : Bool) (current : MonitorStatus) : UnboundedFlap × Option MonitorStatus :=
  let f := f.count success
  match success, current with
  | true, .up => (f, none)
  | true, _ => (f, if UP_THRESHOLD.toNat ≤ f.consecutiveSuccess then some .up else none)
  | false, .down => (f, none)
  | false, _ => (f, if DOWN_THRESHOLD.toNat ≤ f.consecutiveFailure then some .down else none)

/-- The counters after some calls of `observe`, the latest last. -/
def after (calls : List (Bool × MonitorStatus)) : UnboundedFlap := calls.foldl (fun f call => (f.observe call.1 call.2).1) default

end UnboundedFlap

/-! ## Calls of `observe` -/

namespace FlapState

/-- The counters after some calls of `observe`, the latest last. -/
def after (calls : List (Bool × MonitorStatus)) : FlapState := calls.foldl (fun f call => (f.observe call.1 call.2).1) default

/-- The counter that an outcome counts up is at its largest value. -/
def overflows (f : FlapState) (success : Bool) : Bool :=
  UInt32.size ≤ (if success then f.consecutiveSuccess else f.consecutiveFailure).toNat + 1

end FlapState

/-- What a call of `observe` is to do after others: count without overflow, and return what the rule without a bound does. -/
structure CallExact (before : List (Bool × MonitorStatus)) (call : Bool × MonitorStatus) : Prop where
  fits : (FlapState.after before).overflows call.1 = false
  same : ((FlapState.after before).observe call.1 call.2).2 = ((UnboundedFlap.after before).observe call.1 call.2).2

/-- Every call of a sequence is exact. -/
def FlapExact (calls : List (Bool × MonitorStatus)) : Prop :=
  ∀ before call rest, calls = before ++ call :: rest → CallExact before call

namespace CountersAux

/-- The outcomes of calls. -/
def outcomes (calls : List (Bool × MonitorStatus)) : List Bool := calls.map (·.1)

theorem outcomes_snoc (calls : List (Bool × MonitorStatus)) (call : Bool × MonitorStatus) :
    outcomes (calls ++ [call]) = outcomes calls ++ [call.1] := by
  rw [outcomes, List.map_append]
  rfl

theorem unbounded_observe_fst (f : UnboundedFlap) (success : Bool) (current : MonitorStatus) :
    (f.observe success current).1 = f.count success := by
  cases success <;> cases current <;> rfl

theorem after_snoc (calls : List (Bool × MonitorStatus)) (call : Bool × MonitorStatus) :
    FlapState.after (calls ++ [call]) = (FlapState.after calls).count call.1 := by
  rw [FlapState.after, List.foldl_append, List.foldl_cons, List.foldl_nil, FlapState.observe_fst]
  rfl

theorem unbounded_after_snoc (calls : List (Bool × MonitorStatus)) (call : Bool × MonitorStatus) :
    UnboundedFlap.after (calls ++ [call]) = (UnboundedFlap.after calls).count call.1 := by
  rw [UnboundedFlap.after, List.foldl_append, List.foldl_cons, List.foldl_nil, unbounded_observe_fst]
  rfl

/-- Without a bound the counters are the streaks of the outcomes. -/
theorem unbounded_after (calls : List (Bool × MonitorStatus)) :
    UnboundedFlap.after calls = ⟨streak true (outcomes calls), streak false (outcomes calls)⟩ := by
  induction calls using List.reverseRecOn with
  | nil => rfl
  | append_singleton calls call ih =>
    rw [unbounded_after_snoc, outcomes_snoc, streak_snoc, streak_snoc, ih]
    cases call.1 <;> simp [UnboundedFlap.count]

/-- The counters are the streaks modulo 2^32. -/
theorem toNat_after (calls : List (Bool × MonitorStatus)) :
    (FlapState.after calls).consecutiveSuccess.toNat = streak true (outcomes calls) % UInt32.size ∧
      (FlapState.after calls).consecutiveFailure.toNat = streak false (outcomes calls) % UInt32.size := by
  induction calls using List.reverseRecOn with
  | nil => exact ⟨rfl, rfl⟩
  | append_singleton calls call ih =>
    rw [after_snoc, outcomes_snoc, streak_snoc, streak_snoc]
    cases call.1
    · simp [FlapState.count, ih.2]
    · simp [FlapState.count, ih.1]

/-! ### One call -/

/-- The status that an outcome moves to, and the streak it takes. -/
def moved (success : Bool) : MonitorStatus := if success then .up else .down

def threshold (success : Bool) : Nat := if success then UP_THRESHOLD.toNat else DOWN_THRESHOLD.toNat

/-- The counter of an outcome. -/
theorem toNat_counter (calls : List (Bool × MonitorStatus)) (success : Bool) :
    (if success then (FlapState.after calls).consecutiveSuccess else (FlapState.after calls).consecutiveFailure).toNat =
      streak success (outcomes calls) % UInt32.size := by
  cases success
  · exact (toNat_after calls).2
  · exact (toNat_after calls).1

/-- A call moves the status once the streak with its own outcome, modulo 2^32, is at the threshold. -/
theorem observe_after (before : List (Bool × MonitorStatus)) (call : Bool × MonitorStatus) :
    ((FlapState.after before).observe call.1 call.2).2 =
      if call.2 ≠ moved call.1 ∧ threshold call.1 ≤ streak call.1 (outcomes (before ++ [call])) % UInt32.size then
        some (moved call.1)
      else none := by
  obtain ⟨success, current⟩ := call
  have hcounter := toNat_counter (before ++ [(success, current)]) success
  rw [after_snoc] at hcounter
  cases success
  · rw [FlapState.observe_failure, ← hcounter]
    simp [moved, threshold, UInt32.le_iff_toNat_le]
  · rw [FlapState.observe_success, ← hcounter]
    simp [moved, threshold, UInt32.le_iff_toNat_le]

/-- Without a bound it is the streak itself. -/
theorem unbounded_observe_after (before : List (Bool × MonitorStatus)) (call : Bool × MonitorStatus) :
    ((UnboundedFlap.after before).observe call.1 call.2).2 =
      if call.2 ≠ moved call.1 ∧ threshold call.1 ≤ streak call.1 (outcomes (before ++ [call])) then some (moved call.1)
      else none := by
  obtain ⟨success, current⟩ := call
  have hafter := unbounded_after (before ++ [(success, current)])
  rw [unbounded_after_snoc] at hafter
  cases success
  · have hcounter := congrArg UnboundedFlap.consecutiveFailure hafter
    cases current <;> simp [UnboundedFlap.observe, moved, threshold, hcounter]
  · have hcounter := congrArg UnboundedFlap.consecutiveSuccess hafter
    cases current <;> simp [UnboundedFlap.observe, moved, threshold, hcounter]

/-- The streak with the outcome of a call. -/
theorem streak_call (before : List (Bool × MonitorStatus)) (call : Bool × MonitorStatus) :
    streak call.1 (outcomes (before ++ [call])) = streak call.1 (outcomes before) + 1 := by
  rw [outcomes_snoc, streak_snoc, if_pos rfl]

/-- A call is exact while the streak with its outcome is below 2^32. -/
theorem callExact_of_lt {before : List (Bool × MonitorStatus)} {call : Bool × MonitorStatus}
    (h : streak call.1 (outcomes (before ++ [call])) < UInt32.size) : CallExact before call := by
  constructor
  · rw [streak_call] at h
    rw [FlapState.overflows, decide_eq_false_iff_not, toNat_counter, Nat.mod_eq_of_lt (Nat.lt_of_succ_lt h)]
    exact Nat.not_le.mpr h
  · rw [observe_after, unbounded_observe_after, Nat.mod_eq_of_lt h]

/-- A call that does not overflow leaves a streak below 2^32. -/
theorem lt_of_fits {before : List (Bool × MonitorStatus)} {call : Bool × MonitorStatus}
    (hbefore : streak call.1 (outcomes before) < UInt32.size) (hfits : (FlapState.after before).overflows call.1 = false) :
    streak call.1 (outcomes (before ++ [call])) < UInt32.size := by
  rw [FlapState.overflows, decide_eq_false_iff_not, toNat_counter, Nat.mod_eq_of_lt hbefore] at hfits
  rw [streak_call]
  exact Nat.lt_of_not_le hfits

/-! ### Sequences of calls -/

/-- A point of the outcomes is a point of the calls. -/
theorem exists_prefix {calls : List (Bool × MonitorStatus)} {before : List Bool} (h : before <+: outcomes calls) :
    ∃ before', before' <+: calls ∧ before = outcomes before' := by
  refine ⟨calls.take before.length, List.take_prefix _ _, ?_⟩
  rw [outcomes, List.map_take]
  exact List.prefix_iff_eq_take.mp h

/-- In an exact sequence every streak is below 2^32. -/
theorem streak_lt_of_exact {calls : List (Bool × MonitorStatus)} (h : FlapExact calls) (success : Bool)
    (before : List (Bool × MonitorStatus)) : before <+: calls → streak success (outcomes before) < UInt32.size := by
  induction before using List.reverseRecOn with
  | nil => exact fun _ => Nat.zero_lt_succ _
  | append_singleton before call ih =>
    rintro ⟨rest, rfl⟩
    have hcall : CallExact before call := h before call rest (by rw [List.append_assoc, List.singleton_append])
    have hbefore := ih ⟨call :: rest, by rw [List.append_assoc, List.singleton_append]⟩
    by_cases hsame : call.1 = success
    · subst hsame
      exact lt_of_fits hbefore hcall.fits
    · rw [outcomes_snoc, streak_snoc, if_neg hsame]
      exact Nat.zero_lt_succ _

end CountersAux

/-! ## The calls that the daemon makes -/

namespace System

/-- The call of `observe` that a step makes for a monitor: the outcome, and the status that the entry has. -/
def observeCall (id : UInt64) (s : System) : Action → Option (Bool × MonitorStatus)
  | .scheduler .handle =>
    match s.pc with
    | .handling cause =>
      match cause.verdict, s.scheduler.registry.lookup id with
      | .applied success _ _, some state => if cause.monitorId.val = id then some (success, state.monitor.status) else none
      | _, _ => none
    | _ => none
  | _ => none

/-- The calls for the entry of a monitor since it was made. -/
def followCalls (id : UInt64) (s : System) (calls : List (Bool × MonitorStatus)) (a : Action) : List (Bool × MonitorStatus) :=
  if (s.scheduler.registry.lookup id).isNone then [] else calls ++ (s.observeCall id a).toList

end System

/-- A run of the daemon, with the calls for the entry of a monitor. -/
abbrev CallsRun (cfg : EngineConfig) (id : UInt64) :
    System × List (Bool × MonitorStatus) → System × List (Bool × MonitorStatus) → List Event → Prop :=
  Run (beside (System.step cfg) (System.followCalls id)) fun x a => always x a = true

/-- A sequence of calls that the daemon makes for an entry in some run. -/
def Admitted (calls : List (Bool × MonitorStatus)) : Prop :=
  ∃ (cfg : EngineConfig) (k8sFactory : Option K8sCollectorFactory) (db : Db) (id : UInt64) (s : System) (log : List Event),
    CallsRun cfg id (System.start cfg k8sFactory db, []) (s, calls) log

namespace CountersAux

open Scheduler

variable {cfg : EngineConfig} {id : UInt64} {s s' : System} {calls : List (Bool × MonitorStatus)}

/-! ### The counters of an entry -/

theorem observeCall_of_stale {cause : Handled} {message : String} (hpc : s.pc = .handling cause)
    (hv : cause.verdict = .stale message) : s.observeCall id (.scheduler .handle) = none := by
  simp only [System.observeCall, hpc, hv]

theorem observeCall_of_ne {cause : Handled} (hpc : s.pc = .handling cause) (hid : cause.monitorId.val ≠ id) :
    s.observeCall id (.scheduler .handle) = none := by
  simp only [System.observeCall, hpc, if_neg hid]
  split
  · rfl
  · rfl

theorem observeCall_of_applied {cause : Handled} {success : Bool} {message : Option String} {latencyMs : UInt64}
    {state : MonitorState} (hpc : s.pc = .handling cause) (hv : cause.verdict = .applied success message latencyMs)
    (hr : s.scheduler.registry.lookup cause.monitorId.val = some state) :
    s.observeCall cause.monitorId.val (.scheduler .handle) = some (success, state.monitor.status) := by
  simp only [System.observeCall, hpc, hv, hr, if_true]

/-- The calls go on while the entry is there. -/
theorem followCalls_of_some {state : MonitorState} (hr : s.scheduler.registry.lookup id = some state) (a : Action) :
    s.followCalls id calls a = calls ++ (s.observeCall id a).toList := by
  rw [System.followCalls, hr]
  rfl

/-- The counters of the entry are those after the calls. -/
def Follows (id : UInt64) (s : System) (calls : List (Bool × MonitorStatus)) : Prop :=
  ∀ state, s.scheduler.registry.lookup id = some state → state.flap = FlapState.after calls

/-- A step without a call that makes no entry and keeps its counters. -/
theorem Follows.frame {a : Action} (hI : Follows id s calls) (hcall : s.observeCall id a = none)
    (hlookup : ∀ state', s'.scheduler.registry.lookup id = some state' →
      ∃ state, s.scheduler.registry.lookup id = some state ∧ state'.flap = state.flap) :
    Follows id s' (s.followCalls id calls a) := by
  intro state' hr'
  obtain ⟨state, hr, hflap⟩ := hlookup state' hr'
  rw [followCalls_of_some hr, hcall, Option.toList_none, List.append_nil, hflap]
  exact hI state hr

/-- The handling of an outcome counts as its call does. -/
theorem follows_handled {cause : Handled} (hI : Follows id s calls) (hpc : s.pc = .handling cause)
    (hs' : s'.scheduler = (s.scheduler.handle s.wall cause).scheduler) :
    Follows id s' (s.followCalls id calls (.scheduler .handle)) := by
  by_cases hid : cause.monitorId.val = id
  · subst hid
    have hh := handles_handle s.scheduler s.wall cause
    generalize s.scheduler.handle s.wall cause = x at hh hs'
    cases hh with
    | goesStale hv hr hs =>
      refine hI.frame (observeCall_of_stale hpc hv) fun state' hr' => ⟨_, hr, ?_⟩
      rw [hs', HashMap.lookup_insert, if_pos rfl] at hr'
      cases hr'
      rfl
    | staysStale hv hr =>
      refine hI.frame (observeCall_of_stale hpc hv) fun state' hr' => ⟨state', ?_, rfl⟩
      rw [hs'] at hr'
      exact hr'
    | unregistered hv hr =>
      intro state' hr'
      rw [hs'] at hr'
      cases hr.symm.trans hr'
    | transition hv hr ho | counted hv hr ho =>
      intro state' hr'
      rw [hs', HashMap.lookup_insert, if_pos rfl] at hr'
      cases hr'
      rw [followCalls_of_some hr, observeCall_of_applied hpc hv hr, Option.toList_some, after_snoc, ← hI _ hr]
  · refine hI.frame (observeCall_of_ne hpc hid) fun state' hr' => ⟨state', ?_, rfl⟩
    rw [hs', lookup_handle_of_ne _ _ (Ne.symm hid)] at hr'
    exact hr'

/-- Every step counts as its calls do. -/
theorem follows_step {a : Action} {ev : List Event} (hI : Follows id s calls) (he : Effect cfg s a s' ev) :
    Follows id s' (s.followCalls id calls a) := by
  cases he with
  | @resynced monitors after hpc =>
    intro state hr
    simp only [lookup_resync] at hr
    obtain ⟨m, -, rfl⟩ := Option.map_eq_some_iff.mp hr
    cases hs : s.scheduler.registry.lookup id with
    | none =>
      rw [System.followCalls, hs]
      rfl
    | some state =>
      have hcalls : s.followCalls id calls (.scheduler .listReturned) = calls := by
        rw [followCalls_of_some hs]
        exact List.append_nil _
      rw [hcalls]
      exact hI state hs
  | dispatched hpc =>
    refine hI.frame rfl fun state' hr' => ?_
    obtain ⟨state, hr, -, hflap⟩ := of_lookup_dispatchDue hr'
    exact ⟨state, hr, hflap⟩
  | handled hpc => exact follows_handled hI hpc rfl
  | _ => exact hI.frame rfl fun state' hr' => ⟨state', hr', rfl⟩

end CountersAux

open CountersAux in
/-- In every run the counters of an entry are those after the calls for it. -/
theorem flap_after_calls {cfg : EngineConfig} {k8sFactory : Option K8sCollectorFactory} {db : Db} {id : UInt64} {s : System}
    {calls : List (Bool × MonitorStatus)} {log : List Event}
    (h : CallsRun cfg id (System.start cfg k8sFactory db, []) (s, calls) log) {state : MonitorState}
    (hr : s.scheduler.registry.lookup id = some state) : state.flap = FlapState.after calls := by
  refine h.stateInvariant (I := fun x => Follows id x.1 x.2) ?_ ?_ state hr
  · intro state hr
    rw [System.start, Scheduler.new, HashMap.lookup_empty] at hr
    cases hr
  · intro x x' ev a hI _ hs
    obtain ⟨hstep, hcalls⟩ := beside_eq_some hs
    rw [hcalls]
    exact follows_step hI (effect_of_step hstep)

/-! ## Sequences of calls -/

open CountersAux in
/-- For every sequence of outcomes and statuses: every call counts without overflow and returns what the rule without a bound
returns exactly if no outcome stands 2^32 times in a row in the sequence. -/
theorem flap_exact_iff (calls : List (Bool × MonitorStatus)) :
    FlapExact calls ↔ ∀ success, ¬List.replicate UInt32.size success <:+: calls.map (·.1) := by
  constructor
  · intro h success hrow
    obtain ⟨before, hbefore, hle⟩ := replicate_infix_iff.mp hrow
    obtain ⟨before', hbefore', rfl⟩ := exists_prefix hbefore
    exact Nat.not_le.mpr (streak_lt_of_exact h success before' hbefore') hle
  · rintro h before call rest rfl
    refine callExact_of_lt (Nat.lt_of_not_le fun hle => h call.1 (replicate_infix_iff.mpr ⟨_, ?_, hle⟩))
    exact ⟨outcomes rest, by simp [outcomes]⟩

/-! ## A counter that wraps -/

/-- An agent with a monitor that is up. -/
def agentUp : Db where
  monitors := ⟨[⟨1, 0, "api", "http://api", "http", 60, "up", some 1⟩], by decide⟩
  checkResults := Table.empty
  agents := ⟨[⟨1, "edge", 0, "", "t", none⟩], by decide⟩
  alertEvents := Table.empty
  inserted := 1

namespace CountersAux

open Scheduler

/-- A run of the daemon with the calls for the monitor. -/
abbrev UpRun := CallsRun EngineConfig.default 1

/-- The scheduler waits, the results pushed and not taken up are `queue`, and the monitor has the status. -/
structure Waits (status : MonitorStatus) (queue : List PushedResult) (s : System) : Prop where
  pc : s.pc = .select
  draining : s.draining = false
  pushRx : s.pushRx = queue
  held : (1, ⟨1, 0⟩) ∈ s.held
  entry : ∃ state, s.scheduler.registry.lookup 1 = some state ∧ state.monitor.status = status

/-- The scheduler has taken up a result. -/
def takenUp (queue : List PushedResult) (outcome : ProbeOutcome) (s : System) : System :=
  { s with pushRx := queue, pc := .handling (.pushed ⟨⟨1, 0⟩, outcome⟩) }

variable {s s' : System} {status : MonitorStatus} {queue : List PushedResult} {calls : List (Bool × MonitorStatus)} {a : Action}
  {ev : List Event}

/-- A step without a call. -/
theorem upRun_of_none {state : MonitorState} (hs : s.step EngineConfig.default a = some (s', ev))
    (hr : s.scheduler.registry.lookup 1 = some state) (hcall : s.observeCall 1 a = none) :
    UpRun (s, calls) (s', calls) ev := by
  refine Run.single (a := a) rfl ?_
  rw [beside, hs, Option.map_some, followCalls_of_some hr, hcall, Option.toList_none, List.append_nil]

/-- A step with a call. -/
theorem upRun_of_some {state : MonitorState} {call : Bool × MonitorStatus}
    (hs : s.step EngineConfig.default a = some (s', ev)) (hr : s.scheduler.registry.lookup 1 = some state)
    (hcall : s.observeCall 1 a = some call) : UpRun (s, calls) (s', calls ++ [call]) ev := by
  refine Run.single (a := a) rfl ?_
  rw [beside, hs, Option.map_some, followCalls_of_some hr, hcall, Option.toList_some]

/-- The daemon after its first resync, with the check held by the agent. -/
theorem waits_start : ∃ s log, UpRun (System.start EngineConfig.default none agentUp, []) (s, []) log ∧
    s.db = agentUp ∧ Waits .up [] s := by
  let actions : List Action := [.scheduler (.listMonitors false), .scheduler .listReturned, .agent (.configure 1 1)]
  let x := after (beside (System.step EngineConfig.default) (System.followCalls 1)) always
    (System.start EngineConfig.default none agentUp, []) actions
  have h : UpRun (System.start EngineConfig.default none agentUp, []) (x.1.1, []) x.2 := run_after rfl
  exact ⟨x.1.1, x.2, h, rfl, rfl, rfl, rfl, List.mem_singleton.mpr rfl, ⟨_, rfl, rfl⟩⟩

/-- A push of the agent. -/
theorem Waits.push (h : Waits status queue s) (hdb : s.db = agentUp) (hroom : queue.length < 2) (outcome : ProbeOutcome) :
    ∃ s', UpRun (s, calls) (s', calls) [] ∧ s'.db = agentUp ∧ Waits status (queue ++ [⟨⟨1, 0⟩, outcome⟩]) s' := by
  obtain ⟨hpc, hdraining, rfl, hheld, ⟨state, hr, hstatus⟩⟩ := h
  have hm : ∃ monitor, s.db.getMonitor 1 = .ok (some monitor) ∧ monitor.agentId = some 1 := by
    rw [hdb]
    exact ⟨_, rfl, rfl⟩
  obtain ⟨monitor, hm, hlink⟩ := hm
  refine ⟨_, upRun_of_none (System.step_ingest hheld hm hlink outcome) hr rfl, hdb, hpc, hdraining, ?_, hheld,
    ⟨state, hr, hstatus⟩⟩
  exact Channel.trySend_of_lt (Nat.lt_of_lt_of_le hroom (by decide)) _

/-- The scheduler takes up the next result. -/
theorem Waits.recv {outcome : ProbeOutcome} (h : Waits status (⟨⟨1, 0⟩, outcome⟩ :: queue) s) :
    UpRun (s, calls) (takenUp queue outcome s, calls) [] := by
  obtain ⟨state, hr, -⟩ := h.entry
  exact upRun_of_none (System.step_recv h.pc h.draining h.pushRx (by rw [hr]; rfl)) hr rfl

/-- A success is counted with a call. -/
theorem Waits.call (h : Waits status (⟨⟨1, 0⟩, .success 0⟩ :: queue) s) {ev : List Event}
    (hs : (takenUp queue (.success 0) s).step EngineConfig.default (.scheduler .handle) = some (s', ev)) :
    UpRun (s, calls) (s', calls ++ [(true, status)]) ([] ++ ev) := by
  obtain ⟨state, hr, rfl⟩ := h.entry
  have hpc : (takenUp queue (.success 0) s).pc = .handling (.pushed ⟨⟨1, 0⟩, .success 0⟩) := rfl
  exact h.recv.trans (upRun_of_some hs hr (observeCall_of_applied hpc rfl hr))

/-- One of a monitor that is up leaves it up, and nothing to persist. -/
theorem Waits.take (h : Waits .up (⟨⟨1, 0⟩, .success 0⟩ :: queue) s) :
    ∃ s' log, UpRun (s, calls) (s', calls ++ [(true, .up)]) log ∧ s'.db = s.db ∧ Waits .up queue s' := by
  obtain ⟨state, hr, hup⟩ := h.entry
  have ho : (state.flap.observe true state.monitor.status).2 = none := by simp [FlapState.observe_success, hup]
  obtain ⟨hpersist, hreg⟩ := handle_counted s.wall (.pushed ⟨⟨1, 0⟩, .success 0⟩) hr rfl ho
  refine ⟨_, _, h.call (System.step_handle rfl), rfl, ?_, h.draining, rfl, h.held,
    ⟨{ state with flap := state.flap.count true }, ?_, hup⟩⟩
  · simp only [takenUp, hpersist, Option.elim_none]
  · simp only [takenUp, hreg]
    exact (HashMap.lookup_insert _ _ _ _).trans (if_pos rfl)

/-- A check that cannot be had leaves it stale, without a call. -/
theorem Waits.goStale (h : Waits .up (⟨⟨1, 0⟩, .unavailable ""⟩ :: queue) s) :
    ∃ s' log, UpRun (s, calls) (s', calls) log ∧ Waits .stale queue s' := by
  obtain ⟨state, hr, hup⟩ := h.entry
  let cause : Handled := .pushed ⟨⟨1, 0⟩, .unavailable ""⟩
  obtain ⟨⟨p, hpersist⟩, hreg⟩ := handle_stale s.wall cause hr rfl (by rw [hup]; decide)
  -- the copy is marked
  let s₁ : System := takenUp queue (.unavailable "") s
  have hpc₁ : s₁.pc = .handling cause := rfl
  let s₂ : System := { s₁ with
    scheduler := (s.scheduler.handle s.wall cause).scheduler
    pc := .persisting p
    writer := s.writer.submit EngineConfig.default.writerCapacity (System.submissions (s.scheduler.handle s.wall cause).events) }
  have hs₂ : s₁.step EngineConfig.default (.scheduler .handle) = some (s₂, (s.scheduler.handle s.wall cause).events) := by
    rw [System.step_handle hpc₁]
    simp only [s₁, s₂, takenUp, hpersist, Option.elim_some]
  have hr₂ : s₂.scheduler.registry.lookup 1 = some { state with monitor := { state.monitor with status := .stale } } := by
    simp only [s₂, hreg]
    exact (HashMap.lookup_insert _ _ _ _).trans (if_pos rfl)
  -- and the scheduler goes on
  have hpc₂ : s₂.pc = .persisting p := rfl
  obtain ⟨db, ev, hs₃⟩ := System.step_setMonitorStatus EngineConfig.default hpc₂ false
  have hrun₂ : UpRun (takenUp queue (.unavailable "") s, calls) (s₂, calls) _ :=
    upRun_of_none hs₂ hr (observeCall_of_stale hpc₁ rfl)
  exact ⟨_, _, (h.recv.trans hrun₂).trans (upRun_of_none hs₃ hr₂ rfl), rfl, h.draining, rfl, h.held, ⟨_, hr₂, rfl⟩⟩

/-- After so many pushes, each taken up before the next. -/
def AfterSuccesses (n : Nat) (x : System × List (Bool × MonitorStatus)) : Prop :=
  x.2 = List.replicate n (true, .up) ∧ x.1.db = agentUp ∧ Waits .up [] x.1

/-- The agent pushes that many successes. -/
theorem exists_afterSuccesses (hdb : s.db = agentUp) (h : Waits .up [] s) (n : Nat) :
    ∃ x log, UpRun (s, []) x log ∧ AfterSuccesses n x := by
  refine exists_run_turns (P := fun n x _ => AfterSuccesses n x) ⟨rfl, hdb, h⟩ ?_
  rintro n - ⟨s, calls⟩ log ⟨rfl, hdb, h⟩
  obtain ⟨s₁, hrun₁, hdb₁, h₁⟩ := h.push hdb Nat.two_pos (.success 0)
  obtain ⟨s₂, ev, hrun₂, hdb₂, h₂⟩ := h₁.take
  exact ⟨_, _, hrun₁.trans hrun₂, List.replicate_succ'.symm, hdb₂.trans hdb₁, h₂⟩

/-- A success after so many, and after a check that could not be had. -/
theorem admitted_successes (n : Nat) : Admitted (List.replicate n (true, .up) ++ [(true, .stale)]) := by
  obtain ⟨s₀, log₀, hrun₀, hdb₀, h₀⟩ := waits_start
  obtain ⟨⟨s₁, calls⟩, log₁, hrun₁, rfl, hdb₁, h₁⟩ := exists_afterSuccesses hdb₀ h₀ n
  obtain ⟨s₂, hrun₂, hdb₂, h₂⟩ := h₁.push hdb₁ Nat.two_pos (.unavailable "")
  obtain ⟨s₃, hrun₃, -, h₃⟩ := h₂.push hdb₂ Nat.one_lt_two (.success 0)
  obtain ⟨s₄, log₄, hrun₄, h₄⟩ := Waits.goStale h₃
  exact ⟨_, _, _, _, _, _,
    ((((hrun₀.trans hrun₁).trans hrun₂).trans hrun₃).trans hrun₄).trans (h₄.call (System.step_handle rfl))⟩

/-- The streak after them. -/
theorem streak_successes (n : Nat) :
    streak true (outcomes (List.replicate n (true, .up) ++ [(true, .stale)])) = n + 1 := by
  rw [streak_call _ (true, .stale), outcomes, List.map_replicate, streak_replicate]

/-- The success that makes the streak 2^32 overflows, and does not bring a stale monitor up. -/
theorem wraps {before : List (Bool × MonitorStatus)} (h : streak true (outcomes (before ++ [(true, .stale)])) = UInt32.size) :
    (FlapState.after before).overflows true = true ∧ ((FlapState.after before).observe true .stale).2 = none ∧
      ((UnboundedFlap.after before).observe true .stale).2 = some .up := by
  have hcall : UInt32.size = streak true (outcomes before) + 1 := h.symm.trans (streak_call before (true, .stale))
  refine ⟨?_, ?_, ?_⟩
  · have hlt : streak true (outcomes before) < UInt32.size := by omega
    rw [FlapState.overflows, decide_eq_true_iff, toNat_counter, Nat.mod_eq_of_lt hlt, ← hcall]
  · rw [observe_after before (true, .stale), h, Nat.mod_self]
    rfl
  · rw [unbounded_observe_after before (true, .stale), h]
    rfl

end CountersAux

/-- As many successes as the counter counts, each of them of a monitor that is up. -/
def mostSuccesses : List (Bool × MonitorStatus) := List.replicate (UInt32.size - 1) (true, .up)

open CountersAux in
/-- An agent pushes that many successes, then a check it could not make, and then a success again. That success overflows, and it
does not bring the monitor up, which is stale by then; without a bound it does. So not every sequence that the daemon admits is
exact. -/
theorem flap_not_exact :
    Admitted (mostSuccesses ++ [(true, .stale)]) ∧
      (FlapState.after mostSuccesses).overflows true = true ∧
      ((FlapState.after mostSuccesses).observe true .stale).2 = none ∧
      ((UnboundedFlap.after mostSuccesses).observe true .stale).2 = some .up ∧
      ¬∀ calls, Admitted calls → FlapExact calls := by
  have hadmitted : Admitted (mostSuccesses ++ [(true, .stale)]) := admitted_successes _
  have hstreak : streak true (outcomes (mostSuccesses ++ [(true, .stale)])) = UInt32.size :=
    (streak_successes _).trans (Nat.sub_add_cancel (by decide))
  obtain ⟨hoverflows, hnone, hup⟩ := wraps hstreak
  refine ⟨hadmitted, hoverflows, hnone, hup, fun h => ?_⟩
  have hcall : CallExact mostSuccesses (true, .stale) := h _ hadmitted _ _ [] rfl
  cases hoverflows.symm.trans hcall.fits

end Monitra
