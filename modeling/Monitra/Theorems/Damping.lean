import Monitra.Theorems.Down
import Monitra.Theorems.Recording

/-!
# What the damping comes to

The status of a registry entry after any outcomes of its monitor, and what is announced of them, read off the outcomes alone. The
two thresholds, the counters and the way around them that unavailable outcomes take all come into it.
-/

namespace Monitra

open Runs

/-- The outcomes of a monitor that were handled, the latest first. -/
def handledFor (id : UInt64) (log : List Event) : List Handled :=
  (log.filterMap fun
    | .handled cause => if cause.monitorId.val = id then some cause else none
    | _ => none).reverse

/-- The statuses in the alerts submitted for a monitor, in their order. -/
def announcedOf (id : UInt64) (log : List Event) : List MonitorStatus :=
  log.filterMap fun
    | .alert request => if request.monitorId.val = id then some request.transitionedTo else none
    | _ => none

/-- The status in the alert that is submitted once `persist_status` returns. -/
def awaitedOf (id : UInt64) : Pc → List MonitorStatus
  | .persisting p => if p.cause.monitorId.val = id then [p.status] else []
  | _ => []

/-- The failures since the last success. An unavailable outcome is neither. -/
def failuresSinceSuccess (outcomes : List Handled) : Nat :=
  (outcomes.takeWhile fun cause => !cause.isSuccess).countP Handled.isFailure

/-- The status that outcomes lead to. -/
def statusAfter (start : MonitorStatus) : List Handled → MonitorStatus
  | [] => start
  | last :: before =>
    if last.isSuccess then .up
    else if last.isUnavailable then .stale
    else if DOWN_THRESHOLD.toNat ≤ failuresSinceSuccess (last :: before) then .down
    else statusAfter start before

/-- The changes of the status on the way, in their order. -/
def statusChanges (start : MonitorStatus) : List Handled → List MonitorStatus
  | [] => []
  | last :: before =>
    let status := statusAfter start (last :: before)
    statusChanges start before ++ if status = statusAfter start before then [] else [status]

/-- The status of a registry entry. -/
def System.registryStatus (s : System) (id : UInt64) : Option MonitorStatus :=
  (s.scheduler.registry.lookup id).map fun state => state.monitor.status

/-- No resync changes the status of the entry, and the watchdog does not write for its monitor. -/
def undisturbed (cfg : EngineConfig) (id : UInt64) (s : System) (a : Action) : Bool :=
  match a with
  | .scheduler .listReturned => (s.step cfg a).all fun x => decide (x.1.registryStatus id = s.registryStatus id)
  | .watchdog (.next _) =>
    match s.watchdog with
    | .sweeping stale (monitor :: _) => !(Watchdog.demotes stale monitor && decide (monitor.id.val = id))
    | _ => true
  | _ => true

namespace DampingAux

open Scheduler

theorem handledFor_append (id : UInt64) (log ev : List Event) : handledFor id (log ++ ev) = handledFor id ev ++ handledFor id log := by
  rw [handledFor, List.filterMap_append, List.reverse_append, handledFor, handledFor]

theorem announcedOf_append (id : UInt64) (log ev : List Event) :
    announcedOf id (log ++ ev) = announcedOf id log ++ announcedOf id ev := List.filterMap_append

theorem awaitedOf_eq_nil {id : UInt64} {pc : Pc} (h : ∀ p, pc ≠ .persisting p) : awaitedOf id pc = [] := by
  cases pc with
  | persisting p => exact absurd rfl (h p)
  | _ => rfl

/-! ## One outcome -/

/-- An entry that outcomes have led to. -/
structure Tracks (start : MonitorStatus) (outcomes : List Handled) (state : MonitorState) : Prop where
  status : state.monitor.status = statusAfter start outcomes
  failures : state.flap.consecutiveFailure.toNat = failuresSinceSuccess outcomes
  successes : state.flap.consecutiveSuccess.toNat ≤ outcomes.length

theorem failuresSinceSuccess_le (outcomes : List Handled) : failuresSinceSuccess outcomes ≤ outcomes.length :=
  List.countP_le_length.trans (List.takeWhile_sublist _).length_le

/-- A success starts the count anew, a failure counts, and an unavailable outcome does neither. -/
theorem failuresSinceSuccess_cons (cause : Handled) (outcomes : List Handled) :
    failuresSinceSuccess (cause :: outcomes) =
      if cause.isSuccess then 0 else failuresSinceSuccess outcomes + if cause.isFailure then 1 else 0 := by
  unfold failuresSinceSuccess
  rw [List.takeWhile_cons]
  by_cases hs : cause.isSuccess = true
  · simp [hs]
  · simp [hs, List.countP_cons]

/-- The counters count on. -/
theorem Tracks.count {start : MonitorStatus} {outcomes : List Handled} {state : MonitorState} (h : Tracks start outcomes state)
    (hlen : outcomes.length + 1 < 2 ^ 32) {cause : Handled} {success : Bool} {message : Option String} {latencyMs : UInt64}
    (hv : cause.verdict = .applied success message latencyMs) :
    (state.flap.count success).consecutiveFailure.toNat = failuresSinceSuccess (cause :: outcomes) ∧
      (state.flap.count success).consecutiveSuccess.toNat ≤ (cause :: outcomes).length ∧
      (success = true → (state.flap.count success).consecutiveSuccess.toNat = state.flap.consecutiveSuccess.toNat + 1) := by
  have hle := h.failures ▸ failuresSinceSuccess_le outcomes
  rw [failuresSinceSuccess_cons, List.length_cons]
  rcases DownAux.verdict_cases cause with ⟨_, hv', -⟩ | ⟨_, _, hv', hsucc⟩ | ⟨_, _, hv', hsucc, hfail⟩
  · cases hv.symm.trans hv'
  · cases hv.symm.trans hv'
    have hcount := Word.toNat_succ_of_lt (Nat.lt_of_le_of_lt (Nat.succ_le_succ h.successes) hlen)
    have hsuccesses := h.successes
    simp only [FlapState.count, if_true, hsucc, UInt32.toNat_zero, true_and, hcount, implies_true, and_true]
    omega
  · cases hv.symm.trans hv'
    have hcount := Word.toNat_succ_of_lt (Nat.lt_of_le_of_lt (Nat.succ_le_succ hle) hlen)
    simp [FlapState.count, hsucc, hfail, hcount, h.failures]

/-- The decision of `observe` is the change of the status. -/
theorem Tracks.observe {start : MonitorStatus} {outcomes : List Handled} {state : MonitorState} (h : Tracks start outcomes state)
    (hlen : outcomes.length + 1 < 2 ^ 32) {cause : Handled} {success : Bool} {message : Option String} {latencyMs : UInt64}
    (hv : cause.verdict = .applied success message latencyMs) :
    (state.flap.observe success state.monitor.status).2 =
      if statusAfter start (cause :: outcomes) = statusAfter start outcomes then none
      else some (statusAfter start (cause :: outcomes)) := by
  obtain ⟨hfailures, -, hsuccesses⟩ := h.count hlen hv
  have hunavailable := RecordingAux.of_applied hv
  rw [h.status]
  rcases DownAux.verdict_cases cause with ⟨_, hv', -⟩ | ⟨_, _, hv', hsucc⟩ | ⟨_, _, hv', hsucc, -⟩
  · cases hv.symm.trans hv'
  · cases hv.symm.trans hv'
    have hthr : UP_THRESHOLD ≤ (state.flap.count true).consecutiveSuccess := by
      rw [UInt32.le_iff_toNat_le, hsuccesses rfl]
      exact Nat.le_add_left 1 _
    have hafter : statusAfter start (cause :: outcomes) = .up := by rw [statusAfter, if_pos hsucc]
    rw [FlapState.observe_success, hafter]
    by_cases hup : statusAfter start outcomes = .up
    · simp [hup]
    · simp [hup, Ne.symm hup, hthr]
  · cases hv.symm.trans hv'
    have hthr : DOWN_THRESHOLD ≤ (state.flap.count false).consecutiveFailure ↔
        DOWN_THRESHOLD.toNat ≤ failuresSinceSuccess (cause :: outcomes) := by
      rw [UInt32.le_iff_toNat_le, hfailures]
    simp only [FlapState.observe_failure, hthr, statusAfter, hsucc, hunavailable, Bool.false_eq_true, if_false]
    by_cases hreached : DOWN_THRESHOLD.toNat ≤ failuresSinceSuccess (cause :: outcomes)
    · by_cases hdown : statusAfter start outcomes = .down
      · simp [hreached, hdown]
      · simp [hreached, hdown, Ne.symm hdown]
    · simp [hreached]

/-- An unavailable outcome makes the entry stale and leaves the counters alone. -/
theorem Tracks.stale {start : MonitorStatus} {outcomes : List Handled} {state : MonitorState} (h : Tracks start outcomes state)
    {cause : Handled} {message : String} (hv : cause.verdict = .stale message) :
    statusAfter start (cause :: outcomes) = .stale ∧
      Tracks start (cause :: outcomes) { state with monitor := { state.monitor with status := .stale } } := by
  rcases DownAux.verdict_cases cause with ⟨_, -, hsucc, hfail⟩ | ⟨_, _, hv', -⟩ | ⟨_, _, hv', -⟩
  · have hafter : statusAfter start (cause :: outcomes) = .stale := by
      simp [statusAfter, hsucc, RecordingAux.of_stale hv]
    refine ⟨hafter, hafter.symm, ?_, h.successes.trans (Nat.le_succ _)⟩
    simp [failuresSinceSuccess_cons, hsucc, hfail, h.failures]
  · cases hv.symm.trans hv'
  · cases hv.symm.trans hv'

/-- The handling of an outcome: the entry follows, and the status is persisted exactly when it changes. -/
theorem tracks_handle {start : MonitorStatus} {outcomes : List Handled} {s : Scheduler} {state : MonitorState} {cause : Handled}
    (wall : UInt64) (hr : s.registry.lookup cause.monitorId.val = some state) (h : Tracks start outcomes state)
    (hlen : outcomes.length + 1 < 2 ^ 32) :
    (∃ state', (s.handle wall cause).scheduler.registry.lookup cause.monitorId.val = some state' ∧
        Tracks start (cause :: outcomes) state') ∧
      (s.handle wall cause).persist.map (·.status) =
        if statusAfter start (cause :: outcomes) = statusAfter start outcomes then none
        else some (statusAfter start (cause :: outcomes)) := by
  have hh := handles_handle s wall cause
  generalize s.handle wall cause = x at hh ⊢
  cases hh with
  | goesStale hv hr' hs =>
    cases hr.symm.trans hr'
    obtain ⟨hafter, htracks⟩ := h.stale hv
    refine ⟨⟨_, by rw [HashMap.lookup_insert, if_pos rfl], htracks⟩, ?_⟩
    rw [hafter, if_neg fun heq => hs (h.status.trans heq.symm)]
    rfl
  | staysStale hv hr' =>
    have hs := hr' state hr
    obtain ⟨hafter, htracks⟩ := h.stale hv
    refine ⟨⟨state, hr, ?_⟩, ?_⟩
    · rwa [← hs] at htracks
    · rw [hafter, if_pos (hs.symm.trans h.status)]
      rfl
  | unregistered hv hr' => cases hr.symm.trans hr'
  | transition hv hr' ho =>
    cases hr.symm.trans hr'
    obtain ⟨hfailures, hsuccesses, -⟩ := h.count hlen hv
    rw [h.observe hlen hv] at ho
    refine ⟨⟨_, by rw [HashMap.lookup_insert, if_pos rfl], ?_, hfailures, hsuccesses⟩, ho.symm⟩
    split at ho
    · cases ho
    · exact (Option.some.inj ho).symm
  | counted hv hr' ho =>
    cases hr.symm.trans hr'
    obtain ⟨hfailures, hsuccesses, -⟩ := h.count hlen hv
    rw [h.observe hlen hv] at ho
    refine ⟨⟨_, by rw [HashMap.lookup_insert, if_pos rfl], ?_, hfailures, hsuccesses⟩, ho.symm⟩
    split at ho
    · rename_i heq
      exact h.status.trans heq.symm
    · cases ho

/-- The handling of an outcome is an event, and submits no alert before the write. -/
theorem events_handle (s : Scheduler) (wall : UInt64) (cause : Handled) (id : UInt64) :
    handledFor id (s.handle wall cause).events = (if cause.monitorId.val = id then [cause] else []) ∧
      announcedOf id (s.handle wall cause).events = [] := by
  have hh := handles_handle s wall cause
  generalize s.handle wall cause = x at hh ⊢
  by_cases hid : cause.monitorId.val = id
  · cases hh <;> simp [handledFor, announcedOf, hid]
  · cases hh <;> simp [handledFor, announcedOf, hid]

/-- After the write the alert is submitted. -/
theorem events_resume (p : Persist) (wall : UInt64) (ok : Bool) (id : UInt64) :
    handledFor id (.wrote p.cause.monitorId p.status ok :: p.resume wall) = [] ∧
      announcedOf id (.wrote p.cause.monitorId p.status ok :: p.resume wall) = awaitedOf id (.persisting p) := by
  unfold Persist.resume
  by_cases hid : p.cause.monitorId.val = id
  · split <;> simp [handledFor, announcedOf, awaitedOf, hid]
  · split <;> simp [handledFor, announcedOf, awaitedOf, hid]

/-! ## The run -/

/-- The entry follows the outcomes handled, and the alerts submitted and awaited follow its status. -/
structure Inv (id : UInt64) (start : MonitorStatus) (before : List MonitorStatus) (s : System) (log : List Event) : Prop where
  tracks : ∃ state, s.scheduler.registry.lookup id = some state ∧ Tracks start (handledFor id log) state
  announced : announcedOf id log ++ awaitedOf id s.pc = before ++ statusChanges start (handledFor id log)

/-- A step that handles and announces nothing of the monitor, and keeps the status and the counters of its entry. -/
theorem Inv.frame {id : UInt64} {start : MonitorStatus} {before : List MonitorStatus} {s s' : System} {log ev : List Event}
    (hI : Inv id start before s log) (hhandled : handledFor id ev = [])
    (hannounced : announcedOf id ev ++ awaitedOf id s'.pc = awaitedOf id s.pc)
    (hlookup : ∀ state, s.scheduler.registry.lookup id = some state → ∃ state', s'.scheduler.registry.lookup id = some state' ∧
      state'.monitor.status = state.monitor.status ∧ state'.flap = state.flap) : Inv id start before s' (log ++ ev) := by
  obtain ⟨state, hr, htracks⟩ := hI.tracks
  obtain ⟨state', hr', hstatus, hflap⟩ := hlookup state hr
  have hsame : handledFor id (log ++ ev) = handledFor id log := by rw [handledFor_append, hhandled, List.nil_append]
  constructor
  · rw [hsame]
    exact ⟨state', hr', hstatus.trans htracks.status, hflap ▸ htracks.failures, hflap ▸ htracks.successes⟩
  · rw [hsame, announcedOf_append, List.append_assoc, hannounced]
    exact hI.announced

/-- The entry stays as it is when the registry does. -/
theorem same_entry {s s' : System} (h : s'.scheduler.registry = s.scheduler.registry) {id : UInt64} (state : MonitorState)
    (hr : s.scheduler.registry.lookup id = some state) : ∃ state', s'.scheduler.registry.lookup id = some state' ∧
      state'.monitor.status = state.monitor.status ∧ state'.flap = state.flap := ⟨state, h ▸ hr, rfl, rfl⟩

/-- The handling of an outcome. -/
theorem inv_handled {cfg : EngineConfig} {id : UInt64} {start : MonitorStatus} {before : List MonitorStatus} {s : System}
    {log : List Event} {cause : Handled} (hI : Inv id start before s log) (hpc : s.pc = .handling cause)
    (hlen : (handledFor id (log ++ (s.scheduler.handle s.wall cause).events)).length < 2 ^ 32) :
    Inv id start before
      { s with
        scheduler := (s.scheduler.handle s.wall cause).scheduler
        pc := (s.scheduler.handle s.wall cause).persist.elim .select .persisting
        writer := s.writer.submit cfg.writerCapacity (System.submissions (s.scheduler.handle s.wall cause).events) }
      (log ++ (s.scheduler.handle s.wall cause).events) := by
  obtain ⟨hhandled, hannounced⟩ := events_handle s.scheduler s.wall cause id
  have hcause : ∀ p, (s.scheduler.handle s.wall cause).persist = some p → p.cause = cause :=
    fun p hp => (persist_handle hp).1
  by_cases hid : cause.monitorId.val = id
  · subst hid
    rw [if_pos rfl] at hhandled
    rw [handledFor_append, hhandled, List.singleton_append, List.length_cons] at hlen
    obtain ⟨state, hr, htracks⟩ := hI.tracks
    obtain ⟨hentry, hpersist⟩ := tracks_handle s.wall hr htracks hlen
    have hbefore := hI.announced
    rw [hpc, awaitedOf_eq_nil fun _ => by simp, List.append_nil] at hbefore
    constructor
    · rw [handledFor_append, hhandled]
      exact hentry
    · rw [handledFor_append, hhandled, announcedOf_append, hannounced, List.append_nil, List.singleton_append, statusChanges,
        ← List.append_assoc, hbefore]
      congr 1
      -- What is awaited is the change, if there is one.
      cases hp : (s.scheduler.handle s.wall cause).persist with
      | none =>
        rw [hp, Option.map_none] at hpersist
        split at hpersist
        · rename_i heq
          rw [if_pos heq]
          rfl
        · cases hpersist
      | some p =>
        rw [hp, Option.map_some] at hpersist
        split at hpersist
        · cases hpersist
        · rename_i hne
          rw [if_neg hne, Option.elim_some, awaitedOf, if_pos (by rw [hcause p hp]), Option.some.inj hpersist]
  · rw [if_neg hid] at hhandled
    refine hI.frame hhandled ?_ fun state hr => ⟨state, (lookup_handle_of_ne _ _ (Ne.symm hid)).trans hr, rfl, rfl⟩
    rw [hannounced, hpc]
    cases hp : (s.scheduler.handle s.wall cause).persist with
    | none => rfl
    | some p => simp [awaitedOf, hcause p hp, hid]

/-- A resync that keeps the status of the entry keeps its counters too. -/
theorem inv_resynced {id : UInt64} {start : MonitorStatus} {before : List MonitorStatus} {s : System} {log : List Event}
    {monitors : List Monitor} {after : Option PushedResult} (hI : Inv id start before s log)
    (hpc : s.pc = .listed (.ok monitors) after)
    (hstatus : ((s.scheduler.resync s.clock monitors).1.registry.lookup id).map (fun state => state.monitor.status) =
      s.registryStatus id) :
    Inv id start before { s with scheduler := (s.scheduler.resync s.clock monitors).1, pc := .resume after }
      (log ++ (s.scheduler.resync s.clock monitors).2) := by
  have hhandled : handledFor id (s.scheduler.resync s.clock monitors).2 = [] := by
    rw [handledFor, filterMap_resync fun _ => rfl, List.reverse_nil]
  have hannounced : announcedOf id (s.scheduler.resync s.clock monitors).2 = [] := filterMap_resync (fun _ => rfl) _ _ _
  refine hI.frame hhandled ?_ fun state hr => ?_
  · rw [hannounced, hpc, awaitedOf_eq_nil (Pc.resume_ne_persisting after)]
    rfl
  · rw [System.registryStatus, hr, Option.map_some, Option.map_eq_some_iff] at hstatus
    obtain ⟨state', hr', hs⟩ := hstatus
    refine ⟨state', hr', hs, ?_⟩
    rw [lookup_resync, hr] at hr'
    obtain ⟨m, -, rfl⟩ := Option.map_eq_some_iff.mp hr'
    rfl

/-- Every step keeps the law. -/
theorem inv_step {cfg : EngineConfig} {id : UInt64} {start : MonitorStatus} {before : List MonitorStatus} {s s' : System}
    {log ev : List Event} {a : Action} (hI : Inv id start before s log) (hok : undisturbed cfg id s a = true)
    (hs : s.step cfg a = some (s', ev)) (hlen : (handledFor id (log ++ ev)).length < 2 ^ 32) :
    Inv id start before s' (log ++ ev) := by
  cases effect_of_step hs with
  | resynced hpc =>
    refine inv_resynced hI hpc ?_
    simp only [undisturbed, hs, Option.all_some, decide_eq_true_eq] at hok
    exact hok
  | @dispatched due hpc =>
    have hhandled : handledFor id (s.scheduler.dispatchDue s.tasks s.clock due).events = [] := by
      rw [handledFor, filterMap_dispatchDue (fun _ => rfl) fun _ _ => rfl, List.reverse_nil]
    have hannounced : announcedOf id (s.scheduler.dispatchDue s.tasks s.clock due).events = [] :=
      filterMap_dispatchDue (fun _ => rfl) (fun _ _ => rfl) _ _ _ _
    refine hI.frame hhandled (by rw [hannounced, List.nil_append]) fun state hr => ?_
    have hview := lookup_dispatchDue (fun state => (state.monitor, state.flap)) (fun _ _ => rfl) s.scheduler s.tasks s.clock due id
    rw [hr, Option.map_some, Option.map_eq_some_iff] at hview
    obtain ⟨state', hr', heq⟩ := hview
    obtain ⟨hm, hf⟩ := Prod.mk.injEq .. ▸ heq
    exact ⟨state', hr', by rw [hm], hf⟩
  | handled hpc => exact inv_handled hI hpc hlen
  | wrote hpc | notWritten hpc =>
    obtain ⟨hhandled, hannounced⟩ := events_resume _ s.wall _ id
    refine hI.frame hhandled ?_ (same_entry rfl)
    rw [hannounced, hpc]
    exact List.append_nil _
  | @demoted stale m rest fault db hw hd hset =>
    have hid : m.id.val ≠ id := by simpa [undisturbed, hw, hd] using hok
    exact hI.frame rfl (by simp [announcedOf, hid]) (same_entry rfl)
  | joined hpc =>
    refine hI.frame rfl ?_ (same_entry rfl)
    rw [hpc, awaitedOf_eq_nil (Pc.joined_ne_persisting _)]
    rfl
  | notResynced hpc =>
    refine hI.frame rfl ?_ (same_entry rfl)
    rw [hpc, awaitedOf_eq_nil (Pc.resume_ne_persisting _)]
    rfl
  | resyncTick hpc | listedMonitors hpc | received hpc | receivedUnknown hpc | stopped hpc =>
    exact hI.frame rfl (by rw [hpc]; rfl) (same_entry rfl)
  | _ => exact hI.frame rfl rfl (same_entry rfl)

end DampingAux

/-- The law of the damping. From fresh counters, in a run in which no resync changes the status of the entry and the watchdog
does not write for its monitor, fewer than 2^32 handled outcomes of the monitor lead to the status of `statusAfter`, and the alerts
submitted, with the one that still awaits its write, are the changes of the status on the way, after the one that awaited its write
at the start. -/
theorem damping_law {cfg : EngineConfig} {id : UInt64} {s₀ s : System} {log : List Event} {state : MonitorState}
    (h : Run (System.step cfg) (fun s a => undisturbed cfg id s a = true) s₀ s log)
    (hr : s₀.scheduler.registry.lookup id = some state) (hfresh : state.flap = FlapState.default)
    (hlen : (handledFor id log).length < 2 ^ 32) :
    s.registryStatus id = some (statusAfter state.monitor.status (handledFor id log)) ∧
      announcedOf id log ++ awaitedOf id s.pc =
        awaitedOf id s₀.pc ++ statusChanges state.monitor.status (handledFor id log) := by
  have hI : (handledFor id log).length < 2 ^ 32 →
      DampingAux.Inv id state.monitor.status (awaitedOf id s₀.pc) s log := by
    refine h.invariant (I := fun s log => (handledFor id log).length < 2 ^ 32 →
      DampingAux.Inv id state.monitor.status (awaitedOf id s₀.pc) s log) (fun _ => ?_) ?_
    · refine ⟨⟨state, hr, rfl, ?_, ?_⟩, (List.append_nil _).symm⟩
      · rw [hfresh]
        rfl
      · rw [hfresh]
        exact Nat.zero_le _
    · intro s s' log ev a hI hok hs hlen
      refine DampingAux.inv_step (hI ?_) hok hs hlen
      rw [DampingAux.handledFor_append, List.length_append] at hlen
      omega
  obtain ⟨⟨state', hr', htracks⟩, hannounced⟩ := hI hlen
  refine ⟨?_, hannounced⟩
  rw [System.registryStatus, hr', Option.map_some, htracks.status]

/-- A probe of a monitor ends, and its outcome is handled. -/
def dueAndProbed (task : TaskId) (outcome : ProbeOutcome) : List Action := [
  .advance (Duration.fromSecs 60), .scheduler (.dispatchDue [1]),
  .scheduler (.join (.ok (task, .network ⟨1, 0⟩ outcome))), .scheduler .handle]

/-- A probe fails, one could not run, and one fails again: the monitor goes from pending to stale and to down. -/
theorem down_through_stale :
    ∃ (s₀ s : System) (log : List Event) (state : MonitorState),
      Run (System.step EngineConfig.default) (fun s a => undisturbed EngineConfig.default 1 s a = true) s₀ s log ∧
        s₀.scheduler.registry.lookup 1 = some state ∧ s.registryStatus 1 = some .down ∧
        announcedOf 1 log = [.stale, .down] := by
  let step := System.step EngineConfig.default
  let ok := undisturbed EngineConfig.default 1
  let s₀ := (after step always (System.start EngineConfig.default none Db.empty) [
    .user (.addMonitor "api" "http://api" .http 60 none fun _ => 0),
    .scheduler (.listMonitors false), .scheduler .listReturned]).1
  let x := after step ok s₀ (dueAndProbed 0 (.failure "refused") ++ dueAndProbed 1 (.unavailable "no socket") ++
    [.scheduler (.setMonitorStatus false)] ++ dueAndProbed 2 (.failure "refused") ++ [.scheduler (.setMonitorStatus true)])
  have h : Run step (fun s a => ok s a = true) s₀ x.1 x.2 := run_after (by decide +kernel)
  let monitor : Monitor := ⟨⟨1, 0⟩, "api", "http://api", .http, 60, .pending, none⟩
  have hr : s₀.scheduler.registry.lookup 1 = some ⟨monitor, 0, FlapState.default⟩ := by decide +kernel
  have hhandled : handledFor 1 x.2 = [.outcome (.network ⟨1, 0⟩ (.failure "refused")),
      .outcome (.network ⟨1, 0⟩ (.unavailable "no socket")), .outcome (.network ⟨1, 0⟩ (.failure "refused"))] := by decide +kernel
  obtain ⟨hstatus, hannounced⟩ := damping_law h hr rfl (by rw [hhandled]; decide)
  rw [hhandled] at hstatus hannounced
  have hpc : awaitedOf 1 x.1.pc = [] ∧ awaitedOf 1 s₀.pc = [] := by decide +kernel
  rw [hpc.1, hpc.2, List.append_nil, List.nil_append] at hannounced
  exact ⟨s₀, x.1, x.2, _, h, hr, hstatus, hannounced⟩

end Monitra
