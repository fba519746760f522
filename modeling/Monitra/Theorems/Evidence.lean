import Monitra.Theorems.Down

/-!
# Fresh evidence and the registry's copy

The scheduler writes a status only when an outcome is a transition for its own copy of the monitor. A status that the watchdog
or a user wrote since the last resync is not in that copy, so a success handled while the copy says up leaves what they wrote.
-/

namespace Monitra

open Runs

/-- Whether the store takes the write of a status that a step makes, if it makes one. -/
def writesSucceed (s : System) : Action → Bool
  | .scheduler (.setMonitorStatus fault) =>
    match s.pc with
    | .persisting p => !fault && (s.db.row? p.cause.monitorId.val).isSome
    | _ => true
  | .watchdog (.next fault) =>
    match s.watchdog with
    | .sweeping stale (m :: _) => !Watchdog.demotes stale m || (!fault && (s.db.row? m.id.val).isSome)
    | _ => true
  | _ => true

/-- Fresh evidence is not lost: in every run in which the store takes every write, the monitor of a success whose handling is
complete is stored as up, if it is stored with a valid interval and not paused. The steps of the run are those that meet the
condition. -/
def EvidenceKept (cfg : EngineConfig) (ok : System → Action → Bool) : Prop :=
  ∀ (k8sFactory : Option K8sCollectorFactory) (db : Db) (s s' : System) (log ev : List Event) (a : Action) (cause : Handled)
    (row : MonitorRow),
    Run (System.step cfg) (fun s a => (ok s a && writesSucceed s a) = true) (System.start cfg k8sFactory db) s log →
    (ok s a && writesSucceed s a) = true → s.step cfg a = some (s', ev) →
    .finished cause ∈ ev → cause.isSuccess = true →
    s'.db.row? cause.monitorId.val = some row → validIntervalSecs row.readInterval = true → row.status ≠ "paused" →
    row.status = "up"

/-- The condition. When the scheduler handles a success of a monitor that is stored with a valid interval and not paused, the
store says up already, or the monitor is registered and the registry's copy of it does not say up. (The counter of successes
wraps after 2³² in a row; it is not about to.) -/
def copyNotAhead (s : System) : Action → Bool
  | .scheduler .handle =>
    match s.pc with
    | .handling cause =>
      !cause.isSuccess || (s.db.row? cause.monitorId.val).all fun row =>
        !validIntervalSecs row.readInterval || row.status == "paused" || row.status == "up" ||
          (s.scheduler.registry.lookup cause.monitorId.val).any fun state =>
            state.monitor.status != .up && state.flap.consecutiveSuccess != 4294967295
    | _ => true
  | _ => true

namespace EvidenceAux

/-- A success is a transition for a copy that does not say up, unless the counter wraps. -/
theorem observe_success_isSome {f : FlapState} {current : MonitorStatus} (hc : current ≠ .up)
    (hf : f.consecutiveSuccess ≠ 4294967295) : (f.observe true current).2 = some .up := by
  rw [FlapState.observe_success, if_pos]
  refine ⟨hc, ?_⟩
  have hne : f.consecutiveSuccess.toNat ≠ 4294967295 := fun h => hf (UInt32.toNat_inj.mp h)
  have hlt := f.consecutiveSuccess.toNat_lt
  rw [UInt32.le_iff_toNat_le]
  simp only [UP_THRESHOLD, FlapState.count, if_true, UInt32.toNat_add, UInt32.toNat_one]
  omega

/-- The verdict of a success. -/
theorem verdict_of_isSuccess {cause : Handled} (h : cause.isSuccess = true) :
    ∃ message latencyMs, cause.verdict = .applied true message latencyMs := by
  rcases DownAux.verdict_cases cause with ⟨_, -, hs, -⟩ | ⟨message, latencyMs, hv, -⟩ | ⟨_, _, -, hs, -⟩
  · cases h.symm.trans hs
  · exact ⟨message, latencyMs, hv⟩
  · cases h.symm.trans hs

/-- A success whose handling is complete at once is of a monitor that is not registered, or is no transition for its copy. -/
theorem of_finished_handle {s : Scheduler} {wall : UInt64} {cause cause' : Handled}
    (h : .finished cause' ∈ (s.handle wall cause).events) (hs : cause'.isSuccess = true) :
    cause' = cause ∧ ∀ state, s.registry.lookup cause.monitorId.val = some state →
      (state.flap.observe true state.monitor.status).2 = none := by
  have hh := Scheduler.handles_handle s wall cause
  generalize s.handle wall cause = x at h hh
  cases hh with
  | goesStale | transition => simp at h
  | staysStale hv =>
    simp only [List.mem_cons, reduceCtorEq, Event.finished.injEq, List.not_mem_nil, or_false, false_or] at h
    subst h
    obtain ⟨_, _, hv'⟩ := verdict_of_isSuccess hs
    cases hv.symm.trans hv'
  | unregistered hv hr =>
    simp only [List.mem_cons, reduceCtorEq, Event.finished.injEq, List.not_mem_nil, or_false, false_or] at h
    refine ⟨h, fun state hr' => ?_⟩
    cases hr.symm.trans hr'
  | @counted success _ _ state hv hr ho =>
    simp only [List.mem_cons, reduceCtorEq, Event.finished.injEq, List.not_mem_nil, or_false, false_or] at h
    subst h
    obtain ⟨_, _, hv'⟩ := verdict_of_isSuccess hs
    cases hv.symm.trans hv'
    refine ⟨rfl, fun state' hr' => ?_⟩
    cases hr.symm.trans hr'
    exact ho

/-- After a write the handling that is complete is the one that waited for it. -/
theorem of_finished_resume {p : Scheduler.Persist} {wall : UInt64} {cause : Handled}
    (h : .finished cause ∈ p.resume wall) : cause = p.cause := by
  unfold Scheduler.Persist.resume at h
  split at h <;> simpa using h

end EvidenceAux

/-- The condition is enough: fresh evidence is not lost when the registry's copy does not say up ahead of the store. -/
theorem evidence_kept_when_not_ahead (cfg : EngineConfig) : EvidenceKept cfg copyNotAhead := by
  intro k8sFactory db s s' log ev a cause row h hok hs hfin hsucc hrow hvalid hpaused
  rw [Bool.and_eq_true] at hok
  cases effect_of_step hs with
  | resynced hpc =>
    obtain ⟨id, hreg, -⟩ := Scheduler.of_mem_events_resync hfin
    cases hreg
  | dispatched hpc =>
    rcases Scheduler.of_mem_events_dispatchDue hfin with ⟨task, h⟩ | ⟨agentId, assignment, h⟩ <;> cases h
  | handled hpc =>
    -- nothing is written, so the store said up already: the copy does not make the success a transition
    obtain ⟨rfl, hnone⟩ := EvidenceAux.of_finished_handle hfin hsucc
    have hrow' : s.db.row? cause.monitorId.val = some row := hrow
    have hok' := hok.1
    simp only [copyNotAhead, hpc, hsucc, hrow', hvalid, Option.all_some, Bool.not_true, Bool.false_or, Bool.or_eq_true,
      beq_iff_eq, hpaused, false_or, Option.any_eq_true, Bool.and_eq_true, bne_iff_ne, ne_eq] at hok'
    rcases hok' with hup | ⟨state, hr, hcopy, hcount⟩
    · exact hup
    · cases (hnone state hr).symm.trans (EvidenceAux.observe_success_isSome hcopy hcount)
  | @wrote p fault db hpc hdb =>
    -- the status written is up
    have hp : cause = p.cause := EvidenceAux.of_finished_resume (by simpa using hfin)
    subst hp
    obtain ⟨_, _, hv⟩ := EvidenceAux.verdict_of_isSuccess hsucc
    have hup : p.status = .up := by rw [apt_of_run h p hpc, hv]; rfl
    have hst := Db.status?_of_setMonitorStatus (answer_eq_ok hdb).2 p.cause.monitorId.val
    rw [if_pos rfl, hup, Db.status?_eq_some_iff] at hst
    obtain ⟨row', hrow', hst⟩ := hst
    cases hrow.symm.trans hrow'
    exact hst
  | @notWritten p fault e hpc hdb =>
    have hw := hok.2
    simp only [writesSucceed, hpc, Bool.and_eq_true, Bool.not_eq_true'] at hw
    obtain ⟨hfault, hsome⟩ := hw
    obtain ⟨r, hr⟩ := Option.isSome_iff_exists.mp hsome
    obtain ⟨db', hdb'⟩ := Db.setMonitorStatus_of_row hr p.status
    subst hfault
    cases hdb.symm.trans hdb'
  | demoted | notDemoted => simp at hfin
  | _ => cases hfin

/-! ## Two runs -/

/-- A monitor is added and registered, and a successful probe makes it up. -/
def wentUp : List Action := [
  .user (.addMonitor "api" "http://api" .http 60 none fun _ => 0),
  .scheduler (.listMonitors false), .scheduler .listReturned, .scheduler (.dispatchDue [1]),
  .scheduler (.join (.ok (0, .network ⟨1, 0⟩ (.success 12)))), .scheduler .handle, .scheduler (.setMonitorStatus false)]

/-- The next probe is due a minute later and succeeds. -/
def succeedsAgain : List Action := [
  .advance (Duration.fromSecs 60), .scheduler (.dispatchDue [1]),
  .scheduler (.join (.ok (1, .network ⟨1, 0⟩ (.success 15))))]

/-- The outcome of that probe. -/
def secondSuccess : Handled := .outcome (.network ⟨1, 0⟩ (.success 15))

/-- Fresh evidence is lost: monitor 1 is paused and resumed between two resyncs, and after the next success it is stored as
pending. -/
theorem success_lost : ¬ EvidenceKept EngineConfig.default always := by
  intro h
  let step := System.step EngineConfig.default
  let s₀ := System.start EngineConfig.default none Db.empty
  let ok : System → Action → Bool := fun s a => always s a && writesSucceed s a
  let x := after step ok s₀ (wentUp ++ [.user (.pauseMonitor 1), .user (.resumeMonitor 1)] ++ succeedsAgain)
  let x' := after step ok x.1 [.scheduler .handle]
  have hr : Run step (fun s a => ok s a = true) s₀ x.1 x.2 := run_after (by decide +kernel)
  have hs := step_after step ok x.1 (.scheduler .handle) (by decide +kernel)
  have hfin : Event.finished secondSuccess ∈ x'.2 := by decide +kernel
  have hrow : (x'.1.db.row? 1).any fun row =>
      validIntervalSecs row.readInterval && row.status != "paused" && row.status != "up" := by
    decide +kernel
  obtain ⟨row, hrow, hp⟩ := Option.any_eq_true _ _ |>.mp hrow
  simp only [Bool.and_eq_true, bne_iff_ne, ne_eq] at hp
  exact hp.2 (h none Db.empty x.1 x'.1 x.2 x'.2 _ secondSuccess row hr hs.1 hs.2 hfin rfl hrow hp.1.1 hp.1.2)

/-- With a resync after the resume, the success makes the monitor up. -/
theorem success_kept :
    ∃ (s : System) (row : MonitorRow), s.db.row? 1 = some row ∧ row.status = "up" := by
  let step := System.step EngineConfig.default
  let s₀ := System.start EngineConfig.default none Db.empty
  let ok : System → Action → Bool := fun s a => copyNotAhead s a && writesSucceed s a
  let resync : List Action := [.scheduler .resyncTick, .scheduler (.listMonitors false), .scheduler .listReturned]
  let x := after step ok s₀
    (wentUp ++ [.user (.pauseMonitor 1), .user (.resumeMonitor 1)] ++ resync ++ succeedsAgain ++ [.scheduler .handle])
  let x' := after step ok x.1 [.scheduler (.setMonitorStatus false)]
  have hr : Run step (fun s a => ok s a = true) s₀ x.1 x.2 := run_after (by decide +kernel)
  have hs := step_after step ok x.1 (.scheduler (.setMonitorStatus false)) (by decide +kernel)
  have hfin : Event.finished secondSuccess ∈ x'.2 := by decide +kernel
  have hrow : (x'.1.db.row? 1).any fun row => validIntervalSecs row.readInterval && row.status != "paused" := by
    decide +kernel
  obtain ⟨row, hrow, hp⟩ := Option.any_eq_true _ _ |>.mp hrow
  simp only [Bool.and_eq_true, bne_iff_ne, ne_eq] at hp
  exact ⟨x'.1, row, hrow, evidence_kept_when_not_ahead EngineConfig.default none Db.empty x.1 x'.1 x.2 x'.2 _ secondSuccess row hr
    hs.1 hs.2 hfin rfl hrow hp.1 hp.2⟩

end Monitra
