import Monitra.Lemmas.Steps

/-!
# Down only on evidence

The evidence against a monitor is read off the events of a run: how many failing outcomes were handled under its id since its
registry entry was made or a success was handled. The failure counter of every entry is at most that, and only the handling of
a failing outcome that takes the counter to the threshold decides on down.
-/

namespace Monitra

open Runs

/-- A failing outcome: a failed probe, one of ours or one pushed, or an unhealthy resource. -/
def Handled.isFailure : Handled → Bool
  | .outcome (.network _ (.failure _)) | .outcome (.collector _ (.unhealthy _) _) | .pushed ⟨_, .failure _⟩ => true
  | _ => false

/-- A succeeding outcome: a successful probe, one of ours or one pushed, or a healthy resource. -/
def Handled.isSuccess : Handled → Bool
  | .outcome (.network _ (.success _)) | .outcome (.collector _ .healthy _) | .pushed ⟨_, .success _⟩ => true
  | _ => false

/-- What one event does to the number of failures counted against a monitor. -/
def countFailure (id : UInt64) (n : Nat) : Event → Nat
  | .registered id' => if id' = id then 0 else n
  | .handled cause =>
    if cause.monitorId.val = id then (if cause.isSuccess then 0 else if cause.isFailure then n + 1 else n) else n
  | _ => n

/-- The failing outcomes of a monitor handled since its registry entry was made or a success of it was handled. -/
def failures (id : UInt64) (log : List Event) : Nat := log.foldl (countFailure id) 0

namespace DownAux

theorem failures_append (id : UInt64) (log ev : List Event) :
    failures id (log ++ ev) = ev.foldl (countFailure id) (failures id log) := by
  rw [failures, List.foldl_append, failures]

/-- Events that count for nothing leave the number as it is. -/
theorem failures_append_of {id : UInt64} {log ev : List Event} (h : ∀ e ∈ ev, ∀ n, countFailure id n e = n) :
    failures id (log ++ ev) = failures id log := by
  rw [failures_append]
  generalize failures id log = n
  induction ev generalizing n with
  | nil => rfl
  | cons e ev ih =>
    rw [List.foldl_cons, h e List.mem_cons_self n]
    exact ih (fun e he => h e (List.mem_cons_of_mem _ he)) n

/-- What a check comes to tells failures and successes apart. -/
theorem verdict_cases (cause : Handled) :
    (∃ message, cause.verdict = .stale message ∧ cause.isSuccess = false ∧ cause.isFailure = false) ∨
      (∃ message latencyMs, cause.verdict = .applied true message latencyMs ∧ cause.isSuccess = true) ∨
      ∃ message latencyMs, cause.verdict = .applied false message latencyMs ∧ cause.isSuccess = false ∧
        cause.isFailure = true := by
  rcases cause with (⟨_, _ | _ | _⟩ | ⟨_, _ | _ | _, _⟩) | ⟨_, _ | _ | _⟩ <;>
    simp [Handled.verdict, Handled.isSuccess, Handled.isFailure]

/-- The failure counter of a monitor says no more than the events, and a decision for down is of a failing outcome that took
the counter to the threshold. -/
structure Inv (id : UInt64) (s : System) (log : List Event) : Prop where
  counted : ∀ state, s.scheduler.registry.lookup id = some state → state.flap.consecutiveFailure.toNat ≤ failures id log
  decided : ∀ p, s.pc = .persisting p → p.cause.monitorId.val = id → p.status = .down →
    p.cause.isFailure = true ∧
      ∃ state, s.scheduler.registry.lookup id = some state ∧ DOWN_THRESHOLD ≤ state.flap.consecutiveFailure

/-- The handling of an outcome counts as the outcome does. -/
theorem failures_handle (s : Scheduler) (wall : UInt64) (cause : Handled) (id : UInt64) (log : List Event) :
    failures id (log ++ (s.handle wall cause).events) = countFailure id (failures id log) (.handled cause) := by
  rw [failures_append]
  have hh := Scheduler.handles_handle s wall cause
  generalize s.handle wall cause = x at hh
  cases hh <;> rfl

/-- The handling of an outcome keeps the counter within the evidence. -/
theorem counted_handle {s : Scheduler} {wall : UInt64} {cause : Handled} {id : UInt64} {log : List Event}
    (h : ∀ state, s.registry.lookup id = some state → state.flap.consecutiveFailure.toNat ≤ failures id log)
    {state' : MonitorState} (hr' : (s.handle wall cause).scheduler.registry.lookup id = some state') :
    state'.flap.consecutiveFailure.toNat ≤ countFailure id (failures id log) (.handled cause) := by
  by_cases hid : cause.monitorId.val = id
  case neg =>
    -- the entry of another monitor, and what it counts, are untouched
    rw [Scheduler.lookup_handle_of_ne s wall (Ne.symm hid)] at hr'
    simpa only [countFailure, if_neg hid] using h state' hr'
  subst hid
  -- an outcome that marks stale counts for nothing
  have hstale : ∀ state message, s.registry.lookup cause.monitorId.val = some state → cause.verdict = .stale message →
      state.flap.consecutiveFailure.toNat ≤
        countFailure cause.monitorId.val (failures cause.monitorId.val log) (.handled cause) := by
    intro state message hr hv
    rcases verdict_cases cause with ⟨_, -, hsucc, hfail⟩ | ⟨_, _, hv', -⟩ | ⟨_, _, hv', -⟩
    · simpa only [countFailure, hsucc, hfail, Bool.false_eq_true, if_false, ite_self] using h state hr
    · cases hv.symm.trans hv'
    · cases hv.symm.trans hv'
  -- an outcome that is counted moves the counter as it moves the evidence
  have happlied : ∀ state success message latencyMs, s.registry.lookup cause.monitorId.val = some state →
      cause.verdict = .applied success message latencyMs →
      (state.flap.count success).consecutiveFailure.toNat ≤
        countFailure cause.monitorId.val (failures cause.monitorId.val log) (.handled cause) := by
    intro state success message latencyMs hr hv
    have hle := h state hr
    rcases verdict_cases cause with ⟨_, hv', -⟩ | ⟨_, _, hv', hsucc⟩ | ⟨_, _, hv', hsucc, hfail⟩
    · cases hv.symm.trans hv'
    · cases hv.symm.trans hv'
      simp [FlapState.count]
    · cases hv.symm.trans hv'
      have hstep := Word.toNat_succ_le state.flap.consecutiveFailure
      simp only [FlapState.count, countFailure, hsucc, hfail, if_true, Bool.false_eq_true, if_false]
      omega
  have hh := Scheduler.handles_handle s wall cause
  generalize s.handle wall cause = x at hr' hh
  cases hh with
  | goesStale hv hr hs =>
    rw [HashMap.lookup_insert, if_pos rfl] at hr'
    cases hr'
    have hle := hstale _ _ hr hv
    exact hle
  | staysStale hv hr => exact hstale _ _ hr' hv
  | unregistered hv hr => cases hr.symm.trans hr'
  | transition hv hr ho | counted hv hr ho =>
    rw [HashMap.lookup_insert, if_pos rfl] at hr'
    cases hr'
    exact happlied _ _ _ _ hr hv

/-- The handling of an outcome decides on down only for a failing one, with the counter at the threshold. -/
theorem down_handle {s : Scheduler} {wall : UInt64} {cause : Handled} {p : Scheduler.Persist}
    (h : (s.handle wall cause).persist = some p) (hd : p.status = .down) :
    p.cause = cause ∧ cause.isFailure = true ∧
      ∃ state', (s.handle wall cause).scheduler.registry.lookup cause.monitorId.val = some state' ∧
        DOWN_THRESHOLD ≤ state'.flap.consecutiveFailure := by
  have hh := Scheduler.handles_handle s wall cause
  generalize s.handle wall cause = x at h hh
  cases hh with
  | goesStale =>
    cases h
    cases hd
  | staysStale => cases h
  | unregistered => cases h
  | @transition success message latencyMs state newStatus hv hr ho =>
    cases h
    simp only at hd
    subst hd
    rcases verdict_cases cause with ⟨_, hv', -⟩ | ⟨_, _, hv', -⟩ | ⟨_, _, hv', -, hfail⟩
    · cases hv.symm.trans hv'
    · cases hv.symm.trans hv'
      rw [FlapState.observe_success] at ho
      split at ho <;> cases ho
    · cases hv.symm.trans hv'
      refine ⟨rfl, hfail, _, by rw [HashMap.lookup_insert, if_pos rfl], ?_⟩
      rw [FlapState.observe_failure] at ho
      split at ho
      · rename_i hthr
        exact hthr.2
      · cases ho
  | counted => cases h

/-- What follows a write counts for nothing. -/
theorem countFailure_resume {id : UInt64} {p : Scheduler.Persist} {wall : UInt64} :
    ∀ e ∈ p.resume wall, ∀ n, countFailure id n e = n := by
  intro e he n
  unfold Scheduler.Persist.resume at he
  split at he
  · simp only [List.mem_cons, List.not_mem_nil, or_false] at he
    rcases he with rfl | rfl | rfl | rfl <;> rfl
  · simp only [List.mem_cons, List.not_mem_nil, or_false] at he
    rcases he with rfl | rfl | rfl <;> rfl

/-- A step that leaves the registry alone, starts no waiting in `persist_status` and counts for nothing. -/
theorem Inv.frame {id : UInt64} {s s' : System} {log ev : List Event} (hI : Inv id s log)
    (hev : ∀ e ∈ ev, ∀ n, countFailure id n e = n) (hreg : s'.scheduler.registry = s.scheduler.registry)
    (hpc : ∀ p, s'.pc = .persisting p → s.pc = .persisting p) : Inv id s' (log ++ ev) where
  counted state hr := by
    rw [failures_append_of hev]
    exact hI.counted state (hreg ▸ hr)
  decided p hp hid hd := by
    rw [hreg]
    exact hI.decided p (hpc p hp) hid hd

/-- Every step keeps the counter within the evidence. -/
theorem inv_step {cfg : EngineConfig} {id : UInt64} {s s' : System} {log ev : List Event} {a : Action} (hI : Inv id s log)
    (he : Effect cfg s a s' ev) : Inv id s' (log ++ ev) := by
  cases he with
  | @resynced monitors after hpc =>
    refine ⟨fun state hr => ?_, fun p hp => absurd hp (Pc.resume_ne_persisting _ _)⟩
    simp only [Scheduler.lookup_resync] at hr
    obtain ⟨m, -, rfl⟩ := Option.map_eq_some_iff.mp hr
    cases hs : s.scheduler.registry.lookup id with
    | none => exact Nat.zero_le _
    | some state =>
      rw [failures_append_of]
      · exact hI.counted state hs
      · intro e he n
        obtain ⟨id', rfl, hnone⟩ := Scheduler.of_mem_events_resync he
        rw [countFailure, if_neg]
        rintro rfl
        cases hs.symm.trans hnone
  | dispatched hpc =>
    refine ⟨fun state hr => ?_, fun p hp => absurd (hpc.symm.trans hp) (by simp)⟩
    obtain ⟨state', hr', -, hflap⟩ := Scheduler.of_lookup_dispatchDue hr
    rw [hflap, failures_append_of]
    · exact hI.counted state' hr'
    · intro e he n
      rcases Scheduler.of_mem_events_dispatchDue he with ⟨task, rfl⟩ | ⟨agentId, assignment, rfl⟩ <;> rfl
  | handled hpc =>
    refine ⟨fun state hr => ?_, fun p hp hid hd => ?_⟩
    · rw [failures_handle]
      exact counted_handle hI.counted hr
    · obtain ⟨rfl, hfail, hstate⟩ := down_handle ((Pc.handled_eq_persisting _ _).mp hp) hd
      rw [hid] at hstate
      exact ⟨hfail, hstate⟩
  | joined => exact hI.frame (by simp) rfl fun p hp => absurd hp (Pc.joined_ne_persisting _ p)
  | wrote | notWritten =>
    refine hI.frame (fun e he n => ?_) rfl (by simp)
    rcases List.mem_cons.mp he with rfl | he
    · rfl
    · exact countFailure_resume e he n
  | demoted | notDemoted => exact hI.frame (by simp [countFailure]) rfl (by simp)
  | _ => exact hI.frame (by simp) rfl (by simp)

/-- The failure counters are within the evidence along every run. -/
theorem inv_of_run {cfg : EngineConfig} {k8sFactory : Option K8sCollectorFactory} {db : Db} {s : System} {log : List Event}
    {ok : System → Action → Prop} (h : Run (System.step cfg) ok (System.start cfg k8sFactory db) s log) (id : UInt64) :
    Inv id s log := by
  refine h.invariant (I := Inv id) ⟨fun state hr => ?_, fun p hp => by cases hp⟩ ?_
  · rw [System.start, Scheduler.new, HashMap.lookup_empty] at hr
    cases hr
  · exact fun s s' log ev a hI _ hs => inv_step hI (effect_of_step hs)

end DownAux

/-- Down only on evidence about the target: the engine writes down, or announces it, only in the handling of a failing outcome
of the monitor, when at least `DOWN_THRESHOLD` of them were handled since the registry entry was made or a success of the
monitor was handled. No other step makes a stored status down. -/
theorem down_only_on_evidence {cfg : EngineConfig} {k8sFactory : Option K8sCollectorFactory} {db : Db} {s s' : System}
    {log ev : List Event} {a : Action}
    (h : Run (System.step cfg) (fun s a => always s a = true) (System.start cfg k8sFactory db) s log)
    (hs : s.step cfg a = some (s', ev)) :
    (∀ m, ((∃ ok, Event.wrote m .down ok ∈ ev) ∨ ∃ name, Event.alert ⟨m, name, .down⟩ ∈ ev) →
      (∃ fault, a = .scheduler (.setMonitorStatus fault)) ∧
        ∃ p, s.pc = .persisting p ∧ p.cause.monitorId = m ∧ p.cause.isFailure = true ∧
          DOWN_THRESHOLD.toNat ≤ failures m.val log) ∧
      ∀ id, s'.db.status? id = some "down" →
        s.db.status? id = some "down" ∨ ∃ m, m.val = id ∧ Event.wrote m .down true ∈ ev := by
  have he := effect_of_step hs
  constructor
  · intro m hm
    obtain ⟨e, hmem, hsets⟩ : ∃ e ∈ ev, e.sets = some (m, .down) := by
      rcases hm with ⟨ok, hm⟩ | ⟨name, hm⟩
      · exact ⟨_, hm, rfl⟩
      · exact ⟨_, hm, rfl⟩
    obtain ⟨fault, p, rfl, hp, rfl, hd⟩ | ⟨_, _, _, _, _, _, _, _, hd⟩ := sets_of_effect he hmem hsets
    case inr => cases hd
    have hI := DownAux.inv_of_run h p.cause.monitorId.val
    obtain ⟨hfail, state, hr, hthr⟩ := hI.decided p hp rfl hd
    have hthr' : DOWN_THRESHOLD.toNat ≤ state.flap.consecutiveFailure.toNat := UInt32.le_iff_toNat_le.mp hthr
    exact ⟨⟨fault, rfl⟩, p, hp, rfl, hfail, hthr'.trans (hI.counted state hr)⟩
  · intro id hd
    rcases monitors_of_effect he with hm | ⟨m, status, hmem, hset⟩ | ⟨u, rfl, hc⟩
    · exact Or.inl (by rwa [Db.status?, Db.row?, hm] at hd)
    · rw [Db.status?_of_setMonitorStatus hset] at hd
      split at hd
      · rename_i hid
        have hstatus : monitorStatusToStr status = monitorStatusToStr .down := Option.some.inj hd
        rw [monitorStatusToStr_inj] at hstatus
        subst hstatus
        exact Or.inr ⟨m, hid.symm, hmem⟩
      · exact Or.inl hd
    · rcases status_of_call hc hd with hd | hd | ⟨hd, -⟩
      · exact Or.inl hd
      · exact absurd hd (by decide)
      · exact absurd hd (by decide)

/-- A monitor is probed twice, and both probes fail. -/
def failedTwice : List Action := [
  .user (.addMonitor "api" "http://api" .http 60 none fun _ => 0),
  .scheduler (.listMonitors false), .scheduler .listReturned, .scheduler (.dispatchDue [1]),
  .scheduler (.join (.ok (0, .network ⟨1, 0⟩ (.failure "refused")))), .scheduler .handle,
  .advance (Duration.fromSecs 60), .scheduler (.dispatchDue [1]),
  .scheduler (.join (.ok (1, .network ⟨1, 0⟩ (.failure "refused")))), .scheduler .handle]

/-- The second failure makes the monitor down. -/
theorem down_on_second_failure :
    ∃ (s s' : System) (log ev : List Event),
      System.step EngineConfig.default s (.scheduler (.setMonitorStatus false)) = some (s', ev) ∧
        .wrote ⟨1, 0⟩ .down true ∈ ev ∧ DOWN_THRESHOLD.toNat ≤ failures 1 log := by
  let step := System.step EngineConfig.default
  let s₀ := System.start EngineConfig.default none Db.empty
  let x := after step always s₀ failedTwice
  let x' := after step always x.1 [.scheduler (.setMonitorStatus false)]
  have h : Run step (fun s a => always s a = true) s₀ x.1 x.2 := run_after (by decide +kernel)
  have hs := step_after step always x.1 (.scheduler (.setMonitorStatus false))
    (by decide +kernel)
  have hw : Event.wrote ⟨1, 0⟩ .down true ∈ x'.2 := by decide +kernel
  obtain ⟨-, p, -, -, -, hn⟩ := (down_only_on_evidence h hs.2).1 ⟨1, 0⟩ (Or.inl ⟨true, hw⟩)
  exact ⟨x.1, x'.1, x.2, x'.2, hs.2, hw, hn⟩

end Monitra
