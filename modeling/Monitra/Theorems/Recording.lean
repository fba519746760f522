import Monitra.Lemmas.Steps

/-!
# What the handling of an outcome records

A check that ran is submitted to the writer and sent to the live subscribers, and an outcome of a monitor that is not registered
is dropped. An outcome that says nothing about the target takes another way, `mark_stale_and_record`, which submits a result
for the history, whether or not the monitor is registered, and sends none to the subscribers.
-/

namespace Monitra

open Runs

/-- An outcome that says nothing about the target: an unavailable probe, one of ours or one pushed, or a resource in an unknown
state. A task that panicked is handled as one of these. -/
def Handled.isUnavailable : Handled → Bool
  | .outcome (.network _ (.unavailable _)) | .outcome (.collector _ (.unknown _) _) | .pushed ⟨_, .unavailable _⟩ => true
  | _ => false

/-- The results that events send to the live subscribers. -/
def broadcasts (events : List Event) : List CheckResult :=
  events.filterMap fun
    | .broadcast result => some result
    | _ => none

/-- What the handling of an outcome does: up to the await in `persist_status`, and, if it gets there, after it. -/
def Scheduler.handlingEvents (s : Scheduler) (wall wall' : UInt64) (cause : Handled) : List Event :=
  (s.handle wall cause).events ++ (s.handle wall cause).persist.elim [] fun p => p.resume wall'

/-- The handling of an outcome submits exactly one result, of its monitor, and sends the same one to the subscribers. -/
def RecordedAlike (cause : Handled) (events : List Event) : Prop :=
  ∃ result, System.submissions events = [result] ∧ broadcasts events = [result] ∧ result.monitorId = cause.monitorId

/-- The handling of an outcome, begun in a state and ended by a step, leaves no trace: it changes no entry, no row and no
status, and alerts, submits and sends nothing. -/
structure NoEffect (s s' : System) (ev : List Event) : Prop where
  registry : s'.scheduler.registry = s.scheduler.registry
  db : s'.db = s.db
  ended : s'.pc = .select
  silent : ∀ e ∈ ev, e.sets = none ∧ System.submissions [e] = [] ∧ broadcasts [e] = []

namespace RecordingAux

/-- The outcomes handled to the end that said nothing about the target. -/
def unavailableIn (events : List Event) : List Handled :=
  events.filterMap fun
    | .finished cause => if cause.isUnavailable then some cause else none
    | _ => none

/-- What an outcome comes to says whether it is of this sort. -/
theorem isUnavailable_iff (cause : Handled) : cause.isUnavailable = true ↔ ∃ message, cause.verdict = .stale message := by
  rcases cause with (⟨_, _ | _ | _⟩ | ⟨_, _ | _ | _, _⟩) | ⟨_, _ | _ | _⟩ <;> simp [Handled.verdict, Handled.isUnavailable]

theorem of_stale {cause : Handled} {message : String} (hv : cause.verdict = .stale message) : cause.isUnavailable = true :=
  (isUnavailable_iff cause).mpr ⟨message, hv⟩

theorem of_applied {cause : Handled} {success : Bool} {message : Option String} {latencyMs : UInt64}
    (hv : cause.verdict = .applied success message latencyMs) : cause.isUnavailable = false := by
  rw [← Bool.not_eq_true, isUnavailable_iff]
  rintro ⟨_, hv'⟩
  cases hv.symm.trans hv'

/-! ## One handling -/

/-- The handling of an outcome of a registered monitor records it alike in both places exactly when it is of a check that
ran. -/
theorem recordedAlike_iff {s : Scheduler} {wall wall' : UInt64} {cause : Handled} {state : MonitorState}
    (hr : s.registry.lookup cause.monitorId.val = some state) :
    RecordedAlike cause (s.handlingEvents wall wall' cause) ↔ cause.isUnavailable = false := by
  unfold Scheduler.handlingEvents
  have hh := Scheduler.handles_handle s wall cause
  generalize s.handle wall cause = x at hh
  cases hh with
  | goesStale hv | staysStale hv =>
    refine iff_of_false ?_ (by simp [of_stale hv])
    rintro ⟨r, -, hb, -⟩
    cases hb
  | unregistered hv hr' => cases hr.symm.trans hr'
  | transition hv | counted hv => exact iff_of_true ⟨_, rfl, rfl, rfl⟩ (of_applied hv)

/-- The handling of an outcome of a monitor that is not registered has no effect exactly when it is of a check that ran. -/
theorem noEffect_iff {cfg : EngineConfig} {s s' : System} {ev : List Event} {cause : Handled} (hpc : s.pc = .handling cause)
    (hr : s.scheduler.registry.lookup cause.monitorId.val = none) (he : Effect cfg s (.scheduler .handle) s' ev) :
    NoEffect s s' ev ↔ cause.isUnavailable = false := by
  cases he with
  | handled hpc' =>
    cases hpc.symm.trans hpc'
    have hh := Scheduler.handles_handle s.scheduler s.wall cause
    generalize s.scheduler.handle s.wall cause = x at hh
    cases hh with
    | goesStale hv hr' | transition hv hr' | counted hv hr' => cases hr.symm.trans hr'
    | staysStale hv =>
      refine iff_of_false (fun h => ?_) (by simp [of_stale hv])
      have hsub := (h.silent _ (List.mem_cons_of_mem _ List.mem_cons_self)).2.1
      cases hsub
    | unregistered hv => exact iff_of_true ⟨rfl, rfl, rfl, by simp [Event.sets, System.submissions, broadcasts]⟩ (of_applied hv)

/-! ## Whole runs -/

/-- Events that are recorded alike: what is submitted is what is sent, except for one result of an outcome that says nothing
about the target. -/
def Alike (events : List Event) : Prop :=
  broadcasts events = System.submissions events ∧ unavailableIn events = [] ∨
    ∃ result cause, System.submissions events = [result] ∧ broadcasts events = [] ∧ unavailableIn events = [cause]

theorem alike_of_nil {events : List Event} (h : ∀ e ∈ events, broadcasts [e] = [] ∧ System.submissions [e] = [] ∧ unavailableIn [e] = []) :
    Alike events := by
  have hnil : broadcasts events = [] ∧ System.submissions events = [] ∧ unavailableIn events = [] := by
    induction events with
    | nil => exact ⟨rfl, rfl, rfl⟩
    | cons e events ih =>
      obtain ⟨hb, hs, hu⟩ := h e List.mem_cons_self
      obtain ⟨hb', hs', hu'⟩ := ih fun e' he' => h e' (List.mem_cons_of_mem _ he')
      have happ : e :: events = [e] ++ events := rfl
      unfold broadcasts System.submissions unavailableIn at *
      rw [happ, List.filterMap_append, List.filterMap_append, List.filterMap_append, hb, hs, hu, hb', hs', hu']
      exact ⟨rfl, rfl, rfl⟩
  exact Or.inl ⟨hnil.1.trans hnil.2.1.symm, hnil.2.2⟩

/-- What is still to be recorded while a status is persisted is what the outcome came to. -/
def Apt (s : System) : Prop :=
  ∀ p, s.pc = .persisting p → ((∃ checkedAt message, p.record = .stale checkedAt message) ↔ p.cause.isUnavailable = true)

/-- Up to the await in `persist_status`. -/
theorem alike_handle (s : Scheduler) (wall : UInt64) (cause : Handled) :
    Alike (s.handle wall cause).events ∧
      ∀ p, (s.handle wall cause).persist = some p →
        ((∃ checkedAt message, p.record = .stale checkedAt message) ↔ p.cause.isUnavailable = true) := by
  have hh := Scheduler.handles_handle s wall cause
  generalize s.handle wall cause = x at hh
  cases hh with
  | goesStale hv =>
    refine ⟨Or.inl ⟨rfl, rfl⟩, fun p hp => ?_⟩
    cases hp
    exact iff_of_true ⟨_, _, rfl⟩ (of_stale hv)
  | staysStale hv => exact ⟨Or.inr ⟨_, cause, rfl, rfl, by simp [unavailableIn, of_stale hv]⟩, fun _ hp => by cases hp⟩
  | unregistered hv => exact ⟨Or.inl ⟨rfl, by simp [unavailableIn, of_applied hv]⟩, fun _ hp => by cases hp⟩
  | transition hv =>
    refine ⟨Or.inl ⟨rfl, rfl⟩, fun p hp => ?_⟩
    cases hp
    exact iff_of_false nofun (by simp [of_applied hv])
  | counted hv => exact ⟨Or.inl ⟨rfl, by simp [unavailableIn, of_applied hv]⟩, fun _ hp => by cases hp⟩

/-- After it. -/
theorem alike_resume {p : Scheduler.Persist} (wall : UInt64) {m : MonitorId} {status : MonitorStatus} {written : Bool}
    (h : (∃ checkedAt message, p.record = .stale checkedAt message) ↔ p.cause.isUnavailable = true) :
    Alike (.wrote m status written :: p.resume wall) := by
  unfold Scheduler.Persist.resume
  split
  · rename_i success message latencyMs hrec
    have hnot : p.cause.isUnavailable = false := by
      rw [← Bool.not_eq_true, ← h]
      rintro ⟨_, _, hrec'⟩
      cases hrec.symm.trans hrec'
    exact Or.inl ⟨rfl, by simp [unavailableIn, hnot]⟩
  · rename_i checkedAt message hrec
    have hun : p.cause.isUnavailable = true := h.mp ⟨checkedAt, message, hrec⟩
    exact Or.inr ⟨_, p.cause, rfl, rfl, by simp [unavailableIn, hun]⟩

/-- Every step records alike. -/
theorem alike_step {cfg : EngineConfig} {s s' : System} {a : Action} {ev : List Event} (hI : Apt s) (he : Effect cfg s a s' ev) :
    Alike ev ∧ Apt s' := by
  cases he with
  | @handled cause hpc =>
    obtain ⟨ha, hp⟩ := alike_handle s.scheduler s.wall cause
    exact ⟨ha, fun p hpc' => hp p ((Pc.handled_eq_persisting _ _).mp hpc')⟩
  | wrote hpc | notWritten hpc => exact ⟨alike_resume _ (hI _ hpc), fun _ hp => by cases hp⟩
  | resynced hpc =>
    refine ⟨alike_of_nil fun e he => ?_, fun p hp => absurd hp (Pc.resume_ne_persisting _ _)⟩
    obtain ⟨id, rfl, -⟩ := Scheduler.of_mem_events_resync he
    exact ⟨rfl, rfl, rfl⟩
  | dispatched hpc =>
    refine ⟨alike_of_nil fun e he => ?_, hI⟩
    rcases Scheduler.of_mem_events_dispatchDue he with ⟨task, rfl⟩ | ⟨agentId, assignment, rfl⟩ <;> exact ⟨rfl, rfl, rfl⟩
  | notResynced => exact ⟨Or.inl ⟨rfl, rfl⟩, fun p hp => absurd hp (Pc.resume_ne_persisting _ _)⟩
  | joined => exact ⟨Or.inl ⟨rfl, rfl⟩, fun p hp => absurd hp (Pc.joined_ne_persisting _ _)⟩
  | resyncTick | listedMonitors | received | receivedUnknown | stopped => exact ⟨Or.inl ⟨rfl, rfl⟩, fun _ hp => by cases hp⟩
  | _ => exact ⟨Or.inl ⟨rfl, rfl⟩, hI⟩

/-- What is submitted over a run is what is sent, and as many results more as outcomes were handled that said nothing about the
target. -/
structure Inv (s : System) (log : List Event) : Prop where
  apt : Apt s
  length : (broadcasts log).length + (unavailableIn log).length = (System.submissions log).length
  same : unavailableIn log = [] → broadcasts log = System.submissions log

theorem inv_of_run {cfg : EngineConfig} {k8sFactory : Option K8sCollectorFactory} {db : Db} {s : System} {log : List Event}
    {ok : System → Action → Prop} (h : Run (System.step cfg) ok (System.start cfg k8sFactory db) s log) : Inv s log := by
  refine h.invariant (I := Inv) ⟨(fun _ hp => by cases hp), rfl, fun _ => rfl⟩ fun s s' log ev a hI _ hs => ?_
  obtain ⟨hev, hapt⟩ := alike_step hI.apt (effect_of_step hs)
  have hlength := hI.length
  have happ : broadcasts (log ++ ev) = broadcasts log ++ broadcasts ev ∧
      System.submissions (log ++ ev) = System.submissions log ++ System.submissions ev ∧
      unavailableIn (log ++ ev) = unavailableIn log ++ unavailableIn ev :=
    ⟨List.filterMap_append, List.filterMap_append, List.filterMap_append⟩
  obtain ⟨hb, hs, hu⟩ := happ
  rcases hev with ⟨hsame, hnone⟩ | ⟨r, c, hs', hb', hu'⟩
  · refine ⟨hapt, ?_, fun h => ?_⟩
    · rw [hb, hs, hu, hsame, hnone, List.append_nil, List.length_append, List.length_append]
      omega
    · rw [hu, hnone, List.append_nil] at h
      rw [hb, hs, hsame, hI.same h]
  · refine ⟨hapt, ?_, fun h => ?_⟩
    · rw [hb, hs, hu, hs', hb', hu', List.append_nil, List.length_append, List.length_append]
      simp only [List.length_singleton]
      omega
    · rw [hu, hu'] at h
      simp at h

theorem unavailableIn_eq_nil_iff {log : List Event} :
    unavailableIn log = [] ↔ ∀ cause, Event.finished cause ∈ log → cause.isUnavailable = false := by
  unfold unavailableIn
  rw [List.filterMap_eq_nil_iff]
  constructor
  · intro h cause hc
    have h' := h _ hc
    simpa using h'
  · intro h e he
    cases e with
    | finished cause => simp [h cause he]
    | _ => rfl

/-- What the scheduler is handling is handled with what the condition says of it. -/
theorem submissions_eq_iff {s : System} {log : List Event} (hI : Inv s log) :
    broadcasts log = System.submissions log ↔ ∀ cause, Event.finished cause ∈ log → cause.isUnavailable = false := by
  rw [← unavailableIn_eq_nil_iff]
  refine ⟨fun h => ?_, hI.same⟩
  have hlength := hI.length
  rw [h] at hlength
  exact List.eq_nil_of_length_eq_zero (by omega)

end RecordingAux

/-! ## Recorded and streamed alike -/

/-- In every run the handling of an outcome of a registered monitor submits one result of it and sends the same one to the
subscribers exactly when the outcome is of a check that ran, and what was sent is what was submitted exactly when all the
outcomes handled were of such checks. -/
theorem recorded_and_streamed_iff {cfg : EngineConfig} {k8sFactory : Option K8sCollectorFactory} {db : Db} {s : System}
    {log : List Event} (h : Run (System.step cfg) (fun s a => always s a = true) (System.start cfg k8sFactory db) s log) :
    (∀ cause, (s.scheduler.registry.lookup cause.monitorId.val).isSome → ∀ wall wall',
        (RecordedAlike cause (s.scheduler.handlingEvents wall wall' cause) ↔ cause.isUnavailable = false)) ∧
      (broadcasts log = System.submissions log ↔
        ∀ cause, Event.finished cause ∈ log → cause.isUnavailable = false) := by
  refine ⟨fun cause hr wall wall' => ?_, RecordingAux.submissions_eq_iff (RecordingAux.inv_of_run h)⟩
  obtain ⟨state, hstate⟩ := Option.isSome_iff_exists.mp hr
  exact RecordingAux.recordedAlike_iff hstate

/-- A monitor is registered, its probe ends, and the handling of the outcome gets as far as it goes without the store. -/
def probeHandled (outcome : ProbeOutcome) : List Action := [
  .user (.addMonitor "api" "http://api" .http 30 none fun _ => 0),
  .scheduler (.listMonitors false), .scheduler .listReturned, .scheduler (.dispatchDue [1]),
  .scheduler (.join (.ok (0, .network ⟨1, 0⟩ outcome))), .scheduler .handle]

/-- A probe that was unavailable is submitted to the writer, and the subscribers hear nothing of it. -/
theorem unavailable_not_streamed :
    ∃ (s : System) (log : List Event),
      Run (System.step EngineConfig.default) (fun s a => always s a = true)
          (System.start EngineConfig.default none Db.empty) s log ∧
        System.submissions log = [⟨⟨1, 0⟩, 0, false, 0, some "no socket"⟩] ∧ broadcasts log = [] := by
  let step := System.step EngineConfig.default
  let s₀ := System.start EngineConfig.default none Db.empty
  let x := after step always s₀ (probeHandled (.unavailable "no socket") ++ [.scheduler (.setMonitorStatus false)])
  have h : Run step (fun s a => always s a = true) s₀ x.1 x.2 := run_after (by decide +kernel)
  exact ⟨x.1, x.2, h, by decide +kernel, by decide +kernel⟩

/-- A probe that failed is recorded in both places. -/
theorem failure_streamed :
    ∃ (s : System) (log : List Event),
      Run (System.step EngineConfig.default) (fun s a => always s a = true)
          (System.start EngineConfig.default none Db.empty) s log ∧
        System.submissions log = [⟨⟨1, 0⟩, 0, false, 0, some "refused"⟩] ∧ broadcasts log = System.submissions log := by
  let step := System.step EngineConfig.default
  let s₀ := System.start EngineConfig.default none Db.empty
  let x := after step always s₀ (probeHandled (.failure "refused"))
  have h : Run step (fun s a => always s a = true) s₀ x.1 x.2 := run_after (by decide +kernel)
  have hran : RecordingAux.unavailableIn x.2 = [] := by decide +kernel
  exact ⟨x.1, x.2, h, by decide +kernel,
    (recorded_and_streamed_iff h).2.mpr (RecordingAux.unavailableIn_eq_nil_iff.mp hran)⟩

/-! ## Outcomes of monitors that are not registered -/

/-- In every state of every run the handling of an outcome of a monitor that is not registered has no effect exactly when the
outcome is of a check that ran. -/
theorem unregistered_no_effect_iff {cfg : EngineConfig} {k8sFactory : Option K8sCollectorFactory} {db : Db} {s s' : System}
    {log ev : List Event} {cause : Handled}
    (_h : Run (System.step cfg) (fun s a => always s a = true) (System.start cfg k8sFactory db) s log)
    (hr : s.scheduler.registry.lookup cause.monitorId.val = none)
    (hs : System.step cfg { s with pc := .handling cause } (.scheduler .handle) = some (s', ev)) :
    NoEffect s s' ev ↔ cause.isUnavailable = false := by
  let s₁ : System := { s with pc := .handling cause }
  have hiff : NoEffect s₁ s' ev ↔ cause.isUnavailable = false := RecordingAux.noEffect_iff rfl hr (effect_of_step hs)
  constructor
  · intro h
    exact hiff.mp ⟨h.registry, h.db, h.ended, h.silent⟩
  · intro h
    obtain ⟨hregistry, hdb, hended, hsilent⟩ := hiff.mpr h
    exact ⟨hregistry, hdb, hended, hsilent⟩

/-- While the probe of a monitor is in flight the monitor is deleted, and a resync drops its entry. -/
def deletedInFlight (outcome : ProbeOutcome) : List Action := [
  .user (.addMonitor "api" "http://api" .http 30 none fun _ => 0),
  .scheduler (.listMonitors false), .scheduler .listReturned, .scheduler (.dispatchDue [1]),
  .user (.removeMonitor 1),
  .scheduler .resyncTick, .scheduler (.listMonitors false), .scheduler .listReturned,
  .scheduler (.join (.ok (0, .network ⟨1, 0⟩ outcome)))]

/-- An unavailable probe of a monitor that is gone is still submitted to the writer. -/
theorem unregistered_recorded :
    ∃ (s s' : System) (log ev : List Event) (cause : Handled),
      Run (System.step EngineConfig.default) (fun s a => always s a = true)
          (System.start EngineConfig.default none Db.empty) s log ∧
        s.pc = .handling cause ∧ s.scheduler.registry.lookup cause.monitorId.val = none ∧
        s.step EngineConfig.default (.scheduler .handle) = some (s', ev) ∧
        System.submissions ev = [⟨⟨1, 0⟩, 0, false, 0, some "no socket"⟩] ∧ ¬NoEffect s s' ev := by
  let step := System.step EngineConfig.default
  let s₀ := System.start EngineConfig.default none Db.empty
  let x := after step always s₀ (deletedInFlight (.unavailable "no socket"))
  let y := after step always x.1 [.scheduler .handle]
  let cause : Handled := .outcome (.network ⟨1, 0⟩ (.unavailable "no socket"))
  have h : Run step (fun s a => always s a = true) s₀ x.1 x.2 := run_after (by decide +kernel)
  have hs : x.1.step EngineConfig.default (.scheduler .handle) = some (y.1, y.2) :=
    (step_after step always x.1 _ (by decide +kernel)).2
  have hsub : System.submissions y.2 = [⟨⟨1, 0⟩, 0, false, 0, some "no socket"⟩] := by decide +kernel
  refine ⟨x.1, y.1, x.2, y.2, cause, h, rfl, by decide +kernel, hs, hsub, fun hno => ?_⟩
  have hmem : .submitted ⟨⟨1, 0⟩, 0, false, 0, some "no socket"⟩ ∈ y.2 := by decide +kernel
  have hsilent := (hno.silent _ hmem).2.1
  cases hsilent

/-- A success of a monitor that is gone is dropped. -/
theorem unregistered_success_dropped :
    ∃ (s s' : System) (log ev : List Event),
      Run (System.step EngineConfig.default) (fun s a => always s a = true)
          (System.start EngineConfig.default none Db.empty) s log ∧
        s.step EngineConfig.default (.scheduler .handle) = some (s', ev) ∧ NoEffect s s' ev := by
  let step := System.step EngineConfig.default
  let s₀ := System.start EngineConfig.default none Db.empty
  let x := after step always s₀ (deletedInFlight (.success 7))
  let y := after step always x.1 [.scheduler .handle]
  let cause : Handled := .outcome (.network ⟨1, 0⟩ (.success 7))
  have h : Run step (fun s a => always s a = true) s₀ x.1 x.2 := run_after (by decide +kernel)
  have hs : x.1.step EngineConfig.default (.scheduler .handle) = some (y.1, y.2) :=
    (step_after step always x.1 _ (by decide +kernel)).2
  have hr : x.1.scheduler.registry.lookup cause.monitorId.val = none := by decide +kernel
  exact ⟨x.1, y.1, x.2, y.2, h, hs, (unregistered_no_effect_iff h hr hs).mpr rfl⟩

end Monitra
