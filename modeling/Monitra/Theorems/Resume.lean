import Monitra.Theorems.Down

/-!
# Damping after a resume

A resume writes `pending` to the store and touches no counter. The counters of a monitor are discarded by a resync that finds
it paused; when the pause and the resume both fall between two resyncs the entry stays, with the failures counted before the
pause, and one more can be enough for down.
-/

namespace Monitra

open Runs

/-- Whether an event is the handling of a failing outcome of the monitor. -/
def handlesFailure (id : UInt64) : Event → Bool
  | .handled cause => decide (cause.monitorId.val = id) && cause.isFailure
  | _ => false

/-- Damping restarts after a resume: from a resume that returned `Ok` to the next write of down for the monitor, at least
`DOWN_THRESHOLD` failing outcomes of it are handled. The steps of the run are those that meet the condition. -/
def DampingRestarts (cfg : EngineConfig) (ok : UInt64 → System → Action → Bool) : Prop :=
  ∀ (k8sFactory : Option K8sCollectorFactory) (db : Db) (id : UInt64) (s₁ s₂ s s' : System) (log₁ ev₁ log ev : List Event)
    (a : Action),
    Run (System.step cfg) (fun s a => ok id s a = true) (System.start cfg k8sFactory db) s₁ log₁ →
    ok id s₁ (.user (.resumeMonitor id)) = true → s₁.step cfg (.user (.resumeMonitor id)) = some (s₂, ev₁) →
    Run (System.step cfg) (fun s a => ok id s a = true) s₂ s log →
    (∀ m written, m.val = id → Event.wrote m .down written ∉ log) →
    s.step cfg a = some (s', ev) → (∃ m written, m.val = id ∧ Event.wrote m .down written ∈ ev) →
    DOWN_THRESHOLD.toNat ≤ log.countP (handlesFailure id)

/-- The condition. A monitor is resumed when the registry has no failure counted for it, or when the list that a resync is
about to apply leaves it out. -/
def countersGone (id : UInt64) (s : System) : Action → Bool
  | .user (.resumeMonitor id') =>
    !decide (id' = id) || ((s.scheduler.registry.lookup id).all fun state => state.flap.consecutiveFailure == 0) ||
      match s.pc with
      | .listed (.ok monitors) _ => (Scheduler.registers monitors id).isNone
      | _ => false
  | _ => true

namespace ResumeAux

open DownAux

/-- The evidence is at most the failing outcomes handled. -/
theorem failures_le (id : UInt64) (log : List Event) : failures id log ≤ log.countP (handlesFailure id) := by
  have hle : ∀ n, log.foldl (countFailure id) n ≤ n + log.countP (handlesFailure id) := by
    induction log with
    | nil => exact fun n => Nat.le_refl n
    | cons e log ih =>
      intro n
      have he : countFailure id n e ≤ n + if handlesFailure id e then 1 else 0 := by
        cases e with
        | handled cause =>
          simp only [countFailure, handlesFailure, Bool.and_eq_true, decide_eq_true_eq]
          split <;> rename_i hid
          · cases cause.isSuccess <;> cases cause.isFailure <;> simp [hid]
          · simp [hid]
        | registered id' =>
          simp only [countFailure]
          split <;> simp
        | _ => exact Nat.le_add_right _ _
      have htail := ih (countFailure id n e)
      rw [List.foldl_cons, List.countP_cons]
      omega
  simpa [failures] using hle 0

/-- A resync is about to drop the entry of the monitor. -/
def Dropping (id : UInt64) (s : System) : Prop :=
  ∃ monitors after, s.pc = .listed (.ok monitors) after ∧ Scheduler.registers monitors id = none

/-- From a resume that meets the condition on, the failure counter of the monitor is within the evidence since the resume, or
about to be dropped. -/
theorem inv_step {cfg : EngineConfig} {id : UInt64} {s s' : System} {log ev : List Event} {a : Action}
    (hI : Inv id s log ∨ Dropping id s) (he : Effect cfg s a s' ev) : Inv id s' (log ++ ev) ∨ Dropping id s' := by
  rcases hI with hI | ⟨monitors, after, hpc, hnone⟩
  · exact Or.inl (DownAux.inv_step hI he)
  · cases he with
    | resynced hpc' =>
      cases hpc.symm.trans hpc'
      refine Or.inl ⟨fun state hr => ?_, fun p hp => absurd hp (Pc.resume_ne_persisting _ _)⟩
      simp only [Scheduler.lookup_resync, hnone] at hr
      cases hr
    | resyncTick hpc' | listedMonitors hpc' | notResynced hpc' | dispatched hpc' | joined hpc' | received hpc'
    | receivedUnknown hpc' | handled hpc' | wrote hpc' | notWritten hpc' | shutdown hpc' | stopped hpc' =>
      cases hpc.symm.trans hpc'
    | _ => exact Or.inr ⟨monitors, after, hpc, hnone⟩

end ResumeAux

/-- The condition is enough: damping restarts after a resume when no failure is counted for the monitor, or the count is about
to be dropped. -/
theorem damping_restarts_when_gone (cfg : EngineConfig) : DampingRestarts cfg countersGone := by
  intro k8sFactory db id s₁ s₂ s s' log₁ ev₁ log ev a h₁ hok hs₁ h₂ _ hs hdown
  have hI₁ := DownAux.inv_of_run h₁ id
  have hI₂ : DownAux.Inv id s₂ [] ∨ ResumeAux.Dropping id s₂ := by
    cases effect_of_step hs₁ with
    | called hc =>
      simp only [countersGone, decide_true, Bool.not_true, Bool.false_or, Bool.or_eq_true] at hok
      rcases hok with hzero | hdrop
      · refine Or.inl ⟨fun state hr => ?_, fun p hp hid hd => ?_⟩
        · rw [hr, Option.all_some, beq_iff_eq] at hzero
          rw [hzero]
          exact Nat.zero_le _
        · obtain ⟨-, state, hr, hthr⟩ := hI₁.decided p hp hid hd
          rw [hr, Option.all_some, beq_iff_eq] at hzero
          rw [hzero] at hthr
          exact absurd hthr (by decide)
      · split at hdrop
        · rename_i monitors after hpc
          exact Or.inr ⟨monitors, after, hpc, by simpa using hdrop⟩
        · cases hdrop
  have hI : DownAux.Inv id s log ∨ ResumeAux.Dropping id s :=
    h₂.invariant (I := fun s log => DownAux.Inv id s log ∨ ResumeAux.Dropping id s) hI₂
      fun _ _ _ _ _ hI _ hs => ResumeAux.inv_step hI (effect_of_step hs)
  obtain ⟨m, written, hid, hmem⟩ := hdown
  obtain ⟨fault, p, rfl, hp, rfl, hd⟩ | ⟨_, _, _, _, _, _, _, _, hd⟩ := sets_of_effect (effect_of_step hs) hmem rfl
  case inr => cases hd
  rcases hI with hI | ⟨monitors, after, hpc, -⟩
  · obtain ⟨-, state, hr, hthr⟩ := hI.decided p hp hid hd
    calc DOWN_THRESHOLD.toNat ≤ state.flap.consecutiveFailure.toNat := UInt32.le_iff_toNat_le.mp hthr
      _ ≤ failures id log := hI.counted state hr
      _ ≤ log.countP (handlesFailure id) := ResumeAux.failures_le id log
  · cases hpc.symm.trans hp

/-! ## Two runs -/

/-- A monitor is added and registered, its first probe fails, and it is paused. -/
def failedThenPaused : List Action := [
  .user (.addMonitor "api" "http://api" .http 60 none fun _ => 0),
  .scheduler (.listMonitors false), .scheduler .listReturned, .scheduler (.dispatchDue [1]),
  .scheduler (.join (.ok (0, .network ⟨1, 0⟩ (.failure "refused")))), .scheduler .handle, .user (.pauseMonitor 1)]

/-- The next probe is due a minute later and fails. -/
def failsAgain (task : TaskId) : List Action := [
  .advance (Duration.fromSecs 60), .scheduler (.dispatchDue [1]),
  .scheduler (.join (.ok (task, .network ⟨1, 0⟩ (.failure "refused")))), .scheduler .handle]

/-- Damping does not restart on every run: no resync comes between the pause and the resume, and one failure after the resume
makes monitor 1 down. -/
theorem down_after_one_failure : ¬ DampingRestarts EngineConfig.default fun _ => always := by
  intro h
  let step := System.step EngineConfig.default
  let s₀ := System.start EngineConfig.default none Db.empty
  let x₁ := after step always s₀ failedThenPaused
  let x₂ := after step always x₁.1 [.user (.resumeMonitor 1)]
  let x := after step always x₂.1 (failsAgain 1)
  let x' := after step always x.1 [.scheduler (.setMonitorStatus false)]
  have h₁ : Run step (fun s a => always s a = true) s₀ x₁.1 x₁.2 := run_after (by decide +kernel)
  have hs₁ := step_after step always x₁.1 (.user (.resumeMonitor 1)) (by decide +kernel)
  have h₂ : Run step (fun s a => always s a = true) x₂.1 x.1 x.2 := run_after (by decide +kernel)
  have hs := step_after step always x.1 (.scheduler (.setMonitorStatus false))
    (by decide +kernel)
  have hlog : ∀ e ∈ x.2, e.sets = none := by decide +kernel
  have hw : Event.wrote ⟨1, 0⟩ .down true ∈ x'.2 := by decide +kernel
  have hcount : x.2.countP (handlesFailure 1) < DOWN_THRESHOLD.toNat := by decide +kernel
  have hthr := h none Db.empty 1 x₁.1 x₂.1 x.1 x'.1 x₁.2 x₂.2 x.2 x'.2 _ h₁ rfl hs₁.2 h₂
    (fun m written _ hmem => absurd (hlog _ hmem) (by simp [Event.sets])) hs.2 ⟨_, true, rfl, hw⟩
  omega

/-- A resync. -/
def resyncing : List Action := [.scheduler .resyncTick, .scheduler (.listMonitors false), .scheduler .listReturned]

/-- When a resync finds the pause, two failures after the resume make the monitor down. -/
theorem down_after_two_failures :
    ∃ (s₂ s s' : System) (log ev : List Event),
      Run (System.step EngineConfig.default) (fun s a => countersGone 1 s a = true) s₂ s log ∧
        System.step EngineConfig.default s (.scheduler (.setMonitorStatus false)) = some (s', ev) ∧
        .wrote ⟨1, 0⟩ .down true ∈ ev ∧ DOWN_THRESHOLD.toNat ≤ log.countP (handlesFailure 1) := by
  let step := System.step EngineConfig.default
  let s₀ := System.start EngineConfig.default none Db.empty
  let x₁ := after step (countersGone 1) s₀ (failedThenPaused ++ resyncing)
  let x₂ := after step (countersGone 1) x₁.1 [.user (.resumeMonitor 1)]
  let x := after step (countersGone 1) x₂.1 (resyncing ++ failsAgain 1 ++ failsAgain 2)
  let x' := after step (countersGone 1) x.1 [.scheduler (.setMonitorStatus false)]
  have h₁ : Run step (fun s a => countersGone 1 s a = true) s₀ x₁.1 x₁.2 := run_after (by decide +kernel)
  have hs₁ := step_after step (countersGone 1) x₁.1 (.user (.resumeMonitor 1)) (by decide +kernel)
  have h₂ : Run step (fun s a => countersGone 1 s a = true) x₂.1 x.1 x.2 := run_after (by decide +kernel)
  have hs := step_after step (countersGone 1) x.1 (.scheduler (.setMonitorStatus false))
    (by decide +kernel)
  have hlog : ∀ e ∈ x.2, e.sets = none := by decide +kernel
  have hw : Event.wrote ⟨1, 0⟩ .down true ∈ x'.2 := by decide +kernel
  have hthr := damping_restarts_when_gone EngineConfig.default none Db.empty 1 x₁.1 x₂.1 x.1 x'.1 x₁.2 x₂.2 x.2 x'.2 _ h₁ hs₁.1
    hs₁.2 h₂ (fun m written _ hmem => absurd (hlog _ hmem) (by simp [Event.sets])) hs.2 ⟨_, true, rfl, hw⟩
  exact ⟨x₂.1, x.1, x'.1, x.2, x'.2, h₂, hs.2, hw, hthr⟩

end Monitra
