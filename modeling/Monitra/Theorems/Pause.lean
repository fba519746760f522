import Monitra.Lemmas.Steps
import Monitra.Lemmas.Scheduler

/-!
# Pause against the engine

A status write is unconditional, and between the moment a party of the engine decides on one and the moment the store carries
it out a user can pause the monitor; the scheduler besides decides from its registry, which shows a pause only after the next
resync. So a pause holds as long as no outcome of the monitor that makes a transition is taken up before a resync, and no
write for it was already decided.
-/

namespace Monitra

open Runs

namespace System

/-- Whether a write for the monitor is decided and not yet carried out: the scheduler waits in `persist_status`, or the sweep
of the watchdog still has it to demote. -/
def decided (s : System) (id : UInt64) : Bool :=
  (match s.pc with
    | .persisting p => decide (p.cause.monitorId.val = id)
    | _ => false) ||
  match s.watchdog with
  | .sweeping stale rest => rest.any fun m => decide (m.id.val = id) && Watchdog.demotes stale m
  | _ => false

end System

/-- Whether a step is a user's call that ends a pause: a resume, a deletion, or an edit that repairs an interval out of range. -/
def endsPause (id : UInt64) (s : System) : Action → Bool
  | .user (.resumeMonitor id') | .user (.removeMonitor id') => id' = id
  | .user (.editMonitor id' _ _ (some _) _) =>
    id' = id ∧ (s.db.row? id).any fun row => row.intervalSecs < 1 ∨ 86400 < row.intervalSecs
  | _ => false

/-- A pause holds: from a pause that returned `Ok` on, by whatever steps that do not end it, the stored status is paused. The
steps of the run are those that meet the condition. -/
def PauseHolds (cfg : EngineConfig) (ok : UInt64 → System → Action → Bool) : Prop :=
  ∀ (k8sFactory : Option K8sCollectorFactory) (db : Db) (id : UInt64) (s₁ s₂ s : System) (log₁ ev log : List Event),
    Run (System.step cfg) (fun s a => ok id s a = true) (System.start cfg k8sFactory db) s₁ log₁ →
    ok id s₁ (.user (.pauseMonitor id)) = true → s₁.step cfg (.user (.pauseMonitor id)) = some (s₂, ev) →
    Run (System.step cfg) (fun s a => (ok id s a && !endsPause id s a) = true) s₂ s log →
    s.db.status? id = some "paused"

/-- The condition. An outcome of a monitor is not a transition in the eyes of the registry while the store holds it paused,
and a monitor is not paused while a write for it is decided. -/
def pauseSeen (id : UInt64) (s : System) : Action → Bool
  | .scheduler .handle =>
    match s.pc with
    | .handling cause =>
      !(decide (cause.monitorId.val = id) && decide (s.db.status? id = some "paused") &&
        (s.scheduler.registry.lookup id).any (Scheduler.transitions · cause.verdict))
    | _ => true
  | .user (.pauseMonitor id') => !(decide (id' = id) && s.decided id)
  | _ => true

namespace PauseAux

/-- A write for the monitor is decided and not yet carried out. -/
def Decided (s : System) (id : UInt64) : Prop :=
  (∃ p, s.pc = .persisting p ∧ p.cause.monitorId.val = id) ∨
    ∃ stale rest, s.watchdog = .sweeping stale rest ∧ ∃ m ∈ rest, m.id.val = id ∧ Watchdog.demotes stale m = true

theorem decided_iff {s : System} {id : UInt64} : s.decided id = true ↔ Decided s id := by
  unfold System.decided Decided
  rw [Bool.or_eq_true]
  refine or_congr ?_ ?_
  · split
    · rename_i p hp
      simp [hp]
    · rename_i hp
      simp only [Bool.false_eq_true, false_iff, not_exists, not_and]
      exact fun p h => absurd h (hp p)
  · split
    · rename_i stale rest hw
      simp [hw]
    · rename_i hw
      simp only [Bool.false_eq_true, false_iff, not_exists, not_and]
      exact fun stale rest h => absurd h (hw stale rest)

/-- No write is decided for a paused monitor. -/
def Inv (id : UInt64) (s : System) : Prop := s.db.status? id = some "paused" → ¬ Decided s id

theorem decided_goOn {s : System} {id : UInt64} {stale : List UInt64} {rest : List Monitor}
    (h : Decided { s with watchdog := Watchdog.goOn stale rest } id) :
    (∃ p, s.pc = .persisting p ∧ p.cause.monitorId.val = id) ∨
      ∃ m ∈ rest, m.id.val = id ∧ Watchdog.demotes stale m = true := by
  rcases h with h | ⟨stale', rest', hw, hm⟩
  · exact Or.inl h
  · simp only [Watchdog.goOn] at hw
    split at hw
    · cases hw
    · cases hw
      exact Or.inr hm

/-- A step that keeps the watchdog where it was and starts no waiting in `persist_status` decides on nothing. -/
theorem decided_of {s s' : System} {id : UInt64} (h : Decided s' id)
    (hpc : ∀ p, s'.pc = .persisting p → s.pc = .persisting p) (hw : s'.watchdog = s.watchdog) : Decided s id := by
  rcases h with ⟨p, hp, hid⟩ | h
  · exact Or.inl ⟨p, hpc p hp, hid⟩
  · rw [hw] at h
    exact Or.inr h

/-- What the store holds as paused is not listed as one to demote. -/
theorem not_demotes {db : Db} {id : UInt64} {stale : List UInt64} {monitors : List Monitor} {m : Monitor}
    (hl : db.listMonitors = .ok monitors) (hm : m ∈ monitors) (hid : m.id.val = id)
    (hd : Watchdog.demotes stale m = true) : db.status? id ≠ some "paused" := by
  intro hp
  obtain ⟨row, hrow, hread⟩ := Db.row_of_mem_listMonitors hl hm
  obtain ⟨-, -, -, -, -, -, hst⟩ := rowToMonitor_eq_ok hread
  rw [hid] at hrow
  obtain ⟨row', hrow', hpaused⟩ := Db.status?_eq_some_iff.mp hp
  cases hrow.symm.trans hrow'
  unfold Watchdog.demotes at hd
  split at hd
  · cases hd
  · simp only [Bool.decide_and, Bool.and_eq_true, decide_eq_true_eq] at hd
    split at hst
    · have hs : m.status = .paused := monitorStatusToStr_inj.mp (hst.symm.trans hpaused)
      exact hd.2.1 hs
    · exact hd.2.2.2 hst

/-- A write of the engine leaves only monitors paused that were, and not the one it writes to. -/
theorem paused_of_write {db db' : Db} {k id : UInt64} {status : MonitorStatus} (h : db.setMonitorStatus k status = .ok db')
    (hs : status ≠ .paused) (hp : db'.status? id = some "paused") : db.status? id = some "paused" := by
  rw [Db.status?_of_setMonitorStatus h] at hp
  split at hp
  · have h' : monitorStatusToStr status = monitorStatusToStr .paused := Option.some.inj hp
    exact absurd (monitorStatusToStr_inj.mp h') hs
  · exact hp

/-- The status the scheduler waits to persist is never paused. -/
theorem status_ne_paused {s : System} (hA : s.Apt) {p : Scheduler.Persist} (hp : s.pc = .persisting p) :
    p.status ≠ .paused := by
  rw [hA p hp]
  cases p.cause.verdict with
  | applied success => cases success <;> simp [Verdict.status]
  | stale => simp [Verdict.status]

/-- Every step that meets the condition keeps it so that no write is decided for a paused monitor. -/
theorem inv_step {cfg : EngineConfig} {id : UInt64} {s s' : System} {a : Action} {ev : List Event} (hA : s.Apt)
    (hI : Inv id s) (hok : pauseSeen id s a = true) (he : Effect cfg s a s' ev) : Inv id s' := by
  intro hp hd
  cases he with
  | @handled cause hpc =>
    rcases hd with ⟨p, hp', hid⟩ | hd
    · obtain ⟨rfl, -, state, hr, ht⟩ := Scheduler.persist_handle ((Pc.handled_eq_persisting _ _).mp hp')
      rw [hid] at hr
      have hp' : s.db.status? id = some "paused" := hp
      simp [pauseSeen, hpc, hid, hp', hr, ht] at hok
    · exact hI hp (Or.inr hd)
  | wrote hpc hdb =>
    have hp' := paused_of_write (answer_eq_ok hdb).2 (status_ne_paused hA hpc) hp
    exact hI hp' (decided_of hd (by simp) rfl)
  | agentsListed hw hw' =>
    rcases hd with hd | ⟨stale, rest, h, -⟩
    · exact hI hp (Or.inl hd)
    · exact hw' stale rest h
  | sweepBegins hw hl =>
    rcases decided_goOn hd with hd | ⟨m, hm, hid, hdem⟩
    · exact hI hp (Or.inl hd)
    · exact not_demotes (answer_eq_ok hl).2 hm hid hdem hp
  | sweepSkipped hw =>
    rcases hd with hd | ⟨stale, rest, h, -⟩
    · exact hI hp (Or.inl hd)
    · cases h
  | demoted hw hdem hdb =>
    have hp' := paused_of_write (answer_eq_ok hdb).2 (by decide) hp
    rcases decided_goOn hd with hd | ⟨m, hm, hid, hdem⟩
    · exact hI hp' (Or.inl hd)
    · exact hI hp' (Or.inr ⟨_, _, hw, m, List.mem_cons_of_mem _ hm, hid, hdem⟩)
  | notDemoted hw hdem hdb =>
    rcases decided_goOn hd with hd | ⟨m, hm, hid, hdem⟩
    · exact hI hp (Or.inl hd)
    · exact hI hp (Or.inr ⟨_, _, hw, m, List.mem_cons_of_mem _ hm, hid, hdem⟩)
  | passedOver hw hdem =>
    rcases decided_goOn hd with hd | ⟨m, hm, hid, hdem⟩
    · exact hI hp (Or.inl hd)
    · exact hI hp (Or.inr ⟨_, _, hw, m, List.mem_cons_of_mem _ hm, hid, hdem⟩)
  | flushed hw =>
    rw [Db.status?, Db.row?, (monitors_of_flush hw).1] at hp
    exact hI hp hd
  | heartbeat hm =>
    rw [Db.status?, Db.row?, hm] at hp
    exact hI hp hd
  | called hc =>
    rcases status_of_call hc hp with hp | hp | ⟨-, rfl⟩
    · exact hI hp hd
    · exact absurd hp (by decide)
    · have hd' : s.decided id = true := decided_iff.mpr hd
      simp [pauseSeen, hd'] at hok
  | joined => exact hI hp (decided_of hd (fun p h => absurd h (Pc.joined_ne_persisting _ p)) rfl)
  | _ => exact hI hp (decided_of hd (by simp) rfl)

/-- A user's call keeps a pause that it does not end. -/
theorem paused_call {s : System} {db' : Db} {u : UserAction} {id : UInt64} (hp : s.db.status? id = some "paused")
    (ha : endsPause id s (.user u) = false) (hc : Call s.db u db') : db'.status? id = some "paused" := by
  obtain ⟨row, hrow, hst⟩ := Db.status?_eq_some_iff.mp hp
  cases hc with
  | added h =>
    obtain ⟨-, hfree, -, -, -, row', -, -, hget⟩ := Db.insertMonitor_eq_ok h
    refine Db.status?_eq_some_iff.mpr ⟨row, ?_, hst⟩
    rw [hget, if_neg]
    · exact hrow
    · rintro rfl
      cases hfree.symm.trans hrow
  | @edited k name target intervalSecs agentId _ h =>
    obtain ⟨-, -, -, hget⟩ := Db.updateMonitor_eq_ok h
    rw [Db.status?, hget, hrow, Option.map_some, Option.map_some]
    split
    · rename_i hk
      subst hk
      have hi : ¬ ((row.intervalSecs < 1 ∨ row.intervalSecs > 86400) ∧ intervalSecs.isSome) := by
        rintro ⟨hr, hv⟩
        obtain ⟨v, rfl⟩ := Option.isSome_iff_exists.mp hv
        simp only [endsPause, hrow, Option.any_some, decide_eq_false_iff_not, true_and, decide_eq_true_eq] at ha
        exact ha hr
      simp only [Db.updatedRow, hi, if_false]
      rw [hst]
    · rw [hst]
  | removed h =>
    obtain ⟨-, -, -, hget⟩ := Db.deleteMonitor_eq_ok h
    refine Db.status?_eq_some_iff.mpr ⟨row, ?_, hst⟩
    rw [hget, if_neg]
    · exact hrow
    · rintro rfl
      simp [endsPause] at ha
  | paused h =>
    rw [Db.status?_of_setMonitorStatus h]
    split
    · rfl
    · exact hp
  | resumed h =>
    rw [Db.status?_of_setMonitorStatus h, if_neg]
    · exact hp
    · rintro rfl
      simp [endsPause] at ha
  | registeredAgent hm => rwa [Db.status?, Db.row?, hm]
  | removedAgent hm => rwa [Db.status?, Db.row?, hm]

/-- A step keeps a pause unless a write for the monitor was decided or the step ends the pause. -/
theorem paused_step {cfg : EngineConfig} {id : UInt64} {s s' : System} {a : Action} {ev : List Event}
    (hp : s.db.status? id = some "paused") (hd : ¬ Decided s id) (ha : endsPause id s a = false) (he : Effect cfg s a s' ev) :
    s'.db.status? id = some "paused" := by
  cases he with
  | @wrote p _ _ hpc hdb =>
    have hk : id ≠ p.cause.monitorId.val := fun h => hd (Or.inl ⟨p, hpc, h.symm⟩)
    exact (Db.status?_of_setMonitorStatus (answer_eq_ok hdb).2 id).trans (by rw [if_neg hk, hp])
  | @demoted stale m rest _ _ hw hdem hdb =>
    have hk : id ≠ m.id.val := fun h => hd (Or.inr ⟨_, _, hw, m, List.mem_cons_self, h.symm, hdem⟩)
    exact (Db.status?_of_setMonitorStatus (answer_eq_ok hdb).2 id).trans (by rw [if_neg hk, hp])
  | flushed hw => rwa [Db.status?, Db.row?, (monitors_of_flush hw).1]
  | heartbeat hm => rwa [Db.status?, Db.row?, hm]
  | called hc => exact paused_call hp ha hc
  | _ => exact hp

end PauseAux

/-- The condition is enough: a pause holds when every outcome that is a transition is taken up after a resync has seen the
pause, and no monitor is paused while a write for it is decided. -/
theorem pause_holds_when_seen (cfg : EngineConfig) : PauseHolds cfg pauseSeen := by
  intro k8sFactory db id s₁ s₂ s log₁ ev log h₁ hok hs h₂
  -- no write is decided for the paused monitor, along the first part of the run and the pause
  have hI₁ : PauseAux.Inv id s₁ ∧ s₁.Apt := by
    refine h₁.stateInvariant (I := fun s => PauseAux.Inv id s ∧ s.Apt) ⟨?_, ?_⟩ ?_
    · rintro - (⟨p, hp, -⟩ | ⟨_, _, hw, -⟩)
      · cases hp
      · cases hw
    · rintro p hp
      cases hp
    · exact fun s s' ev a hI hok hs =>
        ⟨PauseAux.inv_step hI.2 hI.1 hok (effect_of_step hs), apt_step hI.2 (effect_of_step hs)⟩
  have hs' := effect_of_step hs
  have hI₂ := PauseAux.inv_step hI₁.2 hI₁.1 hok hs'
  have hp₂ : s₂.db.status? id = some "paused" := by
    cases hs' with
    | called hc =>
      cases hc with
      | paused h => exact (Db.status?_of_setMonitorStatus h id).trans (if_pos rfl)
  -- and with none decided, every step of the second part keeps it paused
  refine (h₂.stateInvariant (I := fun s => s.db.status? id = some "paused" ∧ PauseAux.Inv id s ∧ s.Apt)
    ⟨hp₂, hI₂, apt_step hI₁.2 hs'⟩ ?_).1
  intro s s' ev a ⟨hp, hI, hA⟩ hok hs
  simp only [Bool.and_eq_true, Bool.not_eq_true'] at hok
  have he := effect_of_step hs
  exact ⟨PauseAux.paused_step hp (hI hp) hok.2 he, PauseAux.inv_step hA hI hok.1 he, apt_step hA he⟩

/-! ## Two runs -/

/-- A monitor is added and registered, and its first probe is under way. -/
def probing : List Action := [
  .user (.addMonitor "api" "http://api" .http 60 none fun _ => 0),
  .scheduler (.listMonitors false), .scheduler .listReturned, .scheduler (.dispatchDue [1])]

/-- The probe ends in a success, which makes the transition from pending to up. -/
def probed : List Action := [
  .scheduler (.join (.ok (0, .network ⟨1, 0⟩ (.success 12)))), .scheduler .handle, .scheduler (.setMonitorStatus false)]

/-- A pause does not hold on every run: monitor 1 is paused while its first probe is under way, and the probe's success makes
it up. -/
theorem pause_overwritten : ¬ PauseHolds EngineConfig.default fun _ => always := by
  intro h
  let step := System.step EngineConfig.default
  let s₀ := System.start EngineConfig.default none Db.empty
  let x₁ := after step always s₀ probing
  let x₂ := after step always x₁.1 [.user (.pauseMonitor 1)]
  let x := after step (fun s a => always s a && !endsPause 1 s a) x₂.1 probed
  have h₁ : Run step (fun s a => always s a = true) s₀ x₁.1 x₁.2 := run_after (by decide +kernel)
  have hs := step_after step always x₁.1 (.user (.pauseMonitor 1)) (by decide +kernel)
  have h₂ : Run step (fun s a => (always s a && !endsPause 1 s a) = true) x₂.1 x.1 x.2 := run_after (by decide +kernel)
  have hx : x.1.db.status? 1 = some "up" := by decide +kernel
  have hp := h none Db.empty 1 x₁.1 x₂.1 x.1 x₁.2 x₂.2 x.2 h₁ hs.1 hs.2 h₂
  exact absurd (hx.symm.trans hp) (by decide)

/-- A resync sees the pause before the probe ends. -/
def resyncedThenProbed : List Action := [
  .scheduler .resyncTick, .scheduler (.listMonitors false), .scheduler .listReturned,
  .scheduler (.join (.ok (0, .network ⟨1, 0⟩ (.success 12)))), .scheduler .handle]

/-- On a run that meets the condition the pause holds: a resync sees it before the probe ends. -/
theorem pause_kept :
    ∃ s₁ s₂ s : System, ∃ log : List Event,
      System.step EngineConfig.default s₁ (.user (.pauseMonitor 1)) = some (s₂, []) ∧
      Run (System.step EngineConfig.default) (fun s a => (pauseSeen 1 s a && !endsPause 1 s a) = true) s₂ s log ∧
      log = [.handled (.outcome (.network ⟨1, 0⟩ (.success 12))), .finished (.outcome (.network ⟨1, 0⟩ (.success 12)))] ∧
      s.db.status? 1 = some "paused" := by
  let step := System.step EngineConfig.default
  let s₀ := System.start EngineConfig.default none Db.empty
  let x₁ := after step (pauseSeen 1) s₀ probing
  let x₂ := after step (pauseSeen 1) x₁.1 [.user (.pauseMonitor 1)]
  let x := after step (fun s a => pauseSeen 1 s a && !endsPause 1 s a) x₂.1 resyncedThenProbed
  have h₁ : Run step (fun s a => pauseSeen 1 s a = true) s₀ x₁.1 x₁.2 := run_after (by decide +kernel)
  have hs := step_after step (pauseSeen 1) x₁.1 (.user (.pauseMonitor 1)) (by decide +kernel)
  have h₂ : Run step (fun s a => (pauseSeen 1 s a && !endsPause 1 s a) = true) x₂.1 x.1 x.2 := run_after (by decide +kernel)
  refine ⟨x₁.1, x₂.1, x.1, x.2, ?_, h₂, by decide +kernel, ?_⟩
  · exact hs.2
  · exact pause_holds_when_seen EngineConfig.default none Db.empty 1 x₁.1 x₂.1 x.1 x₁.2 x₂.2 x.2 h₁ hs.1 hs.2 h₂

end Monitra
