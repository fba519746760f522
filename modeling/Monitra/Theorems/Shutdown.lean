import Monitra.Engine.Shutdown
import Monitra.Theorems.Tasks

/-!
# What a shutdown loses

The scheduler takes up pushed results in the order in which they found room in the channel, and handles them and the outcomes it
joins one at a time. So what is not handled when it returns is what is still in the channel, and the outcome it has in hand, if
the deadline finds it in `persist_status`. The warning counts the tasks of the set, which neither of them is.
-/

namespace Monitra

open Runs

/-- The pushed results that found room in the channel, in order. -/
def enqueued (log : List ShutdownEvent) : List PushedResult :=
  log.filterMap fun
    | .enqueued pushed => some pushed
    | _ => none

/-- The outcomes joined, in order, each with its task. -/
def joinedOutcomes (log : List ShutdownEvent) : List (TaskId × Outcome) :=
  log.filterMap fun
    | .joined id outcome => some (id, outcome)
    | _ => none

/-- The outcomes of either sort whose handling is complete, in order. -/
def handledCauses (log : List ShutdownEvent) : List Handled :=
  log.filterMap fun
    | .finished cause => some cause
    | _ => none

/-- The tasks that the warning counts. -/
def abandonedTasks (log : List ShutdownEvent) : List Task :=
  log.flatMap fun
    | .abandoned tasks => tasks
    | _ => []

/-- The pushed results among outcomes. -/
def pushedAmong (causes : List Handled) : List PushedResult :=
  causes.filterMap fun
    | .pushed pushed => some pushed
    | _ => none

/-- The outcomes of tasks among them. -/
def outcomesAmong (causes : List Handled) : List Outcome :=
  causes.filterMap fun
    | .outcome o => some o
    | _ => none

@[simp] theorem enqueued_append (log log' : List ShutdownEvent) : enqueued (log ++ log') = enqueued log ++ enqueued log' :=
  List.filterMap_append

@[simp] theorem joinedOutcomes_append (log log' : List ShutdownEvent) :
    joinedOutcomes (log ++ log') = joinedOutcomes log ++ joinedOutcomes log' := List.filterMap_append

@[simp] theorem handledCauses_append (log log' : List ShutdownEvent) :
    handledCauses (log ++ log') = handledCauses log ++ handledCauses log' := List.filterMap_append

@[simp] theorem abandonedTasks_append (log log' : List ShutdownEvent) :
    abandonedTasks (log ++ log') = abandonedTasks log ++ abandonedTasks log' := List.flatMap_append

@[simp] theorem pushedAmong_append (causes causes' : List Handled) :
    pushedAmong (causes ++ causes') = pushedAmong causes ++ pushedAmong causes' := List.filterMap_append

@[simp] theorem outcomesAmong_append (causes causes' : List Handled) :
    outcomesAmong (causes ++ causes') = outcomesAmong causes ++ outcomesAmong causes' := List.filterMap_append

/-- Every pushed result that found room is handled: the `k`-th to find room is the `k`-th to be handled. Every outcome that was
joined is handled, likewise, or its task is counted in the warning. No warning counts pushed results. -/
structure LosesNothingSilently (log : List ShutdownEvent) : Prop where
  pushes : ∀ (k : Nat) pushed, (enqueued log)[k]? = some pushed → (pushedAmong (handledCauses log))[k]? = some pushed
  outcomes : ∀ (k : Nat) id outcome, (joinedOutcomes log)[k]? = some (id, outcome) →
    (outcomesAmong (handledCauses log))[k]? = some outcome ∨ id ∈ (abandonedTasks log).map (·.id)

/-- The outcome that the scheduler has taken up and not finished. -/
def Pc.inHand : Pc → Option Handled
  | .listing after | .listed _ after => after.map .pushed
  | .handling cause => some cause
  | .persisting p => some p.cause
  | .select | .stopped => none

@[simp] theorem Pc.inHand_select : Pc.inHand .select = none := rfl
@[simp] theorem Pc.inHand_stopped : Pc.inHand .stopped = none := rfl
@[simp] theorem Pc.inHand_listing (after : Option PushedResult) : Pc.inHand (.listing after) = after.map .pushed := rfl
@[simp] theorem Pc.inHand_listed (answer : Except StorageError (List Monitor)) (after : Option PushedResult) :
    Pc.inHand (.listed answer after) = after.map .pushed := rfl
@[simp] theorem Pc.inHand_handling (cause : Handled) : Pc.inHand (.handling cause) = some cause := rfl
@[simp] theorem Pc.inHand_persisting (p : Scheduler.Persist) : Pc.inHand (.persisting p) = some p.cause := rfl

@[simp] theorem Pc.inHand_resume (after : Option PushedResult) : (Pc.resume after).inHand = after.map .pushed := by
  cases after <;> rfl

namespace ShutdownAux

open Shutdown

/-! ## What a step takes up and finishes -/

/-- What a step of the scheduler takes up: the outcome of a joined task, or a pushed result. -/
def takenUp (s : System) : Action → List Handled
  | .scheduler (.join joined) => (Scheduler.handleJoined s.tasks joined).2.toList.map .outcome
  | .scheduler .recv => s.pushRx.head?.toList.map .pushed
  | _ => []

/-- Up to its first await the handling of an outcome finishes it, or leaves it in hand. -/
theorem finishedIn_handle (s : Scheduler) (wall : UInt64) (cause : Handled) :
    finishedIn (s.handle wall cause).events ++ ((s.handle wall cause).persist.elim Pc.select Pc.persisting).inHand.toList =
      [cause] := by
  have hh := Scheduler.handles_handle s wall cause
  generalize s.handle wall cause = x at hh
  cases hh <;> rfl

theorem finishedIn_resume (p : Scheduler.Persist) (wall : UInt64) : finishedIn (p.resume wall) = [p.cause] := by
  unfold Scheduler.Persist.resume
  split <;> rfl

theorem finishedIn_resync (s : Scheduler) (now : Instant) (monitors : List Monitor) :
    finishedIn (s.resync now monitors).2 = [] :=
  Scheduler.filterMap_resync (fun _ => rfl) s now monitors

theorem finishedIn_dispatchDue (s : Scheduler) (t : Tasks) (now : Instant) (due : List UInt64) :
    finishedIn (s.dispatchDue t now due).events = [] :=
  Scheduler.filterMap_dispatchDue (fun _ => rfl) (fun _ _ => rfl) s t now due

/-- What was in hand and what a step takes up is finished in the step or in hand after it. -/
theorem hand_step {cfg : EngineConfig} {s s' : System} {a : Action} {ev : List Event} (he : Effect cfg s a s' ev) :
    finishedIn ev ++ s'.pc.inHand.toList = s.pc.inHand.toList ++ takenUp s a := by
  cases he with
  | resyncTick hpc | listedMonitors hpc | notResynced hpc | stopped hpc => simp [hpc, finishedIn, takenUp]
  | resynced hpc => simp [hpc, finishedIn_resync, takenUp]
  | dispatched hpc => simp [finishedIn_dispatchDue, takenUp]
  | @joined joined hpc =>
    rw [hpc]
    simp only [takenUp]
    cases (Scheduler.handleJoined s.tasks joined).2 <;> rfl
  | received hpc hq | receivedUnknown hpc hq => simp [hpc, hq, finishedIn, takenUp]
  | handled hpc =>
    rw [hpc]
    exact finishedIn_handle _ _ _
  | wrote hpc | notWritten hpc =>
    rw [hpc]
    exact congrArg (· ++ []) (finishedIn_resume _ _)
  | _ => simp [finishedIn, takenUp]

/-- A push that is sent joins the channel when there is room. -/
theorem pushRx_ingest {cfg : EngineConfig} {s s' : System} {agentId : UInt64} {m : MonitorId} {outcome : ProbeOutcome}
    {ev : List Event} (hs : s.step cfg (.agent (.ingest agentId m outcome)) = some (s', ev)) :
    s'.pushRx = s.pushRx ++ enqueued (taken cfg s (.agent (.ingest agentId m outcome))) := by
  simp only [System.step, System.agentStep] at hs
  unfold taken
  split at hs
  · split at hs
    · rename_i monitor hm
      simp only [hm]
      split at hs
      · rename_i hown
        cases hs
        simp only [hown, true_and, Channel.trySend]
        split <;> simp [enqueued]
      · rename_i hown
        cases hs
        simp [hown, enqueued]
    · cases hs
      simp [enqueued]
  · cases hs

/-- What was in the channel and what a step sends is taken up in the step or in the channel after it. -/
theorem push_step {cfg : EngineConfig} {s s' : System} {a : Action} {ev : List Event} (hs : s.step cfg a = some (s', ev)) :
    s.pushRx ++ enqueued (taken cfg s a) = pushedAmong (takenUp s a) ++ s'.pushRx := by
  cases effect_of_step hs with
  | @joined joined hpc =>
    simp only [taken, takenUp]
    cases (Scheduler.handleJoined s.tasks joined).2 <;> simp [enqueued, pushedAmong]
  | received hpc hq | receivedUnknown hpc hq => simp [hq, taken, takenUp, enqueued, pushedAmong]
  | ingested hh | refused hh => exact (pushRx_ingest hs).symm
  | _ => simp [taken, takenUp, enqueued, pushedAmong]

/-- The outcomes joined are taken up. -/
theorem join_step (cfg : EngineConfig) (s : System) (a : Action) :
    (joinedOutcomes (taken cfg s a)).map (·.2) = outcomesAmong (takenUp s a) := by
  cases a with
  | agent a =>
    cases a with
    | ingest agentId m outcome =>
      simp only [taken, takenUp]
      repeat' split
      all_goals rfl
    | _ => rfl
  | scheduler a =>
    cases a with
    | join joined =>
      simp only [taken, takenUp]
      cases (Scheduler.handleJoined s.tasks joined).2 <;> rfl
    | recv =>
      simp only [taken, takenUp]
      cases s.pushRx <;> rfl
    | _ => rfl
  | _ => rfl

/-! ## What a run keeps -/

/-- Until the scheduler returns, the pushed results that found room are the ones handled, the one in hand and those in the
channel; the outcomes joined are the ones handled and the one in hand, of tasks that are not in the set any more. While it
drains there is no pushed result in hand. -/
structure Inv (s : Shutdown) (log : List ShutdownEvent) : Prop where
  pushes : enqueued log = pushedAmong (handledCauses log) ++ pushedAmong s.system.pc.inHand.toList ++ s.system.pushRx
  outcomes : (joinedOutcomes log).map (·.2) = outcomesAmong (handledCauses log) ++ outcomesAmong s.system.pc.inHand.toList
  accounts : ∃ spawned, TasksAux.Accounts s.system.tasks spawned ((joinedOutcomes log).map (·.1))
  draining : s.system.draining = true → pushedAmong s.system.pc.inHand.toList = []
  abandoned : abandonedTasks log = []

/-- The tasks stay accounted for. -/
theorem accounts_step {cfg : EngineConfig} {s s' : System} {a : Action} {ev : List Event} (he : Effect cfg s a s' ev)
    {spawned : List Task} {joined : List TaskId} (h : TasksAux.Accounts s.tasks spawned joined) :
    ∃ spawned', TasksAux.Accounts s'.tasks spawned' (joined ++ (joinedOutcomes (taken cfg s a)).map (·.1)) := by
  have hsame : joinedOutcomes (taken cfg s a) = [] →
      TasksAux.Accounts s.tasks spawned (joined ++ (joinedOutcomes (taken cfg s a)).map (·.1)) := by
    intro hnil
    rw [hnil, List.map_nil, List.append_nil]
    exact h
  cases he with
  | @dispatched due hpc =>
    have hd := @TasksAux.accounts_dispatchDue s.scheduler s.tasks s.clock due _ _ h
    exact ⟨_, (List.append_nil joined).symm ▸ hd⟩
  | @joined j hpc hj =>
    obtain ⟨task, ht, hid, o, ho, -⟩ := TasksAux.comesBack_of_joinable h.sound hj
    refine ⟨spawned, ?_⟩
    have htaken : (joinedOutcomes (taken cfg s (.scheduler (.join j)))).map (·.1) = [joinedId j] := by
      simp only [taken, ho]
      rfl
    rw [htaken]
    exact h.join ht hid
  | @ingested agentId m outcome | @refused agentId m outcome =>
    refine ⟨spawned, hsame ?_⟩
    simp only [taken]
    repeat' split
    all_goals rfl
  | _ => exact ⟨spawned, hsame rfl⟩

/-- No pushed result is taken up while the scheduler drains. -/
theorem takenUp_of_draining {cfg : EngineConfig} {s s' : System} {a : Action} {ev : List Event}
    (hs : s.step cfg a = some (s', ev)) (hd : s.draining = true) : pushedAmong (takenUp s a) = [] := by
  cases effect_of_step hs with
  | received hpc hq | receivedUnknown hpc hq => simp [System.step, System.schedulerStep, hpc, hd] at hs
  | @joined joined hpc =>
    simp only [takenUp]
    cases (Scheduler.handleJoined s.tasks joined).2 <;> rfl
  | _ => rfl

/-- While the scheduler drains it has no pushed result in hand. -/
theorem draining_step {cfg : EngineConfig} {s s' : System} {a : Action} {ev : List Event} (hs : s.step cfg a = some (s', ev))
    (hI : s.draining = true → pushedAmong s.pc.inHand.toList = []) :
    s'.draining = true → pushedAmong s'.pc.inHand.toList = [] := by
  intro hd'
  by_cases hd : s.draining = true
  · have hhand := congrArg pushedAmong (hand_step (effect_of_step hs))
    simp only [pushedAmong_append] at hhand
    rw [hI hd, takenUp_of_draining hs hd] at hhand
    exact (List.append_eq_nil_iff.mp hhand).2
  · cases effect_of_step hs with
    | shutdown hpc => simp [hpc, pushedAmong]
    | _ => exact absurd hd' hd

/-- What is told of a step of the daemon. -/
theorem told_system (cfg : EngineConfig) (s : System) (a : Action) (finished : List Handled) (returned : Bool) :
    let ev := taken cfg s a ++ finished.map .finished ++ if returned then [.returned] else []
    enqueued ev = enqueued (taken cfg s a) ∧ joinedOutcomes ev = joinedOutcomes (taken cfg s a) ∧ handledCauses ev = finished ∧
      abandonedTasks ev = [] := by
  have hreturned : ∀ b : Bool, enqueued (if b then [.returned] else []) = [] ∧
      joinedOutcomes (if b then [.returned] else []) = [] ∧ handledCauses (if b then [.returned] else []) = [] ∧
      abandonedTasks (if b then [.returned] else []) = [] := by
    intro b
    cases b <;> exact ⟨rfl, rfl, rfl, rfl⟩
  have hfinished : enqueued (finished.map .finished) = [] ∧ joinedOutcomes (finished.map .finished) = [] ∧
      handledCauses (finished.map .finished) = finished ∧ abandonedTasks (finished.map .finished) = [] := by
    induction finished with
    | nil => exact ⟨rfl, rfl, rfl, rfl⟩
    | cons cause rest ih => exact ⟨ih.1, ih.2.1, congrArg (cause :: ·) ih.2.2.1, ih.2.2.2⟩
  have htaken : handledCauses (taken cfg s a) = [] ∧ abandonedTasks (taken cfg s a) = [] := by
    unfold taken
    split
    · split
      · split <;> exact ⟨rfl, rfl⟩
      · exact ⟨rfl, rfl⟩
    · rename_i joined
      cases (Scheduler.handleJoined s.tasks joined).2 <;> exact ⟨rfl, rfl⟩
    · exact ⟨rfl, rfl⟩
  obtain ⟨h₁, h₂, h₃, h₄⟩ := hreturned returned
  simp only [enqueued_append, joinedOutcomes_append, handledCauses_append, abandonedTasks_append, h₁, h₂, h₃, h₄, hfinished,
    htaken, List.append_nil, List.nil_append, and_self]

/-- A step of the daemon keeps what a run keeps. -/
theorem inv_system {cfg : EngineConfig} {s : Shutdown} {log : List ShutdownEvent} {system : System} {a : Action}
    {events : List Event} (hI : Inv s log) (hs : s.system.step cfg a = some (system, events)) (since : Option Instant)
    (returned : Bool) :
    Inv ⟨system, since⟩
      (log ++ (taken cfg s.system a ++ (finishedIn events).map .finished ++ if returned then [.returned] else [])) := by
  have he := effect_of_step hs
  obtain ⟨henq, hjoin, hfin, haband⟩ := told_system cfg s.system a (finishedIn events) returned
  have hhand := hand_step he
  constructor
  · have hp := congrArg pushedAmong hhand
    simp only [pushedAmong_append] at hp
    rw [enqueued_append, henq, handledCauses_append, hfin, hI.pushes, pushedAmong_append]
    simp only [List.append_assoc]
    rw [push_step hs, ← List.append_assoc (pushedAmong s.system.pc.inHand.toList), ← hp, List.append_assoc]
  · have ho := congrArg outcomesAmong hhand
    simp only [outcomesAmong_append] at ho
    rw [joinedOutcomes_append, hjoin, handledCauses_append, hfin, List.map_append, hI.outcomes, join_step, outcomesAmong_append,
      List.append_assoc, ← ho, List.append_assoc]
  · obtain ⟨spawned, hacc⟩ := hI.accounts
    rw [joinedOutcomes_append, hjoin, List.map_append]
    exact accounts_step he hacc
  · exact draining_step hs hI.draining
  · rw [abandonedTasks_append, haband, hI.abandoned]
    rfl

/-- What a run keeps, until the scheduler returns. -/
theorem inv_step {cfg : EngineConfig} {scheduler : SchedulerConfig} {s s' : Shutdown} {log ev : List ShutdownEvent}
    {a : ShutdownAction} (hI : s.system.pc.isStopped = false → Inv s log) (hs : s.step cfg scheduler a = some (s', ev)) :
    s'.system.pc.isStopped = false → Inv s' (log ++ ev) := by
  intro hgoing
  cases a with
  | system a =>
    simp only [Shutdown.step] at hs
    split at hs
    · cases hs
    · rename_i hnot
      split at hs
      · cases hs
      · rename_i system events hstep
        cases hs
        exact inv_system (hI (Bool.eq_false_iff.mpr hnot)) hstep _ _
  | timeout =>
    simp only [Shutdown.step] at hs
    split at hs
    · split at hs
      · cases hs
        cases hgoing
      · cases hs
    · cases hs

theorem inv_of_run {cfg : EngineConfig} {scheduler : SchedulerConfig} {k8sFactory : Option K8sCollectorFactory} {db : Db}
    {s : Shutdown} {log : List ShutdownEvent}
    (h : Run (Shutdown.step cfg scheduler) (fun s a => always s a = true) (Shutdown.start cfg k8sFactory db) s log) :
    s.system.pc.isStopped = false → Inv s log := by
  refine h.invariant (I := fun s log => s.system.pc.isStopped = false → Inv s log) (fun _ => ?_) ?_
  · exact ⟨rfl, rfl, ⟨[], TasksAux.accounts_empty⟩, nofun, rfl⟩
  · intro s s' log ev a hI _ hs
    exact inv_step hI hs

/-! ## What the end of a run loses -/

/-- A list is found in its first part exactly when there is nothing after it. -/
theorem forall_getElem?_append_iff {α : Type} {l r : List α} :
    (∀ (k : Nat) x, (l ++ r)[k]? = some x → l[k]? = some x) ↔ r = [] := by
  constructor
  · intro h
    cases r with
    | nil => rfl
    | cons x r =>
      have hx := h l.length x (by simp)
      simp at hx
  · rintro rfl k x hx
    rwa [List.append_nil] at hx

/-- With no task of a joined outcome counted, nothing is lost silently exactly when nothing is left in the channel or in hand. -/
theorem losesNothing_iff {log : List ShutdownEvent} {pushes : List PushedResult} {outcomes : List Outcome}
    (hpushes : enqueued log = pushedAmong (handledCauses log) ++ pushes)
    (houtcomes : (joinedOutcomes log).map (·.2) = outcomesAmong (handledCauses log) ++ outcomes)
    (hcounted : ∀ x ∈ joinedOutcomes log, x.1 ∉ (abandonedTasks log).map (·.id)) :
    LosesNothingSilently log ↔ pushes = [] ∧ outcomes = [] := by
  constructor
  · intro h
    constructor
    · have hall : ∀ (k : Nat) pushed, (pushedAmong (handledCauses log) ++ pushes)[k]? = some pushed →
          (pushedAmong (handledCauses log))[k]? = some pushed := by
        intro k pushed hk
        exact h.pushes k pushed (hpushes ▸ hk)
      exact forall_getElem?_append_iff.mp hall
    · have hall : ∀ (k : Nat) outcome, (outcomesAmong (handledCauses log) ++ outcomes)[k]? = some outcome →
          (outcomesAmong (handledCauses log))[k]? = some outcome := by
        intro k outcome hk
        rw [← houtcomes, List.getElem?_map, Option.map_eq_some_iff] at hk
        obtain ⟨⟨id, outcome⟩, hget, rfl⟩ := hk
        exact (h.outcomes k id outcome hget).resolve_right (hcounted _ (List.mem_of_getElem? hget))
      exact forall_getElem?_append_iff.mp hall
  · rintro ⟨rfl, rfl⟩
    rw [List.append_nil] at hpushes houtcomes
    refine ⟨fun k pushed hk => hpushes ▸ hk, fun k id outcome hk => Or.inl ?_⟩
    rw [← houtcomes, List.getElem?_map, hk]
    rfl

/-- The tasks of the outcomes joined are not in the set. -/
theorem Inv.not_running {s : Shutdown} {log : List ShutdownEvent} (hI : Inv s log) :
    ∀ x ∈ joinedOutcomes log, x.1 ∉ s.system.tasks.running.map (·.id) := by
  intro x hx hrun
  obtain ⟨spawned, hacc⟩ := hI.accounts
  have hnodup := hacc.perm.nodup_iff.mp hacc.nodup
  exact (List.nodup_append'.mp hnodup).2.2 hrun (List.mem_map_of_mem hx)

/-- The one step of the daemon with which the scheduler returns. -/
theorem stop_of_step {cfg : EngineConfig} {s s' : System} {a : Action} {ev : List Event} (he : Effect cfg s a s' ev)
    (hgoing : s.pc.isStopped = false) (hstopped : s'.pc.isStopped = true) : s.pc = .select ∧ a = .scheduler .stop ∧ ev = [] := by
  cases he with
  | stopped hpc => exact ⟨hpc, rfl, rfl⟩
  | @resynced _ after | @notResynced _ after => cases after <;> cases hstopped
  | @joined joined => cases h : (Scheduler.handleJoined s.tasks joined).2 <;> simp [h, Pc.isStopped] at hstopped
  | @handled cause => cases h : (s.scheduler.handle s.wall cause).persist <;> simp [h, Pc.isStopped] at hstopped
  | resyncTick | listedMonitors | received | receivedUnknown | wrote | notWritten => cases hstopped
  | _ => exact absurd hstopped (Bool.eq_false_iff.mp hgoing)

/-- A step of the daemon tells that the scheduler returned only if it did. -/
theorem stopped_of_returned {cfg : EngineConfig} {s : System} {a : Action} {finished : List Handled} {stopped : Bool}
    (h : .returned ∈ taken cfg s a ++ finished.map .finished ++ if stopped then [.returned] else []) : stopped = true := by
  cases stopped with
  | true => rfl
  | false =>
    simp only [Bool.false_eq_true, if_false, List.append_nil, List.mem_append] at h
    rcases h with h | h
    · unfold taken at h
      split at h
      · split at h
        · split at h <;> simp at h
        · cases h
      · simp at h
      · cases h
    · simp at h

/-- The end of a run, that only adds a warning of the tasks in the set and that the scheduler returned. -/
theorem losesNothing_end {s : Shutdown} {log ev : List ShutdownEvent} (hI : Inv s log)
    (hev : enqueued ev = [] ∧ joinedOutcomes ev = [] ∧ handledCauses ev = [])
    (hcounted : ∀ task ∈ abandonedTasks ev, task ∈ s.system.tasks.running) :
    LosesNothingSilently (log ++ ev) ↔
      pushedAmong s.system.pc.inHand.toList ++ s.system.pushRx = [] ∧ outcomesAmong s.system.pc.inHand.toList = [] := by
  obtain ⟨henq, hjoin, hfin⟩ := hev
  refine losesNothing_iff ?_ ?_ ?_
  · rw [enqueued_append, henq, handledCauses_append, hfin, List.append_nil, List.append_nil, hI.pushes, List.append_assoc]
  · rw [joinedOutcomes_append, hjoin, handledCauses_append, hfin, List.append_nil, List.append_nil, hI.outcomes]
  · intro x hx hin
    rw [joinedOutcomes_append, hjoin, List.append_nil] at hx
    rw [abandonedTasks_append, hI.abandoned, List.nil_append] at hin
    obtain ⟨task, ht, hid⟩ := List.mem_map.mp hin
    exact hI.not_running x hx (List.mem_map.mpr ⟨task, hcounted task ht, hid⟩)

end ShutdownAux

/-- For every run and the step with which the scheduler returns: nothing is lost silently exactly when the channel is empty then
and the scheduler does not wait for the store to take a status. -/
theorem loses_nothing_iff {cfg : EngineConfig} {scheduler : SchedulerConfig} {k8sFactory : Option K8sCollectorFactory} {db : Db}
    {s s' : Shutdown} {log ev : List ShutdownEvent} {a : ShutdownAction}
    (h : Run (Shutdown.step cfg scheduler) (fun s a => always s a = true) (Shutdown.start cfg k8sFactory db) s log)
    (hs : s.step cfg scheduler a = some (s', ev)) (hreturned : .returned ∈ ev) :
    LosesNothingSilently (log ++ ev) ↔ s.system.pushRx = [] ∧ ∀ p, s.system.pc ≠ .persisting p := by
  have hI := ShutdownAux.inv_of_run h
  cases a with
  | system a =>
    simp only [Shutdown.step] at hs
    split at hs
    · cases hs
    · rename_i hnot
      have hgoing := Bool.eq_false_iff.mpr hnot
      split at hs
      · cases hs
      · rename_i system events hstep
        cases hs
        have hstopped : system.pc.isStopped = true := ShutdownAux.stopped_of_returned hreturned
        obtain ⟨hpc, rfl, rfl⟩ := ShutdownAux.stop_of_step (effect_of_step hstep) hgoing hstopped
        rw [ShutdownAux.losesNothing_end (hI hgoing) ?_ ?_]
        · simp [hpc, pushedAmong, outcomesAmong]
        · rw [hstopped]
          exact ⟨rfl, rfl, rfl⟩
        · rw [hstopped]
          nofun
  | timeout =>
    simp only [Shutdown.step] at hs
    split at hs
    · split at hs
      · rename_i since hsince hdue
        cases hs
        obtain ⟨hd, -, hwaits⟩ := hdue
        have hgoing : s.system.pc.isStopped = false := by
          cases hpc : s.system.pc <;> first | rfl | simp [Shutdown.drainWaits, hpc] at hwaits
        have hI := hI hgoing
        rw [ShutdownAux.losesNothing_end hI ⟨rfl, rfl, rfl⟩ fun task ht => by simpa [abandonedTasks] using ht,
          hI.draining hd, List.nil_append]
        refine and_congr_right fun _ => ?_
        cases hpc : s.system.pc with
        | persisting p =>
          have hnone := hI.draining hd
          rw [hpc] at hnone
          cases hcause : p.cause <;> simp [hcause, pushedAmong, outcomesAmong] at hnone ⊢
        | select => simp [outcomesAmong]
        | _ => simp [Shutdown.drainWaits, hpc] at hwaits
      · cases hs
    · cases hs

/-! ## Two runs -/

/-- A monitor that an agent checks is registered, the agent pushes a result, and the scheduler takes some steps before the
shutdown signal is seen. -/
def pushThenQuit (steps : List SchedulerAction) : List Action :=
  [.user (.registerAgent "edge" "host" none "secret" fun _ => 0),
    .user (.addMonitor "disk" "/" .hostAgentCheck 60 (some 1) fun _ => 0),
    .scheduler (.listMonitors false), .scheduler .listReturned, .agent (.configure 1 1),
    .agent (.ingest 1 ⟨1, 0⟩ (.failure "disk full"))] ++ steps.map .scheduler ++ [.scheduler .shutdown]

/-- The shutdown signal is seen while the result is in the channel: the scheduler stops at once, and nothing tells of it. -/
theorem pushed_result_lost :
    ¬∀ (cfg : EngineConfig) (scheduler : SchedulerConfig) (k8sFactory : Option K8sCollectorFactory) (db : Db) (s s' : Shutdown)
      (log ev : List ShutdownEvent) (a : ShutdownAction),
      Run (Shutdown.step cfg scheduler) (fun s a => always s a = true) (Shutdown.start cfg k8sFactory db) s log →
      s.step cfg scheduler a = some (s', ev) → .returned ∈ ev → LosesNothingSilently (log ++ ev) := by
  intro h
  let step := Shutdown.step EngineConfig.default SchedulerConfig.default
  let x := after step always (Shutdown.start EngineConfig.default none Db.empty) ((pushThenQuit []).map .system)
  let x' := after step always x.1 [.system (.scheduler .stop)]
  have hr : Run step (fun s a => always s a = true) (Shutdown.start EngineConfig.default none Db.empty) x.1 x.2 :=
    run_after (by decide +kernel)
  have hs := step_after step always x.1 (.system (.scheduler .stop)) (by decide +kernel)
  have hlost := (h _ _ _ _ x.1 x'.1 x.2 x'.2 _ hr hs.2 (by decide +kernel)).pushes 0 ⟨⟨1, 0⟩, .failure "disk full"⟩
    (by decide +kernel)
  have hnone : (pushedAmong (handledCauses (x.2 ++ x'.2)))[0]? = none := by decide +kernel
  cases hnone.symm.trans hlost

/-- With the result handled before, the scheduler stops and nothing is lost. -/
theorem pushed_result_handled :
    ∃ log, enqueued log = [⟨⟨1, 0⟩, .failure "disk full"⟩] ∧ .returned ∈ log ∧ LosesNothingSilently log := by
  let step := Shutdown.step EngineConfig.default SchedulerConfig.default
  let x := after step always (Shutdown.start EngineConfig.default none Db.empty) ((pushThenQuit [.recv, .handle]).map .system)
  let x' := after step always x.1 [.system (.scheduler .stop)]
  have hr : Run step (fun s a => always s a = true) (Shutdown.start EngineConfig.default none Db.empty) x.1 x.2 :=
    run_after (by decide +kernel)
  have hs := step_after step always x.1 (.system (.scheduler .stop)) (by decide +kernel)
  have hlast : x.1.system.pushRx = [] ∧ ∀ p, x.1.system.pc ≠ .persisting p := ⟨by decide +kernel, fun _ h => by cases h⟩
  exact ⟨x.2 ++ x'.2, by decide +kernel, by decide +kernel,
    (loses_nothing_iff (a := .system (.scheduler .stop)) hr hs.2 (by decide +kernel)).mpr hlast⟩

end Monitra
