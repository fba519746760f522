import Monitra.Lemmas.Steps

/-!
# A dispatched check comes back

Every task that a dispatch spawns is in the set of tasks until it is joined, and it is joined once. Its owner is recorded for
exactly as long, so a task that panics is still attributed to its monitor. The scheduler joins and handles one after the other:
the calls of `handle_outcome` match the joins in order, and each is for the monitor of the task that was joined.
-/

namespace Monitra

open Runs

/-- A run told step by step: the actions, each with the events of its step. -/
abbrev Trace : Type := List (Action × List Event)

/-- The tasks that events spawn. -/
def spawnedIn (ev : List Event) : List Task :=
  ev.filterMap fun
    | .spawned task => some task
    | _ => none

/-- The outcomes with which `handle_outcome` is called. -/
def outcomesIn (ev : List Event) : List Outcome :=
  ev.filterMap fun
    | .handled (.outcome o) => some o
    | _ => none

namespace Trace

/-- The tasks spawned so far. -/
def spawned (tr : Trace) : List Task := tr.flatMap fun x => spawnedIn x.2

/-- How the tasks joined so far ended, in order. -/
def joined (tr : Trace) : List (Except JoinError (TaskId × Outcome)) :=
  tr.filterMap fun
    | (.scheduler (.join joined), _) => some joined
    | _ => none

/-- The calls of `handle_outcome` so far, in order. -/
def outcomes (tr : Trace) : List Outcome := tr.flatMap fun x => outcomesIn x.2

end Trace

/-- The outcome of a joined task that the scheduler is about to handle. -/
def System.inHand (s : System) : List Outcome :=
  match s.pc with
  | .handling (.outcome o) => [o]
  | _ => []

/-- Whether an outcome is the right one to handle for a task that ended: the one the task returned, of its own monitor; or, for
a task that panicked, that a probe was unavailable or that a resource is in an unknown state, for the monitor of the task. -/
def TaskBody.comesBack (body : TaskBody) : Except JoinError (TaskId × Outcome) → Outcome → Prop
  | .ok (_, outcome), o => o = outcome ∧ body.mayReturn outcome = true
  | .error err, .network m outcome =>
    (∃ kind target, body = .network m kind target) ∧ outcome = .unavailable err.message
  | .error err, .collector m status _ =>
    m.val = body.monitorId.val ∧ (∀ m kind target, body ≠ .network m kind target) ∧ status = .unknown err.message

/-- A call of `handle_outcome` is for a task that was spawned, and is the right one for how it ended. -/
def CameBack (tasks : List Task) (joined : Except JoinError (TaskId × Outcome)) (o : Outcome) : Prop :=
  ∃ task ∈ tasks, task.id = joinedId joined ∧ task.body.comesBack joined o

namespace TasksAux

/-! ## The set of tasks -/

/-- Whether an owner is the one that is recorded for a task. -/
def owns : TaskOwner → TaskBody → Prop
  | .network m, body => ∃ kind target, body = .network m kind target
  | .collector m, body => m.val = body.monitorId.val ∧ ∀ m kind target, body ≠ .network m kind target

/-- The ids of the tasks are distinct and not to be used again, and exactly the tasks have an owner, the right one. -/
structure Sound (t : Tasks) : Prop where
  nodup : (t.running.map (·.id)).Nodup
  fresh : ∀ task ∈ t.running, task.id < t.nextId
  owned : ∀ task ∈ t.running, ∃ owner, t.owners.lookup task.id = some owner ∧ owns owner task.body
  running : ∀ id, (t.owners.lookup id).isSome → id ∈ t.running.map (·.id)

/-- A task that is spawned with its own owner. -/
theorem Sound.spawn {t : Tasks} (h : Sound t) {body : TaskBody} {owner : TaskOwner} (ho : owns owner body) :
    Sound (t.spawn body owner) := by
  have hne : ∀ task ∈ t.running, task.id ≠ t.nextId := fun task ht => (h.fresh task ht).ne
  constructor
  · simp only [Tasks.spawn, List.map_append, List.map_cons, List.map_nil]
    refine List.nodup_append'.mpr ⟨h.nodup, List.nodup_singleton _, ?_⟩
    rw [List.disjoint_singleton]
    intro hmem
    obtain ⟨task, ht, he⟩ := List.mem_map.mp hmem
    exact hne task ht he
  · intro task ht
    simp only [Tasks.spawn, List.mem_append, List.mem_singleton] at ht ⊢
    rcases ht with ht | rfl
    · exact Nat.lt_succ_of_lt (h.fresh task ht)
    · exact Nat.lt_succ_self _
  · intro task ht
    simp only [Tasks.spawn, List.mem_append, List.mem_singleton] at ht ⊢
    rcases ht with ht | rfl
    · rw [HashMap.lookup_insert, if_neg (hne task ht)]
      exact h.owned task ht
    · exact ⟨owner, by rw [HashMap.lookup_insert, if_pos rfl], ho⟩
  · intro id hid
    simp only [Tasks.spawn, HashMap.lookup_insert] at hid ⊢
    rw [List.map_append, List.mem_append]
    split at hid
    · rename_i he
      exact Or.inr (by simp [he])
    · exact Or.inl (h.running id hid)

/-- The tasks that are left when a task is joined. -/
theorem Sound.joined {t : Tasks} (h : Sound t) (joined : Except JoinError (TaskId × Outcome)) :
    Sound (Scheduler.handleJoined t joined).1 := by
  have herase : ∀ id, Sound { t with running := t.running.filter fun task => task.id ≠ id, owners := t.owners.erase id } := by
    intro id
    constructor
    · exact h.nodup.sublist (List.filter_sublist.map _)
    · exact fun task ht => h.fresh task (List.mem_filter.mp ht).1
    · intro task ht
      obtain ⟨ht, hid⟩ := List.mem_filter.mp ht
      rw [HashMap.lookup_erase, if_neg (by simpa using hid)]
      exact h.owned task ht
    · intro k hk
      rw [HashMap.lookup_erase] at hk
      split at hk
      · cases hk
      · rename_i hne
        obtain ⟨task, ht, rfl⟩ := List.mem_map.mp (h.running k hk)
        exact List.mem_map.mpr ⟨task, List.mem_filter.mpr ⟨ht, by simpa using hne⟩, rfl⟩
  unfold Scheduler.handleJoined
  split
  · exact herase _
  · exact herase _

/-- A join takes its task out of the set, and nothing else. -/
theorem running_joined (t : Tasks) (joined : Except JoinError (TaskId × Outcome)) :
    (Scheduler.handleJoined t joined).1.running = t.running.filter fun task => task.id ≠ joinedId joined := by
  cases joined <;> rfl

theorem nextId_joined (t : Tasks) (joined : Except JoinError (TaskId × Outcome)) :
    (Scheduler.handleJoined t joined).1.nextId = t.nextId := by
  cases joined <;> rfl

/-- A task that can be joined comes back: it is one of the set, and the outcome to handle is the right one for how it ended. -/
theorem comesBack_of_joinable {s : System} (h : Sound s.tasks) {joined : Except JoinError (TaskId × Outcome)}
    (hj : s.joinable joined = true) :
    ∃ task ∈ s.tasks.running, task.id = joinedId joined ∧
      ∃ o, (Scheduler.handleJoined s.tasks joined).2 = some o ∧ task.body.comesBack joined o := by
  cases joined with
  | ok x =>
    obtain ⟨id, outcome⟩ := x
    simp only [System.joinable, List.any_eq_true, decide_eq_true_eq] at hj
    obtain ⟨task, ht, hid, hret⟩ := hj
    exact ⟨task, ht, hid, outcome, rfl, rfl, hret⟩
  | error err =>
    simp only [System.joinable, List.any_eq_true, decide_eq_true_eq] at hj
    obtain ⟨task, ht, hid⟩ := hj
    obtain ⟨owner, hlook, howns⟩ := h.owned task ht
    refine ⟨task, ht, hid, ?_⟩
    rw [hid] at hlook
    cases owner with
    | network m =>
      exact ⟨.network m (.unavailable err.message), by simp [Scheduler.handleJoined, hlook], howns, rfl⟩
    | collector m =>
      exact ⟨.collector m (.unknown err.message) 0, by simp [Scheduler.handleJoined, hlook], howns.1, howns.2, rfl⟩

/-! ## Where the tasks are -/

/-- The tasks spawned so far, and the ids of the ones joined: the others are the ones in the set. -/
structure Accounts (t : Tasks) (spawned : List Task) (joined : List TaskId) : Prop where
  sound : Sound t
  fresh : ∀ task ∈ spawned, task.id < t.nextId
  nodup : (spawned.map (·.id)).Nodup
  running : ∀ task ∈ t.running, task ∈ spawned
  perm : (spawned.map (·.id)).Perm (t.running.map (·.id) ++ joined)

/-- At first there are none. -/
theorem accounts_empty : Accounts Tasks.empty [] [] := by
  refine ⟨⟨List.nodup_nil, nofun, nofun, fun id hid => ?_⟩, nofun, List.nodup_nil, nofun, .refl _⟩
  rw [Tasks.empty, HashMap.lookup_empty] at hid
  cases hid

theorem Accounts.spawn {t : Tasks} {spawned : List Task} {joined : List TaskId} (h : Accounts t spawned joined)
    {body : TaskBody} {owner : TaskOwner} (ho : owns owner body) :
    Accounts (t.spawn body owner) (spawned ++ [⟨t.nextId, body⟩]) joined where
  sound := h.sound.spawn ho
  fresh task ht := by
    rcases List.mem_append.mp ht with ht | ht
    · exact Nat.lt_succ_of_lt (h.fresh task ht)
    · rw [List.mem_singleton.mp ht]
      exact Nat.lt_succ_self _
  nodup := by
    rw [List.map_append]
    refine List.nodup_append'.mpr ⟨h.nodup, List.nodup_singleton _, ?_⟩
    rw [List.map_singleton, List.disjoint_singleton]
    intro hmem
    obtain ⟨task, ht, he⟩ := List.mem_map.mp hmem
    exact (h.fresh task ht).ne he
  running task ht := by
    simp only [Tasks.spawn, List.mem_append] at ht ⊢
    exact ht.imp_left (h.running task)
  perm := by
    have hp := h.perm.append_right [t.nextId]
    rw [List.append_assoc] at hp
    simp only [Tasks.spawn, List.map_append, List.map_singleton, List.append_assoc]
    exact hp.trans (List.perm_append_comm.append_left _)

theorem Accounts.join {t : Tasks} {spawned : List Task} {joined : List TaskId} (h : Accounts t spawned joined)
    {j : Except JoinError (TaskId × Outcome)} {task : Task} (ht : task ∈ t.running) (hid : task.id = joinedId j) :
    Accounts (Scheduler.handleJoined t j).1 spawned (joined ++ [joinedId j]) where
  sound := h.sound.joined j
  fresh task' ht' := by
    rw [nextId_joined]
    exact h.fresh task' ht'
  nodup := h.nodup
  running task' ht' := by
    rw [running_joined] at ht'
    exact h.running task' (List.mem_filter.mp ht').1
  perm := by
    have hrest : (t.running.map (·.id)).Perm
        ((t.running.filter fun task => task.id ≠ joinedId j).map (·.id) ++ [joinedId j]) := by
      have hfilter : (t.running.filter fun task => task.id ≠ joinedId j).map (·.id) =
          (t.running.map (·.id)).erase (joinedId j) := by
        rw [h.sound.nodup.erase_eq_filter, List.filter_map]
        congr 1
        refine List.filter_congr fun task _ => ?_
        rw [Function.comp_apply, Bool.eq_iff_iff, decide_eq_true_eq, bne_iff_ne]
      have hmem : joinedId j ∈ t.running.map (·.id) := hid ▸ List.mem_map_of_mem ht
      rw [hfilter]
      exact (List.perm_cons_erase hmem).trans (List.perm_append_singleton _ _).symm
    rw [running_joined]
    refine h.perm.trans ((hrest.append_right joined).trans ?_)
    rw [List.append_assoc]
    exact List.perm_append_comm.append_left _

/-! ## The trace -/

/-- What a dispatch spawns joins the tasks there are. -/
theorem accounts_dispatchDue {s : Scheduler} {t : Tasks} {now : Instant} {due : List UInt64} {spawned : List Task}
    {joined : List TaskId} (h : Accounts t spawned joined) :
    Accounts (s.dispatchDue t now due).tasks (spawned ++ spawnedIn (s.dispatchDue t now due).events) joined := by
  refine Scheduler.dispatchDue_invariant (P := fun d => Accounts d.tasks (spawned ++ spawnedIn d.events) joined) ?_ ?_
  · rw [spawnedIn, List.filterMap_nil, List.append_nil]
    exact h
  · intro d id d' hd hdis
    have hspawn : ∀ (s' : Scheduler) body owner, owns owner body →
        Accounts (Scheduler.Dispatch.spawn { d with scheduler := s' } body owner).tasks
          (spawned ++ spawnedIn (Scheduler.Dispatch.spawn { d with scheduler := s' } body owner).events) joined := by
      intro s' body owner ho
      simp only [Scheduler.Dispatch.spawn, spawnedIn, List.filterMap_append, List.filterMap_cons, List.filterMap_nil]
      rw [← List.append_assoc]
      exact hd.spawn ho
    cases hdis with
    | unknown => exact hd
    | left => exact hd
    | queued =>
      simp only [spawnedIn, List.filterMap_append, List.filterMap_cons, List.filterMap_nil, List.append_nil]
      exact hd
    | probed => exact hspawn _ _ _ ⟨_, _, rfl⟩
    | polledKept | polledBuilt | unpolled => exact hspawn _ _ _ ⟨rfl, nofun⟩

/-- Along a run the tasks are accounted for, and the calls of `handle_outcome` match the joins. -/
structure Inv (s : System) (tr : Trace) : Prop where
  accounts : Accounts s.tasks tr.spawned (tr.joined.map joinedId)
  back : List.Forall₂ (CameBack tr.spawned) tr.joined (tr.outcomes ++ s.inHand)
  stopped : s.pc.isStopped = true → s.tasks.running = []

theorem CameBack.mono {tasks new : List Task} {joined : Except JoinError (TaskId × Outcome)} {o : Outcome}
    (h : CameBack tasks joined o) : CameBack (tasks ++ new) joined o := by
  obtain ⟨task, ht, hback⟩ := h
  exact ⟨task, List.mem_append_left _ ht, hback⟩

/-- A step that leaves the tasks alone, takes up no outcome of a task and joins none. -/
theorem Inv.frame {s s' : System} {tr : Trace} {a : Action} {ev : List Event} (hI : Inv s tr)
    (ha : ∀ joined, a ≠ .scheduler (.join joined)) (ht : s'.tasks = s.tasks) (hs : spawnedIn ev = [])
    (ho : outcomesIn ev ++ s'.inHand = s.inHand) (hp : s'.pc.isStopped = true → s.tasks.running = []) :
    Inv s' (tr ++ [(a, ev)]) := by
  have hspawned : Trace.spawned (tr ++ [(a, ev)]) = tr.spawned := by
    simp only [Trace.spawned, List.flatMap_append, List.flatMap_singleton, hs, List.append_nil]
  have hjoined : Trace.joined (tr ++ [(a, ev)]) = tr.joined := by
    simp only [Trace.joined, List.filterMap_append, List.filterMap_cons, List.filterMap_nil]
    cases a with
    | scheduler a =>
      cases a with
      | join joined => exact absurd rfl (ha joined)
      | _ => exact List.append_nil _
    | _ => exact List.append_nil _
  have houtcomes : Trace.outcomes (tr ++ [(a, ev)]) ++ s'.inHand = tr.outcomes ++ s.inHand := by
    simp only [Trace.outcomes, List.flatMap_append, List.flatMap_singleton, List.append_assoc, ho]
  constructor
  · rw [ht, hspawned, hjoined]
    exact hI.accounts
  · rw [hspawned, hjoined, houtcomes]
    exact hI.back
  · rw [ht]
    exact hp

/-- Up to its first await the handling of an outcome takes up that outcome, and spawns nothing. -/
theorem events_handle (s : Scheduler) (wall : UInt64) (cause : Handled) :
    spawnedIn (s.handle wall cause).events = [] ∧
      outcomesIn (s.handle wall cause).events = match cause with | .outcome o => [o] | .pushed _ => [] := by
  have hh := Scheduler.handles_handle s wall cause
  generalize s.handle wall cause = x at hh
  cases hh <;> cases cause <;> exact ⟨rfl, rfl⟩

/-- After it nothing is taken up or spawned. -/
theorem events_resume (p : Scheduler.Persist) (wall : UInt64) : spawnedIn (p.resume wall) = [] ∧ outcomesIn (p.resume wall) = [] := by
  unfold Scheduler.Persist.resume
  split <;> exact ⟨rfl, rfl⟩

/-- A resync takes up no outcome and spawns nothing. -/
theorem events_resync (s : Scheduler) (now : Instant) (monitors : List Monitor) :
    spawnedIn (s.resync now monitors).2 = [] ∧ outcomesIn (s.resync now monitors).2 = [] :=
  ⟨Scheduler.filterMap_resync (fun _ => rfl) s now monitors, Scheduler.filterMap_resync (fun _ => rfl) s now monitors⟩

/-- A dispatch takes up no outcome. -/
theorem outcomesIn_dispatchDue (s : Scheduler) (t : Tasks) (now : Instant) (due : List UInt64) :
    outcomesIn (s.dispatchDue t now due).events = [] :=
  Scheduler.filterMap_dispatchDue (fun _ => rfl) (fun _ _ => rfl) s t now due

theorem inHand_resume {s : System} {after : Option PushedResult} (h : s.pc = .resume after) : s.inHand = [] := by
  unfold System.inHand
  rw [h]
  cases after <;> rfl

theorem inv_step {cfg : EngineConfig} {s s' : System} {tr : Trace} {a : Action} {ev : List Event} (hI : Inv s tr)
    (he : Effect cfg s a s' ev) : Inv s' (tr ++ [(a, ev)]) := by
  -- a scheduler that is not about to handle an outcome has none in hand
  have hnone : ∀ {s : System}, s.pc = .select → s.inHand = [] := fun hpc => by rw [System.inHand, hpc]
  cases he with
  | dispatched hpc =>
    have hout := outcomesIn_dispatchDue s.scheduler s.tasks s.clock
    refine ⟨?_, ?_, fun h => by simp [hpc, Pc.isStopped] at h⟩
    · simp only [Trace.spawned, Trace.joined, List.flatMap_append, List.flatMap_singleton, List.filterMap_append,
        List.filterMap_cons, List.filterMap_nil, List.append_nil]
      exact accounts_dispatchDue hI.accounts
    · simp only [Trace.spawned, Trace.joined, Trace.outcomes, List.flatMap_append, List.flatMap_singleton,
        List.filterMap_append, List.filterMap_cons, List.filterMap_nil, List.append_nil, hout]
      exact hI.back.imp fun _ _ hb => CameBack.mono hb
  | @joined joined hpc hj =>
    obtain ⟨task, ht, hid, o, ho, hback⟩ := comesBack_of_joinable hI.accounts.sound hj
    refine ⟨?_, ?_, fun h => by simp [ho, Pc.isStopped] at h⟩
    · simp only [Trace.spawned, Trace.joined, List.flatMap_append, List.flatMap_singleton, spawnedIn, List.filterMap_append,
        List.filterMap_cons, List.filterMap_nil, List.append_nil, List.map_append, List.map_singleton]
      exact hI.accounts.join ht hid
    · have hb := hI.back
      rw [hnone hpc, List.append_nil] at hb
      simp only [Trace.spawned, Trace.joined, Trace.outcomes, List.flatMap_append, List.flatMap_singleton, spawnedIn,
        outcomesIn, List.filterMap_append, List.filterMap_cons, List.filterMap_nil, List.append_nil, System.inHand, ho,
        Option.map_some, Option.elim_some]
      exact List.rel_append hb (.cons ⟨task, hI.accounts.running task ht, hid, hback⟩ .nil)
  | @handled cause hpc =>
    obtain ⟨hspawned, hout⟩ := events_handle s.scheduler s.wall cause
    refine hI.frame nofun rfl hspawned ?_ fun h => ?_
    · have hin : ∀ p : Option Scheduler.Persist, ∀ s₁ : System, s₁.pc = p.elim .select .persisting → s₁.inHand = [] := by
        intro p s₁ h
        cases p <;> simp [System.inHand, h]
      rw [hout, hin _ _ rfl]
      cases cause <;> simp [System.inHand, hpc]
    · revert h
      cases (s.scheduler.handle s.wall cause).persist <;> simp [Pc.isStopped]
  | @resynced monitors after hpc =>
    obtain ⟨hspawned, hout⟩ := events_resync s.scheduler s.clock monitors
    refine hI.frame nofun rfl hspawned ?_ fun h => ?_
    · rw [hout, inHand_resume rfl, System.inHand, hpc, List.append_nil]
    · cases after <;> cases h
  | @notResynced e after hpc =>
    refine hI.frame nofun rfl rfl ?_ fun h => ?_
    · rw [inHand_resume rfl, System.inHand, hpc, outcomesIn, List.filterMap_nil, List.append_nil]
    · cases after <;> cases h
  | wrote hpc | notWritten hpc =>
    refine hI.frame nofun rfl (events_resume _ _).1 ?_ nofun
    have hout := (events_resume ‹Scheduler.Persist› s.wall).2
    simpa [System.inHand, hpc, outcomesIn] using hout
  | stopped hpc ht => exact hI.frame nofun rfl rfl (by simp [System.inHand, hpc, outcomesIn]) fun _ => ht
  | resyncTick hpc | listedMonitors hpc | received hpc | receivedUnknown hpc =>
    exact hI.frame nofun rfl rfl (by simp [System.inHand, hpc, outcomesIn]) nofun
  | _ => exact hI.frame nofun rfl rfl rfl hI.stopped

theorem inv_of_run {cfg : EngineConfig} {k8sFactory : Option K8sCollectorFactory} {db : Db} {s : System} {tr : Trace}
    {ok : System → Action → Prop} (h : Run (traced (System.step cfg)) ok (System.start cfg k8sFactory db) s tr) : Inv s tr := by
  refine h.invariant (I := Inv) ⟨accounts_empty, .nil, nofun⟩ ?_
  intro s s' tr ev a hI _ hs
  obtain ⟨ev, hstep, rfl⟩ := traced_eq_some hs
  exact inv_step hI (effect_of_step hstep)

end TasksAux

/-- A dispatched check always comes back. At every moment the recorded owners are the owners of the tasks spawned and not yet
joined; every task spawned is either one of these or was joined, once; and the calls of `handle_outcome` match the joins in
order, each for the monitor of its task, and for a task that panicked as unavailable or unknown. No join finds a task without
an owner. When the scheduler has stopped, every task was joined and handled. -/
theorem tasks_come_back {cfg : EngineConfig} {k8sFactory : Option K8sCollectorFactory} {db : Db} {s : System} {tr : Trace}
    (h : Run (traced (System.step cfg)) (fun s a => always s a = true) (System.start cfg k8sFactory db) s tr) :
    (∀ id, id ∈ s.tasks.owners ↔ id ∈ tr.spawned.map (·.id) ∧ id ∉ tr.joined.map joinedId) ∧
      ((tr.spawned.map (·.id)).Nodup ∧
        (tr.spawned.map (·.id)).Perm (s.tasks.running.map (·.id) ++ tr.joined.map joinedId)) ∧
      List.Forall₂ (CameBack tr.spawned) tr.joined (tr.outcomes ++ s.inHand) ∧
      (∀ joined, s.joinable joined = true → (Scheduler.handleJoined s.tasks joined).2.isSome) ∧
      (s.pc.isStopped = true →
        (tr.spawned.map (·.id)).Perm (tr.joined.map joinedId) ∧ List.Forall₂ (CameBack tr.spawned) tr.joined tr.outcomes) := by
  have hI := TasksAux.inv_of_run h
  have hacc := hI.accounts
  refine ⟨fun id => ?_, ⟨hacc.nodup, hacc.perm⟩, hI.back, fun joined hj => ?_, fun hp => ?_⟩
  · have hsplit : (s.tasks.running.map (·.id) ++ tr.joined.map joinedId).Nodup := hacc.perm.nodup_iff.mp hacc.nodup
    have hdisjoint := (List.nodup_append'.mp hsplit).2.2
    rw [← AList.lookup_isSome, hacc.perm.mem_iff, List.mem_append]
    constructor
    · intro hid
      have hrun := hacc.sound.running id hid
      exact ⟨Or.inl hrun, hdisjoint hrun⟩
    · rintro ⟨hrun | hjoined, hnot⟩
      · obtain ⟨task, ht, rfl⟩ := List.mem_map.mp hrun
        obtain ⟨owner, hlook, -⟩ := hacc.sound.owned task ht
        rw [hlook, Option.isSome_some]
      · exact absurd hjoined hnot
  · obtain ⟨task, -, -, o, ho, -⟩ := TasksAux.comesBack_of_joinable hacc.sound hj
    rw [ho, Option.isSome_some]
  · have hperm := hacc.perm
    have hback := hI.back
    have hhand : s.inHand = [] := by
      unfold System.inHand
      revert hp
      cases s.pc <;> simp [Pc.isStopped]
    rw [hI.stopped hp, List.map_nil, List.nil_append] at hperm
    rw [hhand, List.append_nil] at hback
    exact ⟨hperm, hback⟩

/-- Two monitors are probed; the second probe panics, the first one then succeeds. -/
def joinedOutOfOrder : List Action := [
  .user (.addMonitor "api" "http://api" .http 60 none fun _ => 0),
  .user (.addMonitor "db" "db:5432" .tcp 60 none fun _ => 0),
  .scheduler (.listMonitors false), .scheduler .listReturned, .scheduler (.dispatchDue [1, 2]),
  .scheduler (.join (.error ⟨1, "probe panicked"⟩)), .scheduler .handle, .scheduler (.setMonitorStatus false),
  .scheduler (.join (.ok (0, .network ⟨1, 0⟩ (.success 7)))), .scheduler .handle, .scheduler (.setMonitorStatus false),
  .scheduler .shutdown, .scheduler .stop]

/-- Both checks come back, the one that panicked as unavailable, for its own monitor. -/
theorem panicked_task_comes_back :
    ∃ (s : System) (tr : Trace),
      Run (traced (System.step EngineConfig.default)) (fun s a => always s a = true)
          (System.start EngineConfig.default none Db.empty) s tr ∧
        tr.outcomes = [.network ⟨2, 1⟩ (.unavailable "probe panicked"), .network ⟨1, 0⟩ (.success 7)] ∧
        List.Forall₂ (CameBack tr.spawned) tr.joined tr.outcomes := by
  let step := traced (System.step EngineConfig.default)
  let s₀ := System.start EngineConfig.default none Db.empty
  let x := after step always s₀ joinedOutOfOrder
  have h : Run step (fun s a => always s a = true) s₀ x.1 x.2 := run_after (by decide +kernel)
  exact ⟨x.1, x.2, h, by decide +kernel, ((tasks_come_back h).2.2.2.2 (by decide +kernel)).2⟩

end Monitra
