import Monitra.Lemmas.Steps

/-!
# Outcomes and reused ids

The engine carries monitors by id, and a deletion frees the largest id for the next insert. An id that is carried is coherent
when it comes from the insertion that every other carrier of the number, and the row of it, come from. Coherence is kept by
every step but an insert that is given an id still carried, and with it no outcome reaches another monitor.
-/

namespace Monitra

open Runs

/-! ## What is carried -/

def TaskOwner.monitorId : TaskOwner → MonitorId
  | .network monitorId | .collector monitorId => monitorId

/-- The ids the scheduler carries: in its registry, with the collectors it keeps, and in the queued assignments. -/
def Scheduler.refs (s : Scheduler) : List MonitorId :=
  s.registry.entries.map (fun e => ⟨e.1, e.2.monitor.id.origin⟩) ++
    s.k8sCollectors.entries.map (fun e => ⟨e.1, e.2.origin⟩) ++
    s.assignments.queues.entries.flatMap (fun e => e.2.map (·.monitorId))

/-- The ids of the tasks under way. -/
def Tasks.refs (t : Tasks) : List MonitorId := t.running.map (·.body.monitorId) ++ t.owners.entries.map (·.2.monitorId)

/-- The ids the scheduler task holds where it is. -/
def Pc.refs : Pc → List MonitorId
  | .listing after => after.toList.map (·.monitorId)
  | .listed (.ok monitors) after => monitors.map (·.id) ++ after.toList.map (·.monitorId)
  | .listed (.error _) after => after.toList.map (·.monitorId)
  | .handling cause => [cause.monitorId]
  | .persisting p => [p.cause.monitorId]
  | .select | .stopped => []

def Writer.refs (w : Writer) : List MonitorId := w.batch.map (·.monitorId) ++ w.queue.map (·.monitorId)

/-- The ids that something of the engine or an agent carries on the way of an outcome. -/
def System.refs (s : System) : List MonitorId :=
  s.scheduler.refs ++ s.tasks.refs ++ s.pushRx.map (·.monitorId) ++ s.pc.refs ++ s.writer.refs ++ s.held.map (·.2)

/-- The check results are labelled with the insertion of the monitor they belong to. -/
def Db.Labelled (db : Db) : Prop :=
  ∀ r ∈ db.checkResults.rows, ∃ row, db.row? r.monitorId.toUInt64 = some row ∧ row.origin = r.origin

/-- No outcome crosses to another monitor in a step: the recorded results belong to the monitors they are stored with, a status
is written to the monitor that the outcome is of, a check is counted in the entry of that monitor, and an entry with its
counters does not pass to another monitor. -/
structure OutcomesStay (s : System) (a : Action) (s' : System) (ev : List Event) : Prop where
  recorded : s'.db.Labelled
  written : ∀ b, a = .scheduler b → ∀ m status, Event.wrote m status true ∈ ev →
    ∃ row, s.db.row? m.val = some row ∧ row.origin = m.origin
  counted : ∀ m success, Event.observed m success ∈ ev →
    ∃ state, s.scheduler.registry.lookup m.val = some state ∧ state.monitor.id.origin = m.origin
  kept : ∀ id state state', s.scheduler.registry.lookup id = some state → s'.scheduler.registry.lookup id = some state' →
    state'.monitor.id.origin = state.monitor.id.origin

/-- Outcomes never cross monitors. The steps of the run are those that meet the condition. -/
def OutcomesKept (cfg : EngineConfig) (ok : System → Action → Bool) : Prop :=
  ∀ (k8sFactory : Option K8sCollectorFactory) (db : Db) (s s' : System) (log ev : List Event) (a : Action), db.Labelled →
    Run (System.step cfg) (fun s a => ok s a = true) (System.start cfg k8sFactory db) s log →
    ok s a = true → s.step cfg a = some (s', ev) → OutcomesStay s a s' ev

/-- The condition. A monitor is not inserted under an id that is still carried. -/
def idsFresh (s : System) : Action → Bool
  | .user (.addMonitor _ _ _ _ _ pick) =>
    (s.db.monitors.nextRowid pick).all fun k => s.refs.all fun m => m.val != k.toUInt64
  | _ => true

namespace IdentityAux

open Scheduler

/-! ## Membership -/

theorem mem_scheduler_refs {s : Scheduler} {m : MonitorId} :
    m ∈ s.refs ↔ (∃ state, s.registry.lookup m.val = some state ∧ state.monitor.id.origin = m.origin) ∨
      (∃ kept, s.k8sCollectors.lookup m.val = some kept ∧ kept.origin = m.origin) ∨
      ∃ agentId queue, s.assignments.queues.lookup agentId = some queue ∧ ∃ a ∈ queue, a.monitorId = m := by
  obtain ⟨val, origin⟩ := m
  simp only [Scheduler.refs, List.mem_append, List.mem_map, List.mem_flatMap, Sigma.exists, HashMap.mem_entries_iff,
    MonitorId.mk.injEq, or_assoc]
  refine or_congr ?_ (or_congr ?_ Iff.rfl)
  · exact ⟨fun ⟨k, st, h, hk, ho⟩ => ⟨st, hk ▸ h, ho⟩, fun ⟨st, h, ho⟩ => ⟨val, st, h, rfl, ho⟩⟩
  · exact ⟨fun ⟨k, st, h, hk, ho⟩ => ⟨st, hk ▸ h, ho⟩, fun ⟨st, h, ho⟩ => ⟨val, st, h, rfl, ho⟩⟩

theorem mem_tasks_refs {t : Tasks} {m : MonitorId} :
    m ∈ t.refs ↔ (∃ task ∈ t.running, task.body.monitorId = m) ∨
      ∃ id owner, t.owners.lookup id = some owner ∧ owner.monitorId = m := by
  simp only [Tasks.refs, List.mem_append, List.mem_map, Sigma.exists, HashMap.mem_entries_iff]

/-! ## Coherence -/

/-- An id that is carried, or the id of a stored row. -/
def Known (s : System) (m : MonitorId) : Prop :=
  m ∈ s.refs ∨ ∃ row, s.db.row? m.val = some row ∧ row.origin = m.origin

/-- What is known under one number comes from one insertion. -/
def Coherent (s : System) : Prop := ∀ m m', Known s m → Known s m' → m.val = m'.val → m.origin = m'.origin

theorem Known.scheduler {s : System} {m : MonitorId} (h : m ∈ s.scheduler.refs) : Known s m :=
  Or.inl (by simp [System.refs, h])

theorem Known.tasks {s : System} {m : MonitorId} (h : m ∈ s.tasks.refs) : Known s m := Or.inl (by simp [System.refs, h])

theorem Known.pushed {s : System} {p : PushedResult} (h : p ∈ s.pushRx) : Known s p.monitorId :=
  Or.inl (by simp only [System.refs, List.mem_append, List.mem_map]; exact Or.inl (Or.inl (Or.inl (Or.inr ⟨p, h, rfl⟩))))

theorem Known.pc {s : System} {m : MonitorId} (h : m ∈ s.pc.refs) : Known s m := Or.inl (by simp [System.refs, h])

theorem Known.writer {s : System} {m : MonitorId} (h : m ∈ s.writer.refs) : Known s m := Or.inl (by simp [System.refs, h])

theorem Known.held {s : System} {x : UInt64 × MonitorId} (h : x ∈ s.held) : Known s x.2 :=
  Or.inl (by simp only [System.refs, List.mem_append, List.mem_map]; exact Or.inr ⟨x, h, rfl⟩)

/-- A registered monitor is known. -/
theorem Known.registered {s : System} {id : UInt64} {state : MonitorState}
    (h : s.scheduler.registry.lookup id = some state) : Known s ⟨id, state.monitor.id.origin⟩ :=
  Known.scheduler (mem_scheduler_refs.mpr (Or.inl ⟨state, h, rfl⟩))

/-- A step knows nothing new when no part of the state does. -/
theorem known_of {s s' : System} (hscheduler : ∀ m ∈ s'.scheduler.refs, Known s m) (htasks : ∀ m ∈ s'.tasks.refs, Known s m)
    (hpushed : ∀ p ∈ s'.pushRx, Known s p.monitorId) (hpc : ∀ m ∈ s'.pc.refs, Known s m)
    (hwriter : ∀ m ∈ s'.writer.refs, Known s m) (hheld : ∀ x ∈ s'.held, Known s x.2)
    (hdb : ∀ id row, s'.db.row? id = some row → ∃ row₀, s.db.row? id = some row₀ ∧ row₀.origin = row.origin) :
    ∀ m, Known s' m → Known s m := by
  rintro m (h | ⟨row, hrow, ho⟩)
  · simp only [System.refs, List.mem_append, List.mem_map] at h
    rcases h with ((((h | h) | ⟨p, h, rfl⟩) | h) | h) | ⟨x, h, rfl⟩
    · exact hscheduler m h
    · exact htasks m h
    · exact hpushed p h
    · exact hpc m h
    · exact hwriter m h
    · exact hheld x h
  · obtain ⟨row₀, hrow₀, ho₀⟩ := hdb m.val row hrow
    exact Or.inr ⟨row₀, hrow₀, ho₀.trans ho⟩

/-- Coherence goes from a state to one that knows nothing new. -/
theorem Coherent.mono {s s' : System} (h : Coherent s) (hk : ∀ m, Known s' m → Known s m) : Coherent s' :=
  fun m m' hm hm' => h m m' (hk m hm) (hk m' hm')

/-! ## The parts -/

/-- The writer holds what it held and what was submitted. -/
theorem of_writer_submit {capacity : Nat} {w : Writer} {results : List CheckResult} {m : MonitorId}
    (h : m ∈ (w.submit capacity results).refs) : m ∈ w.refs ∨ ∃ r ∈ results, r.monitorId = m := by
  simp only [Writer.refs, Writer.submit, List.mem_append, List.mem_map] at h ⊢
  rcases h with h | ⟨r, hr, rfl⟩
  · exact Or.inl (Or.inl h)
  · rcases Channel.mem_sendAll hr with hr | hr
    · exact Or.inl (Or.inr ⟨r, hr, rfl⟩)
    · exact Or.inr ⟨r, hr, rfl⟩

/-- The handling of an outcome keeps what the scheduler carries. -/
theorem of_handle_refs {s : Scheduler} {wall : UInt64} {cause : Handled} {m : MonitorId}
    (h : m ∈ (s.handle wall cause).scheduler.refs) : m ∈ s.refs := by
  rw [mem_scheduler_refs] at h ⊢
  have hframe := handle_frame s wall cause
  have hcollectors := congrArg (·.k8sCollectors) hframe
  have hassignments := congrArg (·.assignments) hframe
  simp only at hcollectors hassignments
  rw [hcollectors, hassignments] at h
  refine h.imp_left ?_
  rintro ⟨state', hr', ho⟩
  obtain ⟨state, hr, -, hm⟩ := of_lookup_handle hr'
  rw [hm] at ho
  exact ⟨state, hr, ho⟩

/-- A resync carries listed monitors and what it kept. -/
theorem of_resync_refs {s : Scheduler} {now : Instant} {monitors : List Monitor} {m : MonitorId}
    (h : m ∈ (s.resync now monitors).1.refs) : m ∈ s.refs ∨ m ∈ monitors.map (·.id) := by
  rw [mem_scheduler_refs] at h
  rcases h with ⟨state, hlook, ho⟩ | ⟨kept, hlook, ho⟩ | hq
  · rw [lookup_resync] at hlook
    obtain ⟨mon, hmon, rfl⟩ := Option.map_eq_some_iff.mp hlook
    obtain ⟨hmem, -, hid⟩ := of_registers hmon
    have hmo : mon.id.origin = m.origin := by
      cases hs : s.registry.lookup m.val <;> rwa [hs] at ho
    refine Or.inr (List.mem_map.mpr ⟨mon, hmem, ?_⟩)
    obtain ⟨val, origin⟩ := m
    cases hid' : mon.id
    simp only [hid'] at hid hmo
    rw [hid, hmo]
  · simp only [resync, HashMap.lookup_retain, Option.filter_eq_some_iff] at hlook
    exact Or.inl (mem_scheduler_refs.mpr (Or.inr (Or.inl ⟨kept, hlook.1, ho⟩)))
  · exact Or.inl (mem_scheduler_refs.mpr (Or.inr (Or.inr hq)))

/-- Moving a deadline changes nothing of what the scheduler carries. -/
theorem of_advance_refs {s : Scheduler} (now : Instant) {id : UInt64} {state : MonitorState} {m : MonitorId}
    (hr : s.registry.lookup id = some state) (h : m ∈ (s.advance now id state).refs) : m ∈ s.refs := by
  rw [mem_scheduler_refs] at h ⊢
  refine h.imp_left ?_
  rintro ⟨st, hlook, ho⟩
  simp only [advance, HashMap.lookup_insert] at hlook
  split at hlook
  · rename_i hid
    cases hlook
    rw [hid]
    refine ⟨_, hr, ?_⟩
    exact ho
  · exact ⟨st, hlook, ho⟩

/-- A task spawned is carried, and its owner. -/
theorem of_spawn_refs {t : Tasks} {body : TaskBody} {owner : TaskOwner} {m : MonitorId} (h : m ∈ (t.spawn body owner).refs) :
    m ∈ t.refs ∨ m = body.monitorId ∨ m = owner.monitorId := by
  rw [mem_tasks_refs] at h
  rcases h with ⟨task, htask, rfl⟩ | ⟨id, o, ho, rfl⟩
  · rcases List.mem_append.mp htask with htask | htask
    · exact Or.inl (mem_tasks_refs.mpr (Or.inl ⟨task, htask, rfl⟩))
    · rw [List.mem_singleton.mp htask]
      exact Or.inr (Or.inl rfl)
  · simp only [Tasks.spawn, HashMap.lookup_insert] at ho
    split at ho
    · cases ho
      exact Or.inr (Or.inr rfl)
    · exact Or.inl (mem_tasks_refs.mpr (Or.inr ⟨id, o, ho, rfl⟩))

/-- What the dispatch of one due monitor carries, the scheduler carried. -/
theorem of_dispatches_refs {now : Instant} {d d' : Dispatch} {id : UInt64} (h : Dispatches now d id d') :
    (∀ m ∈ d'.scheduler.refs, m ∈ d.scheduler.refs) ∧ ∀ m ∈ d'.tasks.refs, m ∈ d.scheduler.refs ∨ m ∈ d.tasks.refs := by
  have hreg : ∀ {state}, d.scheduler.registry.lookup id = some state →
      (⟨id, state.monitor.id.origin⟩ : MonitorId) ∈ d.scheduler.refs :=
    fun hr => mem_scheduler_refs.mpr (Or.inl ⟨_, hr, rfl⟩)
  -- a task for the due monitor carries its id, and so does its owner
  have hspawn : ∀ {state body owner}, d.scheduler.registry.lookup id = some state → body.monitorId ∈ d.scheduler.refs →
      owner.monitorId = ⟨id, state.monitor.id.origin⟩ →
      ∀ m ∈ (d.tasks.spawn body owner).refs, m ∈ d.scheduler.refs ∨ m ∈ d.tasks.refs := by
    intro state body owner hr hb ho m hm
    rcases of_spawn_refs hm with hm | rfl | rfl
    · exact Or.inr hm
    · exact Or.inl hb
    · exact Or.inl (ho ▸ hreg hr)
  cases h with
  | unknown hr => exact ⟨fun m hm => hm, fun m hm => Or.inr hm⟩
  | left hr => exact ⟨fun m hm => of_advance_refs now hr hm, fun m hm => Or.inr hm⟩
  | queued hr ha =>
    refine ⟨fun m hm => ?_, fun m hm => Or.inr hm⟩
    rw [mem_scheduler_refs] at hm
    rcases hm with hm | hm | ⟨agentId', queue, hq, a, ha', rfl⟩
    · exact of_advance_refs now hr (mem_scheduler_refs.mpr (Or.inl hm))
    · exact mem_scheduler_refs.mpr (Or.inr (Or.inl hm))
    · rcases of_enqueue hq ha' with rfl | ⟨queue₀, hq₀, ha₀⟩
      · exact hreg hr
      · exact mem_scheduler_refs.mpr (Or.inr (Or.inr ⟨agentId', queue₀, hq₀, a, ha₀, rfl⟩))
  | probed hr => exact ⟨fun m hm => of_advance_refs now hr hm, hspawn hr (hreg hr) rfl⟩
  | unpolled hr => exact ⟨fun m hm => of_advance_refs now hr hm, hspawn hr (hreg hr) rfl⟩
  | @polledKept state kept hr hc hk hh =>
    have hkept : (⟨id, kept.origin⟩ : MonitorId) ∈ d.scheduler.refs :=
      mem_scheduler_refs.mpr (Or.inr (Or.inl ⟨kept, hc, rfl⟩))
    exact ⟨fun m hm => of_advance_refs now hr hm, hspawn hr hkept rfl⟩
  | @polledBuilt state c hr hb =>
    refine ⟨fun m hm => ?_, hspawn hr (hreg hr) rfl⟩
    rw [mem_scheduler_refs] at hm
    rcases hm with hm | ⟨kept, hlook, ho⟩ | hm
    · exact of_advance_refs now hr (mem_scheduler_refs.mpr (Or.inl hm))
    · have hlook' : (d.scheduler.k8sCollectors.insert id ⟨c, state.monitor.id.origin⟩).lookup m.val = some kept := hlook
      rw [HashMap.lookup_insert] at hlook'
      split at hlook'
      · rename_i hid
        cases hlook'
        exact mem_scheduler_refs.mpr (Or.inl ⟨state, hid ▸ hr, ho⟩)
      · exact mem_scheduler_refs.mpr (Or.inr (Or.inl ⟨kept, hlook', ho⟩))
    · exact mem_scheduler_refs.mpr (Or.inr (Or.inr hm))

/-- What a dispatch leaves carried, the scheduler or its tasks carried before it. -/
theorem of_dispatch_refs (s : Scheduler) (tasks : Tasks) (now : Instant) (due : List UInt64) :
    (∀ m ∈ (s.dispatchDue tasks now due).scheduler.refs, m ∈ s.refs) ∧
      ∀ m ∈ (s.dispatchDue tasks now due).tasks.refs, m ∈ s.refs ∨ m ∈ tasks.refs := by
  refine dispatchDue_invariant
    (P := fun d => (∀ m ∈ d.scheduler.refs, m ∈ s.refs) ∧ ∀ m ∈ d.tasks.refs, m ∈ s.refs ∨ m ∈ tasks.refs)
    ⟨fun m hm => hm, fun m hm => Or.inr hm⟩ ?_
  intro d id d' ⟨hs, ht⟩ h
  obtain ⟨hs', ht'⟩ := of_dispatches_refs h
  exact ⟨fun m hm => hs m (hs' m hm), fun m hm => (ht' m hm).elim (fun h => Or.inl (hs m h)) (ht m)⟩

/-- A task hands back an outcome of its own monitor. -/
theorem monitorId_of_mayReturn {body : TaskBody} {o : Outcome} (h : body.mayReturn o = true) :
    (Handled.outcome o).monitorId = body.monitorId := by
  cases body <;> cases o <;> simp [TaskBody.mayReturn] at h
  · exact h
  · exact h
  · exact h.1

/-- The outcome of a task that ended is of a monitor that the tasks carried, and so are the tasks left. -/
theorem of_joined_refs {s : System} {joined : Except JoinError (TaskId × Outcome)} (hj : s.joinable joined = true) :
    (∀ m ∈ (handleJoined s.tasks joined).1.refs, m ∈ s.tasks.refs) ∧
      ∀ o, (handleJoined s.tasks joined).2 = some o → (Handled.outcome o).monitorId ∈ s.tasks.refs := by
  have hleft : ∀ id m, m ∈ Tasks.refs { s.tasks with
      running := s.tasks.running.filter fun t => t.id ≠ id, owners := s.tasks.owners.erase id } → m ∈ s.tasks.refs := by
    intro id m hm
    rw [mem_tasks_refs] at hm ⊢
    rcases hm with ⟨task, htask, rfl⟩ | ⟨k, owner, ho, rfl⟩
    · exact Or.inl ⟨task, List.mem_of_mem_filter htask, rfl⟩
    · rw [HashMap.lookup_erase] at ho
      split at ho
      · cases ho
      · exact Or.inr ⟨k, owner, ho, rfl⟩
  cases joined with
  | ok x =>
    obtain ⟨id, outcome⟩ := x
    refine ⟨hleft id, fun o ho => ?_⟩
    cases ho
    simp only [System.joinable, List.any_eq_true, Bool.decide_and, Bool.and_eq_true, decide_eq_true_eq] at hj
    obtain ⟨task, htask, -, hret⟩ := hj
    exact mem_tasks_refs.mpr (Or.inl ⟨task, htask, (monitorId_of_mayReturn hret).symm⟩)
  | error err =>
    refine ⟨hleft err.id, fun o ho => ?_⟩
    obtain ⟨owner, howner, rfl⟩ := Option.map_eq_some_iff.mp ho
    refine mem_tasks_refs.mpr (Or.inr ⟨err.id, owner, howner, ?_⟩)
    cases owner <;> rfl

/-- A result received joins the batch; the writer carries what it carried. -/
theorem of_recv_refs {batchSize : Nat} {closed : Bool} {w w' : Writer} (h : w.recv batchSize closed = some w') :
    ∀ m ∈ w'.refs, m ∈ w.refs := by
  intro m hm
  rcases recv_eq_some h with ⟨result, hq, hb⟩ | ⟨hq, hq', hb⟩
  · rw [Writer.refs, hb] at hm
    simpa [Writer.refs, hq, or_assoc] using hm
  · rwa [Writer.refs, hq', hb, ← hq] at hm

theorem of_tick_refs {w w' : Writer} (h : w.tick = some w') : ∀ m ∈ w'.refs, m ∈ w.refs := by
  intro m hm
  rwa [Writer.refs, (tick_eq_some h).1, (tick_eq_some h).2] at hm

/-- A change of rows that keeps the insertion they come from. -/
theorem of_map_row {o : Option MonitorRow} {f : MonitorRow → MonitorRow} {row : MonitorRow}
    (hf : ∀ r, (f r).origin = r.origin) (h : o.map f = some row) : ∃ row₀, o = some row₀ ∧ row₀.origin = row.origin := by
  obtain ⟨row₀, hrow₀, rfl⟩ := Option.map_eq_some_iff.mp h
  exact ⟨row₀, hrow₀, (hf row₀).symm⟩

/-- A write of a status keeps the rows, from the same insertions. -/
theorem of_setMonitorStatus_rows {db db' : Db} {k : UInt64} {status : MonitorStatus}
    (h : db.setMonitorStatus k status = .ok db') (id : UInt64) (row : MonitorRow) (hrow : db'.row? id = some row) :
    ∃ row₀, db.row? id = some row₀ ∧ row₀.origin = row.origin := by
  obtain ⟨-, -, -, -, hget⟩ := Db.setMonitorStatus_eq_ok h
  rw [hget] at hrow
  exact of_map_row (fun r => by split <;> rfl) hrow

/-- The rows a user's call leaves were there before, from the same insertion, unless the call adds one. -/
theorem of_call_rows {db db' : Db} {u : UserAction} (hc : Call db u db')
    (hu : ∀ name target kind intervalSecs agentId pick, u ≠ .addMonitor name target kind intervalSecs agentId pick)
    (id : UInt64) (row : MonitorRow) (hrow : db'.row? id = some row) :
    ∃ row₀, db.row? id = some row₀ ∧ row₀.origin = row.origin := by
  cases hc with
  | added h => exact absurd rfl (hu _ _ _ _ _ _)
  | edited h =>
    obtain ⟨-, -, -, hget⟩ := Db.updateMonitor_eq_ok h
    rw [hget] at hrow
    exact of_map_row (fun r => by split <;> rfl) hrow
  | removed h =>
    obtain ⟨-, -, -, hget⟩ := Db.deleteMonitor_eq_ok h
    rw [hget] at hrow
    split at hrow
    · cases hrow
    · exact ⟨row, hrow, rfl⟩
  | paused h | resumed h => exact of_setMonitorStatus_rows h id row hrow
  | registeredAgent hm | removedAgent hm =>
    rw [Db.row?, hm] at hrow
    exact ⟨row, hrow, rfl⟩

/-! ## Every step -/

/-- A step that adds no monitor knows nothing new. -/
theorem known_step {cfg : EngineConfig} {s s' : System} {a : Action} {ev : List Event} (he : Effect cfg s a s' ev)
    (ha : ∀ name target kind intervalSecs agentId pick,
      a ≠ .user (.addMonitor name target kind intervalSecs agentId pick)) : ∀ m, Known s' m → Known s m := by
  have hscheduler : ∀ m ∈ s.scheduler.refs, Known s m := fun m h => .scheduler h
  have htasks : ∀ m ∈ s.tasks.refs, Known s m := fun m h => .tasks h
  have hpushed : ∀ p ∈ s.pushRx, Known s p.monitorId := fun p h => .pushed h
  have hpc : ∀ m ∈ s.pc.refs, Known s m := fun m h => .pc h
  have hwriter : ∀ m ∈ s.writer.refs, Known s m := fun m h => .writer h
  have hheld : ∀ x ∈ s.held, Known s x.2 := fun x h => .held h
  have hdb : ∀ id row, s.db.row? id = some row → ∃ row₀, s.db.row? id = some row₀ ∧ row₀.origin = row.origin :=
    fun id row h => ⟨row, h, rfl⟩
  have hresume : ∀ after : Option PushedResult, (∀ m ∈ after.toList.map (·.monitorId), Known s m) →
      ∀ m ∈ (Pc.resume after).refs, Known s m := by
    intro after h m hm
    cases after with
    | none => cases hm
    | some pushed => exact h m hm
  have hsubmit : ∀ (results : List CheckResult) (m₀ : MonitorId), Known s m₀ → (∀ r ∈ results, r.monitorId = m₀) →
      ∀ m ∈ (s.writer.submit cfg.writerCapacity results).refs, Known s m := by
    intro results m₀ hm₀ hr m hm
    rcases of_writer_submit hm with hm | ⟨r, hmem, rfl⟩
    · exact .writer hm
    · exact (hr r hmem) ▸ hm₀
  cases he with
  | advance | wallClock | shutdown | agentsListed | sweepBegins | sweepSkipped | notDemoted | passedOver | refused =>
    exact known_of hscheduler htasks hpushed hpc hwriter hheld hdb
  | resyncTick | stopped => exact known_of hscheduler htasks hpushed (fun m hm => by cases hm) hwriter hheld hdb
  | @listedMonitors fault after hpc' =>
    -- the listed monitors are stored
    refine known_of hscheduler htasks hpushed (fun m hm => ?_) hwriter hheld hdb
    rw [hpc'] at hpc
    cases hl : answer fault s.db.listMonitors with
    | error e =>
      simp only [hl] at hm
      exact hpc m hm
    | ok monitors =>
      simp only [hl] at hm
      rcases List.mem_append.mp hm with hm | hm
      · obtain ⟨mon, hmon, rfl⟩ := List.mem_map.mp hm
        obtain ⟨row, hrow, hread⟩ := Db.row_of_mem_listMonitors (answer_eq_ok hl).2 hmon
        refine Or.inr ⟨row, hrow, ?_⟩
        rw [(rowToMonitor_eq_ok hread).1]
      · exact hpc m hm
  | resynced hpc' =>
    rw [hpc'] at hpc
    refine known_of (fun m hm => ?_) htasks hpushed (hresume _ fun m hm => hpc m (List.mem_append_right _ hm)) hwriter hheld hdb
    rcases of_resync_refs hm with hm | hm
    · exact .scheduler hm
    · exact hpc m (List.mem_append_left _ hm)
  | notResynced hpc' =>
    rw [hpc'] at hpc
    exact known_of hscheduler htasks hpushed (hresume _ hpc) hwriter hheld hdb
  | dispatched hpc' =>
    obtain ⟨hs, ht⟩ := of_dispatch_refs s.scheduler s.tasks s.clock _
    exact known_of (fun m hm => .scheduler (hs m hm)) (fun m hm => (ht m hm).elim .scheduler .tasks) hpushed hpc hwriter
      hheld hdb
  | @joined j hpc' hj =>
    obtain ⟨ht, ho⟩ := of_joined_refs hj
    refine known_of hscheduler (fun m hm => .tasks (ht m hm)) hpushed (fun m hm => ?_) hwriter hheld hdb
    cases hout : (handleJoined s.tasks j).2 with
    | none =>
      simp only [hout] at hm
      cases hm
    | some o =>
      simp only [hout] at hm
      rw [List.mem_singleton.mp hm]
      exact .tasks (ho o hout)
  | received hpc' hq hr | receivedUnknown hpc' hq hr =>
    refine known_of hscheduler htasks (fun p hp => .pushed (hq ▸ List.mem_cons_of_mem _ hp)) (fun m hm => ?_) hwriter hheld hdb
    rw [List.mem_singleton.mp hm]
    exact .pushed (hq ▸ List.mem_cons_self)
  | @handled cause hpc' =>
    rw [hpc'] at hpc
    have hcause : Known s cause.monitorId := hpc _ List.mem_cons_self
    refine known_of (fun m hm => .scheduler (of_handle_refs hm)) htasks hpushed (fun m hm => ?_)
      (hsubmit _ _ hcause fun r hr => of_submissions_handle hr) hheld hdb
    cases hp : (s.scheduler.handle s.wall cause).persist with
    | none =>
      simp only [hp] at hm
      cases hm
    | some p =>
      simp only [hp] at hm
      rw [List.mem_singleton.mp hm, (persist_handle hp).1]
      exact hcause
  | wrote hpc' hset =>
    rw [hpc'] at hpc
    exact known_of hscheduler htasks hpushed (fun m hm => by cases hm)
      (hsubmit _ _ (hpc _ List.mem_cons_self) fun r hr => of_submissions_resume hr) hheld
      (of_setMonitorStatus_rows (answer_eq_ok hset).2)
  | notWritten hpc' hset =>
    rw [hpc'] at hpc
    exact known_of hscheduler htasks hpushed (fun m hm => by cases hm)
      (hsubmit _ _ (hpc _ List.mem_cons_self) fun r hr => of_submissions_resume hr) hheld hdb
  | demoted hw hd hset =>
    exact known_of hscheduler htasks hpushed hpc hwriter hheld (of_setMonitorStatus_rows (answer_eq_ok hset).2)
  | writerReceived hw =>
    exact known_of hscheduler htasks hpushed hpc (fun m hm => .writer (of_recv_refs hw m hm)) hheld hdb
  | writerTicked hw =>
    exact known_of hscheduler htasks hpushed hpc (fun m hm => .writer (of_tick_refs hw m hm)) hheld hdb
  | flushed hw =>
    obtain ⟨hb, hq, -⟩ := flush_eq_some hw
    refine known_of hscheduler htasks hpushed hpc (fun m hm => hwriter m ?_) hheld fun id row hrow => ?_
    · simp only [Writer.refs, hb, hq, List.map_nil, List.nil_append] at hm
      exact List.mem_append_right _ hm
    · rw [Db.row?, (monitors_of_flush hw).1] at hrow
      exact ⟨row, hrow, rfl⟩
  | configured hr =>
    refine known_of hscheduler htasks hpushed hpc hwriter (fun x hx => ?_) hdb
    rcases List.mem_cons.mp hx with rfl | hx
    · exact Or.inr ⟨_, hr, rfl⟩
    · exact .held hx
  | forgotten => exact known_of hscheduler htasks hpushed hpc hwriter (fun x hx => .held (List.mem_of_mem_erase hx)) hdb
  | @pulled agentId =>
    obtain ⟨hleft, hpulled⟩ := of_drain s.scheduler.assignments agentId
    have hqueued : ∀ a agentId' queue, s.scheduler.assignments.queues.lookup agentId' = some queue → a ∈ queue →
        Known s a.monitorId :=
      fun a agentId' queue hq ha => .scheduler (mem_scheduler_refs.mpr (Or.inr (Or.inr ⟨agentId', queue, hq, a, ha, rfl⟩)))
    refine known_of (fun m hm => ?_) htasks hpushed hpc hwriter (fun x hx => ?_) hdb
    · rw [mem_scheduler_refs] at hm
      rcases hm with hm | hm | ⟨agentId', queue, hq, a, ha, rfl⟩
      · exact .scheduler (mem_scheduler_refs.mpr (Or.inl hm))
      · exact .scheduler (mem_scheduler_refs.mpr (Or.inr (Or.inl hm)))
      · obtain ⟨queue₀, hq₀, ha₀⟩ := hleft agentId' queue hq a ha
        exact hqueued a agentId' queue₀ hq₀ ha₀
    · rcases List.mem_append.mp hx with hx | hx
      · exact .held hx
      · obtain ⟨a, ha, rfl⟩ := List.mem_map.mp hx
        obtain ⟨queue₀, hq₀, ha₀⟩ := hpulled a ha
        exact hqueued a agentId queue₀ hq₀ ha₀
  | heartbeat hm =>
    refine known_of hscheduler htasks hpushed hpc hwriter hheld fun id row hrow => ?_
    rw [Db.row?, hm] at hrow
    exact ⟨row, hrow, rfl⟩
  | ingested hh =>
    refine known_of hscheduler htasks (fun p hp => ?_) hpc hwriter hheld hdb
    rcases Channel.mem_trySend hp with hp | rfl
    · exact .pushed hp
    · exact Known.held hh
  | called hc =>
    refine known_of hscheduler htasks hpushed hpc hwriter hheld (of_call_rows hc ?_)
    exact fun name target kind intervalSecs agentId pick h => ha name target kind intervalSecs agentId pick (by rw [h])

/-- Every step that meets the condition keeps coherence. -/
theorem coherent_step {cfg : EngineConfig} {s s' : System} {a : Action} {ev : List Event} (hI : Coherent s)
    (hok : idsFresh s a = true) (he : Effect cfg s a s' ev) : Coherent s' := by
  by_cases ha : ∀ name target kind intervalSecs agentId pick,
      a ≠ .user (.addMonitor name target kind intervalSecs agentId pick)
  · exact hI.mono (known_step he ha)
  · simp only [not_forall, not_not] at ha
    obtain ⟨name, target, kind, intervalSecs, agentId, pick, rfl⟩ := ha
    cases he with
    | @called _ db' hc =>
      cases hc with
      | @added _ _ _ _ _ _ _ mon h =>
        obtain ⟨hnext, hfree, -, -, -, row, -, -, hget⟩ := Db.insertMonitor_eq_ok h
        simp only [idsFresh, hnext, Option.all_some, UInt64.toUInt64_toInt64, List.all_eq_true, bne_iff_ne] at hok
        -- what is known under the id of the new row is the new row
        have hnew : ∀ m, Known { s with db := db' } m → (m.val = mon.id.val ∧ m.origin = row.origin) ∨ (m.val ≠ mon.id.val ∧ Known s m) := by
          rintro m (hm | ⟨r, hr, ho⟩)
          · exact Or.inr ⟨hok m hm, Or.inl hm⟩
          · simp only [hget] at hr
            split at hr
            · rename_i hid
              cases hr
              exact Or.inl ⟨hid, ho.symm⟩
            · rename_i hid
              exact Or.inr ⟨hid, Or.inr ⟨r, hr, ho⟩⟩
        intro m m' hm hm' hval
        rcases hnew m hm with ⟨hid, ho⟩ | ⟨hid, hk⟩ <;> rcases hnew m' hm' with ⟨hid', ho'⟩ | ⟨hid', hk'⟩
        · rw [ho, ho']
        · exact absurd (hval.symm.trans hid) hid'
        · exact absurd (hval.trans hid') hid
        · exact hI m m' hk hk' hval

/-- Labels stay right when check results stay where they are and their monitors' rows come from where they came from. -/
theorem labelled_of {db db' : Db} (hL : db.Labelled) (hc : ∀ r ∈ db'.checkResults.rows, r ∈ db.checkResults.rows)
    (hrow : ∀ r ∈ db'.checkResults.rows, ∀ row, db.row? r.monitorId.toUInt64 = some row →
      ∃ row', db'.row? r.monitorId.toUInt64 = some row' ∧ row'.origin = row.origin) : db'.Labelled := by
  intro r hr
  obtain ⟨row, hrow₀, ho⟩ := hL r (hc r hr)
  obtain ⟨row', hrow', ho'⟩ := hrow r hr row hrow₀
  exact ⟨row', hrow', ho'.trans ho⟩

theorem labelled_setMonitorStatus {db db' : Db} {k : UInt64} {status : MonitorStatus} (hL : db.Labelled)
    (h : db.setMonitorStatus k status = .ok db') : db'.Labelled := by
  obtain ⟨-, hc, -, -, hget⟩ := Db.setMonitorStatus_eq_ok h
  refine labelled_of hL (fun r hr => hc ▸ hr) fun r _ row hrow => ⟨_, by rw [hget, hrow, Option.map_some], ?_⟩
  split <;> rfl

theorem labelled_call {db db' : Db} {u : UserAction} (hL : db.Labelled) (hc : Call db u db') : db'.Labelled := by
  cases hc with
  | added h =>
    obtain ⟨-, hfree, hcr, -, -, row₀, -, -, hget⟩ := Db.insertMonitor_eq_ok h
    refine labelled_of hL (fun r hr => hcr ▸ hr) fun r _ row hrow => ⟨row, ?_, rfl⟩
    rw [hget, if_neg]
    · exact hrow
    · intro hid
      rw [hid, hfree] at hrow
      cases hrow
  | edited h =>
    obtain ⟨hcr, -, -, hget⟩ := Db.updateMonitor_eq_ok h
    refine labelled_of hL (fun r hr => hcr ▸ hr) fun r _ row hrow => ⟨_, by rw [hget, hrow, Option.map_some], ?_⟩
    split <;> rfl
  | removed h =>
    obtain ⟨-, -, hcr, hget⟩ := Db.deleteMonitor_eq_ok h
    refine labelled_of hL (fun r hr => ((hcr r).mp hr).1) fun r hr row hrow => ⟨row, ?_, rfl⟩
    rw [hget, if_neg]
    · exact hrow
    · intro hid
      refine ((hcr r).mp hr).2 ?_
      rw [← hid, Int64.toInt64_toUInt64]
  | paused h | resumed h => exact labelled_setMonitorStatus hL h
  | registeredAgent hm hcr | removedAgent hm hcr =>
    refine labelled_of hL (fun r hr => hcr ▸ hr) fun r _ row hrow => ⟨row, ?_, rfl⟩
    rwa [Db.row?, hm]

/-- A flush labels what it records right, while what is known is coherent. -/
theorem labelled_flush {s : System} {w : Writer} {db : Db} {fault : Bool} {pick : List Int64 → Int64} (hI : Coherent s)
    (hL : s.db.Labelled) (h : s.writer.flush s.db fault pick = some (w, db)) : db.Labelled := by
  rcases (flush_eq_some h).2.2 with hins | ⟨rfl, -⟩
  · obtain ⟨hm, -, -, hall, -, hrows⟩ := Db.insertCheckResults_eq_ok (answer_eq_ok hins).2
    have hrow? : ∀ id, db.row? id = s.db.row? id := fun id => by rw [Db.row?, hm, Db.row?]
    intro r hr
    rcases hrows r hr with hr | ⟨result, hresult, id, rfl⟩
    · obtain ⟨row, hrow, ho⟩ := hL r hr
      exact ⟨row, (hrow? _).trans hrow, ho⟩
    · obtain ⟨row, hrow⟩ := Option.isSome_iff_exists.mp (hall result hresult)
      refine ⟨row, ?_, ?_⟩
      · rw [hrow?, Db.checkResultRow, UInt64.toUInt64_toInt64]
        exact hrow
      · refine hI ⟨result.monitorId.val, row.origin⟩ result.monitorId (Or.inr ⟨row, hrow, rfl⟩) (.writer ?_) rfl
        exact List.mem_append_left _ (List.mem_map.mpr ⟨result, hresult, rfl⟩)
  · exact hL

/-- Every step keeps the check results with the monitors they belong to, while what is known is coherent. -/
theorem labelled_step {cfg : EngineConfig} {s s' : System} {a : Action} {ev : List Event} (hI : Coherent s)
    (hL : s.db.Labelled) (he : Effect cfg s a s' ev) : s'.db.Labelled := by
  cases he with
  | wrote hpc hset => exact labelled_setMonitorStatus hL (answer_eq_ok hset).2
  | demoted hw hd hset => exact labelled_setMonitorStatus hL (answer_eq_ok hset).2
  | flushed hw => exact labelled_flush hI hL hw
  | heartbeat hm hc =>
    refine labelled_of hL (fun r hr => hc ▸ hr) fun r _ row hrow => ⟨row, ?_, rfl⟩
    rwa [Db.row?, hm]
  | called hc => exact labelled_call hL hc
  | _ => exact hL

/-- Nothing is carried at the start. -/
theorem coherent_start (cfg : EngineConfig) (k8sFactory : Option K8sCollectorFactory) (db : Db) :
    Coherent (System.start cfg k8sFactory db) := by
  have hrefs : (System.start cfg k8sFactory db).refs = [] := rfl
  rintro m m' (hm | ⟨row, hrow, ho⟩) (hm' | ⟨row', hrow', ho'⟩) hval
  · rw [hrefs] at hm
    cases hm
  · rw [hrefs] at hm
    cases hm
  · rw [hrefs] at hm'
    cases hm'
  · rw [← hval] at hrow'
    cases hrow.symm.trans hrow'
    exact ho.symm.trans ho'

/-- Checks are counted by the handling of an outcome of a registered monitor only. -/
theorem of_observed {cfg : EngineConfig} {s s' : System} {a : Action} {ev : List Event} {m : MonitorId} {success : Bool}
    (he : Effect cfg s a s' ev) (h : Event.observed m success ∈ ev) :
    m ∈ s.pc.refs ∧ ∃ state, s.scheduler.registry.lookup m.val = some state := by
  cases he with
  | resynced hpc =>
    obtain ⟨id, hreg, -⟩ := of_mem_events_resync h
    cases hreg
  | dispatched hpc =>
    rcases of_mem_events_dispatchDue h with ⟨task, h⟩ | ⟨agentId, assignment, h⟩ <;> cases h
  | @handled cause hpc =>
    have hh := handles_handle s.scheduler s.wall cause
    generalize s.scheduler.handle s.wall cause = x at h hh
    rw [hpc]
    cases hh with
    | goesStale | staysStale | unregistered => simp at h
    | transition hv hr | counted hv hr =>
      simp only [List.mem_cons, reduceCtorEq, Event.observed.injEq, List.not_mem_nil, or_false, false_or] at h
      obtain ⟨rfl, -⟩ := h
      exact ⟨List.mem_cons_self, _, hr⟩
  | wrote hpc | notWritten hpc =>
    simp only [List.mem_cons, reduceCtorEq, false_or, Persist.resume] at h
    split at h <;> simp at h
  | demoted | notDemoted => simp at h
  | _ => cases h

/-- A step that meets the condition moves no outcome to another monitor, while what is known is coherent. -/
theorem outcomesStay_step {cfg : EngineConfig} {s s' : System} {a : Action} {ev : List Event} (hI : Coherent s)
    (hL : s.db.Labelled) (hok : idsFresh s a = true) (he : Effect cfg s a s' ev) : OutcomesStay s a s' ev where
  recorded := labelled_step hI hL he
  written := by
    rintro b rfl m status hmem
    obtain ⟨⟨row, hrow⟩, -⟩ := Db.setMonitorStatus_eq_ok (set_of_wrote he hmem)
    obtain ⟨_, p, -, hpc, rfl, -⟩ | ⟨_, _, _, _, h, -⟩ := sets_of_effect he hmem rfl
    case inr => cases h
    refine ⟨row, hrow, hI ⟨p.cause.monitorId.val, row.origin⟩ p.cause.monitorId (Or.inr ⟨row, hrow, rfl⟩) (.pc ?_) rfl⟩
    rw [hpc]
    exact List.mem_cons_self
  counted m success hmem := by
    obtain ⟨hm, state, hr⟩ := of_observed he hmem
    exact ⟨state, hr, hI ⟨m.val, state.monitor.id.origin⟩ m (.registered hr) (.pc hm) rfl⟩
  kept id state state' hr hr' := by
    have hknown : Known s ⟨id, state'.monitor.id.origin⟩ := by
      by_cases ha : ∀ name target kind intervalSecs agentId pick,
          a ≠ .user (.addMonitor name target kind intervalSecs agentId pick)
      · exact known_step he ha _ (.registered hr')
      · simp only [not_forall, not_not] at ha
        obtain ⟨_, _, _, _, _, _, rfl⟩ := ha
        cases he with
        | called hc => exact .registered hr'
    exact hI ⟨id, state'.monitor.id.origin⟩ ⟨id, state.monitor.id.origin⟩ hknown (.registered hr) rfl

end IdentityAux

/-- The condition is enough: outcomes do not cross monitors when no monitor is inserted under an id that is still carried. -/
theorem outcomes_kept_when_fresh (cfg : EngineConfig) : OutcomesKept cfg idsFresh := by
  intro k8sFactory db s s' log ev a hdb h hok hs
  have hI : IdentityAux.Coherent s ∧ s.db.Labelled := by
    refine h.stateInvariant (I := fun s => IdentityAux.Coherent s ∧ s.db.Labelled)
      ⟨IdentityAux.coherent_start cfg k8sFactory db, hdb⟩ ?_
    exact fun s s' ev a hI hok hs =>
      ⟨IdentityAux.coherent_step hI.1 hok (effect_of_step hs), IdentityAux.labelled_step hI.1 hI.2 (effect_of_step hs)⟩
  exact IdentityAux.outcomesStay_step hI.1 hI.2 hok (effect_of_step hs)

/-! ## Two runs -/

/-- A monitor is added and registered. -/
def addedAndListed (name : String) : List Action := [
  .user (.addMonitor name ("http://" ++ name) .http 60 none fun _ => 0),
  .scheduler .resyncTick, .scheduler (.listMonitors false), .scheduler .listReturned]

/-- The first resync, of an empty database. -/
def started : List Action := [.scheduler (.listMonitors false), .scheduler .listReturned]

/-- A probe of monitor 1 ends in a success. -/
def probeSucceeds (origin : Nat) : List Action := [
  .scheduler (.join (.ok (0, .network ⟨1, origin⟩ (.success 12)))), .scheduler .handle]

/-- An outcome crosses: the first monitor is deleted while its probe is under way, the next one is given its id, and the
success of the probe makes the new monitor up. -/
theorem outcome_crosses : ¬ OutcomesKept EngineConfig.default always := by
  intro h
  let step := System.step EngineConfig.default
  let s₀ := System.start EngineConfig.default none Db.empty
  let x := after step always s₀ (started ++ addedAndListed "old" ++
    [.scheduler (.dispatchDue [1]), .user (.removeMonitor 1),
      .user (.addMonitor "new" "http://new" .http 60 none fun _ => 0)] ++ probeSucceeds 0)
  let x' := after step always x.1 [.scheduler (.setMonitorStatus false)]
  have hr : Run step (fun s a => always s a = true) s₀ x.1 x.2 := run_after (by decide +kernel)
  have hs := step_after step always x.1 (.scheduler (.setMonitorStatus false)) (by decide +kernel)
  have hmem : Event.wrote ⟨1, 0⟩ .up true ∈ x'.2 := by decide +kernel
  have hempty : Db.empty.Labelled := fun r hr => by cases hr
  obtain ⟨row, hrow, ho⟩ := (h none Db.empty x.1 x'.1 x.2 x'.2 _ hempty hr rfl hs.2).written _ rfl _ _ hmem
  have hnew : (x.1.db.row? 1).map (·.origin) = some 1 := by decide +kernel
  rw [show x.1.db.row? 1 = some row from hrow, Option.map_some, ho] at hnew
  exact absurd hnew (by decide)

/-- With a resync after the deletion, the id is free when it is given again, and the new monitor goes up by its own probe. -/
theorem outcome_stays : ∃ (s : System) (row : MonitorRow), s.db.row? 1 = some row ∧ row.name = "new" ∧ row.origin = 1 := by
  let step := System.step EngineConfig.default
  let s₀ := System.start EngineConfig.default none Db.empty
  let x := after step idsFresh s₀ (started ++ addedAndListed "old" ++
    [.user (.removeMonitor 1), .scheduler .resyncTick, .scheduler (.listMonitors false), .scheduler .listReturned] ++
    addedAndListed "new" ++ [.scheduler (.dispatchDue [1])] ++ probeSucceeds 1)
  let x' := after step idsFresh x.1 [.scheduler (.setMonitorStatus false)]
  have hr : Run step (fun s a => idsFresh s a = true) s₀ x.1 x.2 := run_after (by decide +kernel)
  have hs := step_after step idsFresh x.1 (.scheduler (.setMonitorStatus false))
    (by decide +kernel)
  have hmem : Event.wrote ⟨1, 1⟩ .up true ∈ x'.2 := by decide +kernel
  have hempty : Db.empty.Labelled := fun r hr => by cases hr
  obtain ⟨row, hrow, ho⟩ :=
    (outcomes_kept_when_fresh EngineConfig.default none Db.empty x.1 x'.1 x.2 x'.2 _ hempty hr hs.1 hs.2).written _ rfl _ _ hmem
  have hname : (x.1.db.row? 1).map (·.name) = some "new" := by decide +kernel
  rw [show x.1.db.row? 1 = some row from hrow, Option.map_some] at hname
  exact ⟨x.1, row, hrow, Option.some.inj hname, ho⟩

end Monitra
