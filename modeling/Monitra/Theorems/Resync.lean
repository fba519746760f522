import Monitra.Engine.System
import Monitra.Lemmas.Scheduler

/-!
# What a resync makes of the scheduler

The registry, the collectors and the quarantine after a resync, each against the list the store gave: what is there is decided by
the list alone, and what is kept of an entry is what was there before.
-/

namespace Monitra

/-- The scheduler agrees with the monitors listed, and has kept of its entries what a resync keeps. -/
structure Reconciled (now : Instant) (monitors : List Monitor) (before after : Scheduler) : Prop where
  /-- Registered are the listed monitors that are not paused and have a valid interval. -/
  keys : ∀ id, (after.registry.lookup id).isSome ↔
    ∃ m ∈ monitors, m.id.val = id ∧ m.status ≠ .paused ∧ validIntervalSecs m.intervalSecs = true
  /-- Each with the row that is listed under its id. -/
  entries : ∀ m ∈ monitors, ∀ state, after.registry.lookup m.id.val = some state → state.monitor = m
  /-- An entry that was there keeps its deadline and its counters. -/
  kept : ∀ id state state', before.registry.lookup id = some state → after.registry.lookup id = some state' →
    state'.nextCheckAt = state.nextCheckAt ∧ state'.flap = state.flap
  /-- An entry that was not is due now, and fresh. -/
  made : ∀ id state', before.registry.lookup id = none → after.registry.lookup id = some state' →
    state'.nextCheckAt = now ∧ state'.flap = FlapState.default
  /-- There is a collector only for a registered monitor. -/
  collectors : ∀ id, (after.k8sCollectors.lookup id).isSome → (after.registry.lookup id).isSome
  /-- Quarantined are the listed monitors with an invalid interval. -/
  quarantined : ∀ id, id ∈ after.quarantined ↔ ∃ m ∈ monitors, m.id.val = id ∧ validIntervalSecs m.intervalSecs = false
  /-- The count that is reported is theirs, each counted once. -/
  count : after.quarantined.Nodup ∧ after.assignments.quarantinedCount = after.quarantined.length

namespace ResyncAux

open Scheduler

/-- A monitor that is active is not paused and its interval is valid. -/
theorem active_iff (m : Monitor) : active m = true ↔ m.status ≠ .paused ∧ validIntervalSecs m.intervalSecs = true := by
  simp [active]

/-- One turn of the loop quarantines the monitors with an invalid interval. -/
theorem quarantined_resyncStep (now : Instant) (acc : ResyncLoop) (m : Monitor) :
    (resyncStep now acc m).quarantined =
      if validIntervalSecs m.intervalSecs then acc.quarantined else acc.quarantined.insert m.id.val := by
  unfold resyncStep
  by_cases hv : validIntervalSecs m.intervalSecs = true
  · simp only [hv, Bool.not_true, Bool.false_eq_true, if_false, if_true]
    split
    · rfl
    · split <;> rfl
  · simp [hv]

/-- The loop from any point on: what it quarantines, over what is there. -/
theorem mem_quarantined_foldl (now : Instant) (id : UInt64) (monitors : List Monitor) (acc : ResyncLoop) :
    id ∈ (monitors.foldl (resyncStep now) acc).quarantined ↔
      id ∈ acc.quarantined ∨ ∃ m ∈ monitors, m.id.val = id ∧ validIntervalSecs m.intervalSecs = false := by
  induction monitors generalizing acc with
  | nil => simp
  | cons m monitors ih =>
    rw [List.foldl_cons, ih, quarantined_resyncStep]
    by_cases hv : validIntervalSecs m.intervalSecs = true
    · simp [hv]
    · simp only [hv, Bool.false_eq_true, if_false, List.mem_insert_iff, List.mem_cons, exists_eq_or_imp]
      constructor
      · rintro ((rfl | h) | h)
        · exact Or.inr (Or.inl ⟨rfl, trivial⟩)
        · exact Or.inl h
        · exact Or.inr (Or.inr h)
      · rintro (h | ⟨rfl, -⟩ | h)
        · exact Or.inl (Or.inr h)
        · exact Or.inl (Or.inl rfl)
        · exact Or.inr h

theorem nodup_quarantined_foldl (now : Instant) (monitors : List Monitor) (acc : ResyncLoop) (h : acc.quarantined.Nodup) :
    (monitors.foldl (resyncStep now) acc).quarantined.Nodup := by
  induction monitors generalizing acc with
  | nil => exact h
  | cons m monitors ih =>
    refine ih _ ?_
    rw [quarantined_resyncStep]
    split
    · exact h
    · exact h.insert

/-- The registry's keys after a resync. -/
theorem isSome_lookup_resync (s : Scheduler) (now : Instant) (monitors : List Monitor) (id : UInt64) :
    ((s.resync now monitors).1.registry.lookup id).isSome ↔ id ∈ (monitors.filter active).map (·.id.val) := by
  rw [lookup_resync, Option.isSome_map, mem_seen_iff]

/-- A resync reconciles the scheduler with the list. -/
theorem reconciled_resync (s : Scheduler) (now : Instant) {monitors : List Monitor} (hids : (monitors.map (·.id.val)).Nodup) :
    Reconciled now monitors s (s.resync now monitors).1 where
  keys id := by
    simp only [isSome_lookup_resync, List.mem_map, List.mem_filter, active_iff]
    exact exists_congr fun m => by tauto
  entries m hmem state h := by
    rw [lookup_resync, Option.map_eq_some_iff] at h
    obtain ⟨m', hm', rfl⟩ := h
    obtain ⟨hmem', -, hid⟩ := of_registers hm'
    cases List.inj_on_of_nodup_map hids hmem' hmem hid
    cases s.registry.lookup m.id.val <;> rfl
  kept id state state' hb ha := by
    rw [lookup_resync, hb, Option.map_eq_some_iff] at ha
    obtain ⟨m, -, rfl⟩ := ha
    exact ⟨rfl, rfl⟩
  made id state' hb ha := by
    rw [lookup_resync, hb, Option.map_eq_some_iff] at ha
    obtain ⟨m, -, rfl⟩ := ha
    exact ⟨rfl, rfl⟩
  collectors id h := by
    rw [isSome_lookup_resync]
    obtain ⟨kept, hk⟩ := Option.isSome_iff_exists.mp h
    rw [resync, HashMap.lookup_retain, Option.filter_eq_some_iff] at hk
    exact of_decide_eq_true hk.2
  quarantined id := by
    simp only [resync, mem_quarantined_foldl, List.not_mem_nil, false_or]
  count := ⟨nodup_quarantined_foldl now monitors _ List.nodup_nil, rfl⟩

end ResyncAux

open ResyncAux in
/-- A resync that gets the list reconciles the scheduler with it; one that does not leaves the registry, the collectors, the
quarantine and its count as they were. -/
theorem resync_reconciles {cfg : EngineConfig} {s s' : System} {events : List Event} {answer : Except StorageError (List Monitor)}
    {after : Option PushedResult} (hpc : s.pc = .listed answer after)
    (hstep : s.step cfg (.scheduler .listReturned) = some (s', events)) :
    (∀ monitors, answer = .ok monitors → (monitors.map (·.id.val)).Nodup →
        Reconciled s.clock monitors s.scheduler s'.scheduler) ∧
      (∀ source, answer = .error source →
        s'.scheduler.registry = s.scheduler.registry ∧ s'.scheduler.k8sCollectors = s.scheduler.k8sCollectors ∧
          s'.scheduler.quarantined = s.scheduler.quarantined ∧
          s'.scheduler.assignments.quarantinedCount = s.scheduler.assignments.quarantinedCount) := by
  simp only [System.step, System.schedulerStep, hpc] at hstep
  constructor
  · intro monitors hok hids
    subst hok
    cases hstep
    exact reconciled_resync s.scheduler s.clock hids
  · intro source herr
    subst herr
    cases hstep
    exact ⟨rfl, rfl, rfl, rfl⟩

/-- Five monitors: two to check, one that is paused, one whose interval is too long, and one that is both. -/
def relistedMonitors : List Monitor :=
  let row (id intervalSecs : UInt64) (status : MonitorStatus) : Monitor :=
    ⟨⟨id, id.toNat⟩, "web", "10.0.0.1:80", .tcp, intervalSecs, status, none⟩
  [row 1 60 .down, row 2 30 .pending, row 3 30 .paused, row 4 90000 .up, row 5 0 .paused]

/-- A scheduler that has that list, and knows the first and the third of them. -/
def relisted : System :=
  let s := System.start .default none Db.empty
  let known (id : UInt64) : MonitorState := ⟨⟨⟨id, id.toNat⟩, "web", "10.0.0.1:80", .tcp, 30, .up, none⟩, 5, ⟨2, 0⟩⟩
  { s with
    clock := 7
    scheduler := { s.scheduler with
      registry := ((∅ : HashMap UInt64 MonitorState).insert 1 (known 1)).insert 3 (known 3)
      quarantined := [9] }
    pc := .listed (.ok relistedMonitors) none }

/-- There the first and the second are registered, and the last two are quarantined. -/
theorem resync_reconciles_relisted :
    (relisted.scheduler.resync 7 relistedMonitors).1.quarantined = [5, 4] ∧
      Reconciled 7 relistedMonitors relisted.scheduler (relisted.scheduler.resync 7 relistedMonitors).1 :=
  ⟨by decide, (@resync_reconciles .default relisted _ _ _ _ rfl rfl).1 _ rfl (by decide)⟩

end Monitra
