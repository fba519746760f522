import Monitra.Lemmas.Steps

/-!
# Deadlines and intervals

A dispatch puts the next check of a monitor at most one interval ahead. A resync keeps the deadline of an entry and replaces its
monitor, so a monitor whose interval was shortened keeps the deadline that the longer one gave it.
-/

namespace Monitra

open Runs

/-- No monitor of the registry waits longer than its interval. -/
def System.Prompt (s : System) : Prop :=
  ∀ id state, s.scheduler.registry.lookup id = some state →
    state.nextCheckAt ≤ s.clock + Duration.fromSecs state.monitor.intervalSecs

/-- The condition. A resync that finds the interval of a registered monitor shortened finds the monitor due within the new
one. -/
def intervalsKept (s : System) : Action → Bool
  | .scheduler .listReturned =>
    match s.pc with
    | .listed (.ok monitors) _ =>
      s.scheduler.registry.entries.all fun e =>
        (Scheduler.registers monitors e.1).all fun m =>
          decide (e.2.monitor.intervalSecs ≤ m.intervalSecs) ||
            decide (e.2.nextCheckAt ≤ s.clock + Duration.fromSecs m.intervalSecs)
    | _ => true
  | _ => true

namespace DeadlinesAux

open Scheduler

theorem fromSecs_le {a b : UInt64} (h : a ≤ b) : Duration.fromSecs a ≤ Duration.fromSecs b :=
  Nat.mul_le_mul_right _ (UInt64.le_iff_toNat_le.mp h)

/-- The next deadline, with instants that are not bounded. -/
theorem advanceDeadline_eq (previous now : Instant) (interval : Duration) :
    advanceDeadline previous interval now =
      if previous + interval ≤ now then now + min interval (Duration.fromSecs MAX_INTERVAL_SECS) else previous + interval :=
  rfl

/-- A deadline that has come moves to at most one interval ahead. -/
theorem advanceDeadline_le {previous now : Instant} {interval : Duration} (h : previous ≤ now) :
    advanceDeadline previous interval now ≤ now + interval := by
  rw [advanceDeadline_eq]
  split
  · exact Nat.add_le_add_left (Nat.min_le_left _ _) _
  · exact Nat.add_le_add_right h _

/-- Every entry of a registry comes due within its interval. -/
def Within (registry : HashMap UInt64 MonitorState) (now : Instant) : Prop :=
  ∀ id state, registry.lookup id = some state → state.nextCheckAt ≤ now + Duration.fromSecs state.monitor.intervalSecs

/-- The dispatch of the monitors of a list, each once and each due, puts them at most one interval ahead. -/
theorem within_foldl_dispatchOne {now : Instant} : ∀ {due : List UInt64} {d : Dispatch}, due.Nodup →
    (∀ id ∈ due, ∀ state, d.scheduler.registry.lookup id = some state → state.nextCheckAt ≤ now) →
    Within d.scheduler.registry now → Within (due.foldl (dispatchOne now) d).scheduler.registry now
  | [], _, _, _, hw => hw
  | k :: due, d, hnodup, hdue, hw => by
    rw [List.nodup_cons] at hnodup
    rw [List.foldl_cons]
    have hreg := registry_dispatchOne now d k
    cases hk : d.scheduler.registry.lookup k with
    | none =>
      rw [hk, Option.elim_none] at hreg
      refine within_foldl_dispatchOne hnodup.2 (fun id hid state hr => ?_) (hreg ▸ hw)
      exact hdue id (List.mem_cons_of_mem _ hid) state (hreg ▸ hr)
    | some st =>
      rw [hk, Option.elim_some] at hreg
      have hcome := hdue k List.mem_cons_self st hk
      refine within_foldl_dispatchOne hnodup.2 (fun id hid state hr => ?_) fun id state hr => ?_
      · rw [hreg, advance, HashMap.lookup_insert, if_neg] at hr
        · exact hdue id (List.mem_cons_of_mem _ hid) state hr
        · rintro rfl
          exact hnodup.1 hid
      · rw [hreg, advance, HashMap.lookup_insert] at hr
        split at hr
        · cases hr
          exact advanceDeadline_le hcome
        · exact hw id state hr

/-- A dispatch of the monitors that are due puts them at most one interval ahead. -/
theorem within_dispatchDue {s : Scheduler} {tasks : Tasks} {now : Instant} {due : List UInt64} (hdue : due.Perm (s.dueIds now))
    (hw : Within s.registry now) : Within (s.dispatchDue tasks now due).scheduler.registry now := by
  refine within_foldl_dispatchOne (hdue.nodup_iff.mpr (nodup_dueIds s now)) (fun id hid state hr => ?_) hw
  · obtain ⟨⟨k, st⟩, hmem, rfl⟩ := List.mem_map.mp (hdue.mem_iff.mp hid)
    obtain ⟨hmem, hcome⟩ := List.mem_filter.mp hmem
    rw [HashMap.mem_entries_iff] at hmem
    cases hmem.symm.trans hr
    simpa using hcome

/-- The handling of an outcome leaves deadlines and intervals as they are. -/
theorem within_handle {s : Scheduler} {now : Instant} (wall : UInt64) (cause : Handled) (hw : Within s.registry now) :
    Within (s.handle wall cause).scheduler.registry now := by
  intro id state' hr'
  obtain ⟨state, hr, hnext, hm⟩ := of_lookup_handle hr'
  rw [hnext, hm]
  exact hw id state hr

/-- A resync keeps every entry within its interval exactly when the entries whose interval it shortens are due within the new
one. -/
theorem within_resync_iff {s : Scheduler} {now : Instant} {monitors : List Monitor} (hw : Within s.registry now) :
    Within (s.resync now monitors).1.registry now ↔
      ∀ id state m, s.registry.lookup id = some state → registers monitors id = some m →
        state.monitor.intervalSecs ≤ m.intervalSecs ∨ state.nextCheckAt ≤ now + Duration.fromSecs m.intervalSecs := by
  unfold Within
  simp only [lookup_resync]
  constructor
  · intro h id state m hr hm
    have hnew := h id (resyncedState now (some state) m) (by rw [hm, hr, Option.map_some])
    exact Or.inr hnew
  · intro h id state' hr'
    obtain ⟨m, hm, rfl⟩ := Option.map_eq_some_iff.mp hr'
    cases hr : s.registry.lookup id with
    | none => exact Nat.le_add_right _ _
    | some state =>
      rcases h id state m hr hm with hle | hle
      · exact (hw id state hr).trans (Nat.add_le_add_left (fromSecs_le hle) _)
      · exact hle

/-- What a step leaves is within the intervals exactly when the step meets the condition. -/
theorem prompt_step_iff {cfg : EngineConfig} {s s' : System} {a : Action} {ev : List Event} (hI : s.Prompt)
    (he : Effect cfg s a s' ev) : s'.Prompt ↔ intervalsKept s a = true := by
  cases he with
  | @resynced monitors after hpc =>
    have hcond : intervalsKept s (.scheduler .listReturned) = true ↔
        ∀ id state m, s.scheduler.registry.lookup id = some state → registers monitors id = some m →
          state.monitor.intervalSecs ≤ m.intervalSecs ∨ state.nextCheckAt ≤ s.clock + Duration.fromSecs m.intervalSecs := by
      simp only [intervalsKept, hpc, List.all_eq_true, Option.all_eq_true, Bool.or_eq_true, decide_eq_true_eq, Sigma.forall,
        HashMap.mem_entries_iff]
      exact forall_congr' fun id => forall_congr' fun state =>
        ⟨fun h m hr hm => h hr m hm, fun h hr m hm => h m hr hm⟩
    rw [hcond]
    exact within_resync_iff hI
  | advance =>
    refine iff_of_true (fun id state hr => (hI id state hr).trans ?_) rfl
    exact Nat.add_le_add_right (Nat.le_add_right _ _) _
  | dispatched hpc hdue => exact iff_of_true (within_dispatchDue hdue hI) rfl
  | handled hpc => exact iff_of_true (within_handle _ _ hI) rfl
  | notResynced hpc => exact iff_of_true hI (by simp [intervalsKept, hpc])
  | _ => exact iff_of_true hI rfl

end DeadlinesAux

/-- In every run whose resyncs find monitors with a shortened interval due within the new one, no monitor ever waits longer
than its interval; and after the first resync that does not, one does. -/
theorem waits_within_interval_iff {cfg : EngineConfig} {k8sFactory : Option K8sCollectorFactory} {db : Db} {s : System}
    {log : List Event} (h : Run (System.step cfg) (fun s a => intervalsKept s a = true) (System.start cfg k8sFactory db) s log) :
    s.Prompt ∧ ∀ a s' ev, s.step cfg a = some (s', ev) → (s'.Prompt ↔ intervalsKept s a = true) := by
  have hI : s.Prompt := by
    refine h.stateInvariant (I := System.Prompt) (fun id state hr => ?_) fun s s' ev a hI hok hs =>
      (DeadlinesAux.prompt_step_iff hI (effect_of_step hs)).mpr hok
    rw [System.start, Scheduler.new, HashMap.lookup_empty] at hr
    cases hr
  exact ⟨hI, fun a s' ev hs => DeadlinesAux.prompt_step_iff hI (effect_of_step hs)⟩

/-- A monitor with an interval of a day is checked once, and then its interval becomes ten seconds. -/
def intervalCut : List Action := [
  .user (.addMonitor "api" "http://api" .http 86400 none fun _ => 0),
  .scheduler (.listMonitors false), .scheduler .listReturned, .scheduler (.dispatchDue [1]),
  .user (.editMonitor 1 none none (some 10) none),
  .scheduler .resyncTick, .scheduler (.listMonitors false), .scheduler .listReturned]

/-- After the resync that takes up the edit, the next check is still a day ahead. -/
theorem waits_a_day :
    ∃ (s : System) (log : List Event) (state : MonitorState),
      Run (System.step EngineConfig.default) (fun s a => always s a = true)
          (System.start EngineConfig.default none Db.empty) s log ∧
        s.clock = 0 ∧ s.scheduler.registry.lookup 1 = some state ∧ state.monitor.intervalSecs = 10 ∧
        state.nextCheckAt = Duration.fromSecs 86400 ∧ ¬s.Prompt := by
  let step := System.step EngineConfig.default
  let s₀ := System.start EngineConfig.default none Db.empty
  let x := after step always s₀ intervalCut
  have h : Run step (fun s a => always s a = true) s₀ x.1 x.2 := run_after (by decide +kernel)
  have hr : x.1.scheduler.registry.lookup 1 =
      some ⟨⟨⟨1, 0⟩, "api", "http://api", .http, 10, .pending, none⟩, Duration.fromSecs 86400, FlapState.default⟩ := by
    decide +kernel
  refine ⟨x.1, x.2, _, h, by decide +kernel, hr, rfl, rfl, fun hp => ?_⟩
  have hle := hp 1 _ hr
  revert hle
  decide +kernel

/-- When the interval grows instead, the monitor does not wait longer than it. -/
def intervalGrown : List Action := [
  .user (.addMonitor "api" "http://api" .http 10 none fun _ => 0),
  .scheduler (.listMonitors false), .scheduler .listReturned, .scheduler (.dispatchDue [1]),
  .user (.editMonitor 1 none none (some 60) none),
  .scheduler .resyncTick, .scheduler (.listMonitors false), .scheduler .listReturned]

theorem grown_interval_kept :
    ∃ (s : System) (log : List Event),
      Run (System.step EngineConfig.default) (fun s a => intervalsKept s a = true)
          (System.start EngineConfig.default none Db.empty) s log ∧
        s.scheduler.registry.lookup 1 ≠ none ∧ s.Prompt := by
  let step := System.step EngineConfig.default
  let s₀ := System.start EngineConfig.default none Db.empty
  let x := after step intervalsKept s₀ intervalGrown
  have h : Run step (fun s a => intervalsKept s a = true) s₀ x.1 x.2 := run_after (by decide +kernel)
  exact ⟨x.1, x.2, h, by decide +kernel, (waits_within_interval_iff h).1⟩

end Monitra
