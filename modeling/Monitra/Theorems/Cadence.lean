import Monitra.Library.Periodic
import Monitra.Theorems.Deadlines

/-!
# The cadence of the checks

When a monitor is dispatched, as long as it stays registered with one interval. Its deadline is a periodic timer that
`dispatch_due` looks at whenever the scheduler gets to it: no other step of the daemon moves it.
-/

namespace Monitra

open Runs Periodic

/-- The deadline of a registered monitor. -/
def System.deadline (s : System) (id : UInt64) : Option Instant :=
  (s.scheduler.registry.lookup id).map (·.nextCheckAt)

/-- The interval of a registered monitor. -/
def System.interval (s : System) (id : UInt64) : Option UInt64 :=
  (s.scheduler.registry.lookup id).map (·.monitor.intervalSecs)

/-- The dispatch of a monitor by a step: the deadline it had, the time, and the deadline it has then. -/
def dispatchOf (cfg : EngineConfig) (id : UInt64) (s : System) (a : Action) : Option Firing :=
  match a, s.step cfg a with
  | .scheduler (.dispatchDue due), some (s', _) =>
    match s.deadline id, s'.deadline id with
    | some deadline, some next => if id ∈ due then some ⟨deadline, s.clock, next⟩ else none
    | _, _ => none
  | _, _ => none

/-- The monitor stays registered, with the interval. -/
def staysWith (cfg : EngineConfig) (id intervalSecs : UInt64) (s : System) (a : Action) : Bool :=
  (s.step cfg a).all fun x => decide (x.1.interval id = some intervalSecs)

namespace CadenceAux

open Scheduler

/-- With a valid interval the next deadline is that of a periodic timer. -/
theorem advanceDeadline_eq_next {intervalSecs : UInt64} (hvalid : validIntervalSecs intervalSecs = true) (previous now : Instant) :
    advanceDeadline previous (Duration.fromSecs intervalSecs) now = next (Duration.fromSecs intervalSecs) previous now := by
  have hmax : Duration.fromSecs intervalSecs ≤ Duration.fromSecs MAX_INTERVAL_SECS :=
    DeadlinesAux.fromSecs_le (of_decide_eq_true hvalid).2
  rw [DeadlinesAux.advanceDeadline_eq, Nat.min_eq_left hmax, next]

theorem fromSecs_pos {intervalSecs : UInt64} (hvalid : validIntervalSecs intervalSecs = true) :
    0 < Duration.fromSecs intervalSecs := by
  have hmin : (1 : UInt64) ≤ intervalSecs := (of_decide_eq_true hvalid).1
  exact Nat.mul_pos (UInt64.le_iff_toNat_le.mp hmin) (by decide)

/-- The entry of a monitor after the dispatch of the monitors of a list, each once: only its own dispatch moves its deadline. -/
theorem lookup_foldl_dispatchOne (now : Instant) (id : UInt64) : ∀ {due : List UInt64} (d : Dispatch), due.Nodup →
    (due.foldl (dispatchOne now) d).scheduler.registry.lookup id =
      (d.scheduler.registry.lookup id).map fun state =>
        if id ∈ due then
          { state with
            nextCheckAt := advanceDeadline state.nextCheckAt (Duration.fromSecs state.monitor.intervalSecs) now }
        else state
  | [], d, _ => by simp
  | k :: due, d, hnodup => by
    rw [List.nodup_cons] at hnodup
    rw [List.foldl_cons, lookup_foldl_dispatchOne now id _ hnodup.2, registry_dispatchOne]
    by_cases hid : id = k
    · subst hid
      cases hr : d.scheduler.registry.lookup id with
      | none => simp [hr]
      | some state => simp [advance, hnodup.1]
    · have hmem : id ∈ k :: due ↔ id ∈ due := by simp [hid]
      have hother : (((d.scheduler.registry.lookup k).elim d.scheduler.registry fun state =>
          (d.scheduler.advance now k state).registry).lookup id) = d.scheduler.registry.lookup id := by
        cases d.scheduler.registry.lookup k with
        | none => rfl
        | some state => simp [advance, hid]
      simp only [hother, hmem]

/-- A monitor is due when its deadline has come. -/
theorem mem_dueIds_iff {s : Scheduler} {now : Instant} {id : UInt64} {state : MonitorState}
    (hr : s.registry.lookup id = some state) : id ∈ s.dueIds now ↔ state.nextCheckAt ≤ now := by
  simp only [dueIds, List.mem_map, List.mem_filter, decide_eq_true_eq]
  constructor
  · rintro ⟨⟨k, state'⟩, ⟨hmem, hle⟩, rfl⟩
    cases (HashMap.mem_entries_iff.mp hmem).symm.trans hr
    exact hle
  · intro hle
    exact ⟨⟨id, state⟩, ⟨HashMap.mem_entries_iff.mpr hr, hle⟩, rfl⟩

/-- The handling of an outcome leaves every deadline as it is. -/
theorem deadline_handle (s : Scheduler) (wall : UInt64) (cause : Handled) (id : UInt64) :
    ((s.handle wall cause).scheduler.registry.lookup id).map (·.nextCheckAt) = (s.registry.lookup id).map (·.nextCheckAt) :=
  lookup_handle (·.nextCheckAt) (fun _ _ _ => rfl) s wall cause id

/-- A step that is no dispatch leaves the deadline of a monitor that stays registered as it is. -/
theorem deadline_of_effect {cfg : EngineConfig} {s s' : System} {a : Action} {ev : List Event} (he : Effect cfg s a s' ev)
    (ha : ∀ due, a ≠ .scheduler (.dispatchDue due)) {id : UInt64} (hr : (s.deadline id).isSome) (hr' : (s'.deadline id).isSome) :
    s'.deadline id = s.deadline id := by
  cases he with
  | dispatched => exact absurd rfl (ha _)
  | handled => exact deadline_handle _ _ _ _
  | resynced =>
    unfold System.deadline at hr hr' ⊢
    simp only [lookup_resync] at hr' ⊢
    cases hstate : s.scheduler.registry.lookup id with
    | none => simp [hstate] at hr
    | some state =>
      cases hm : registers _ id with
      | none => simp [hm] at hr'
      | some m => rfl
  | _ => rfl

/-- A dispatch of the monitors that are due moves the deadline of one that is, by its timer. -/
theorem deadline_dispatchDue {s : System} {due : List UInt64} (hdue : due.Perm (s.scheduler.dueIds s.clock)) {id : UInt64}
    {state : MonitorState} (hr : s.scheduler.registry.lookup id = some state)
    (hvalid : validIntervalSecs state.monitor.intervalSecs = true) :
    ((s.scheduler.dispatchDue s.tasks s.clock due).scheduler.registry.lookup id).map (·.nextCheckAt) =
        some (if id ∈ due then next (Duration.fromSecs state.monitor.intervalSecs) state.nextCheckAt s.clock
          else state.nextCheckAt) ∧
      (id ∈ due → state.nextCheckAt ≤ s.clock) := by
  constructor
  · rw [dispatchDue, lookup_foldl_dispatchOne s.clock id ⟨s.scheduler, s.tasks, []⟩ (hdue.nodup_iff.mpr (nodup_dueIds _ _)), hr,
      ← advanceDeadline_eq_next hvalid]
    simp only [Option.map_some]
    split <;> rfl
  · intro hid
    exact (mem_dueIds_iff hr).mp (hdue.mem_iff.mp hid)

/-- The monitor is registered with the interval, and the dispatches so far have led to its deadline. -/
structure Paced (id intervalSecs : UInt64) (start : Instant) (s : System) (seen : List Firing) : Prop where
  interval : s.interval id = some intervalSecs
  deadline : ∃ deadline, s.deadline id = some deadline ∧ Fires (Duration.fromSecs intervalSecs) start seen deadline

theorem paced_step {cfg : EngineConfig} {id intervalSecs : UInt64} (hvalid : validIntervalSecs intervalSecs = true)
    {start : Instant} {s s' : System} {seen : List Firing} {a : Action} {ev : List Event} (hI : Paced id intervalSecs start s seen)
    (hok : staysWith cfg id intervalSecs s a = true) (hs : s.step cfg a = some (s', ev)) :
    Paced id intervalSecs start s' (seen ++ (dispatchOf cfg id s a).toList) := by
  obtain ⟨state, hr, hinterval⟩ := Option.map_eq_some_iff.mp hI.interval
  obtain ⟨deadline, hd, hfires⟩ := hI.deadline
  have hinterval' : s'.interval id = some intervalSecs := by
    rw [staysWith, hs, Option.all_some, decide_eq_true_iff] at hok
    exact hok
  refine ⟨hinterval', ?_⟩
  have he := effect_of_step hs
  by_cases ha : ∃ due, a = .scheduler (.dispatchDue due)
  · obtain ⟨due, rfl⟩ := ha
    subst hinterval
    rw [System.deadline, hr, Option.map_some, Option.some.injEq] at hd
    subst hd
    cases he with
    | dispatched hpc hdue =>
      obtain ⟨hd', hle⟩ := deadline_dispatchDue hdue hr hvalid
      refine ⟨_, hd', ?_⟩
      have hsee : dispatchOf cfg id s (.scheduler (.dispatchDue due)) =
          if id ∈ due then some ⟨state.nextCheckAt, s.clock,
            next (Duration.fromSecs state.monitor.intervalSecs) state.nextCheckAt s.clock⟩ else none := by
        simp only [dispatchOf, hs, System.deadline, hr, hd', Option.map_some]
        split <;> rfl
      rw [hsee]
      split
      · rename_i hid
        exact hfires.snoc (hle hid)
      · rw [Option.toList_none, List.append_nil]
        exact hfires
  · have hsee : dispatchOf cfg id s a = none := by
      unfold dispatchOf
      split
      · exact absurd ⟨_, rfl⟩ ha
      · rfl
    have hsome : (s'.deadline id).isSome := by
      have h := congrArg Option.isSome hinterval'
      rwa [System.interval, Option.isSome_map, Option.isSome_some, ← Option.isSome_map] at h
    refine ⟨deadline, ?_, by rwa [hsee, Option.toList_none, List.append_nil]⟩
    rw [deadline_of_effect he (fun due h => ha ⟨due, h⟩) (by rw [hd, Option.isSome_some]) hsome, hd]

end CadenceAux

/-- From any state in which a monitor is registered with a valid interval, in every run that leaves it registered with it: each
dispatch moves its deadline by at least the interval, to a moment after the dispatch and at most an interval after it, which is
the deadline it had plus the interval unless that has come too; in a window it is dispatched at most as often as the interval
goes into it, and twice more; and the deadline of a dispatch before which none was an interval late is on the grid of the first
one. -/
theorem deadline_law {cfg : EngineConfig} {id intervalSecs : UInt64} {start : Instant} {s₀ s : System} {seen : List Firing}
    (hvalid : validIntervalSecs intervalSecs = true) (hinterval : s₀.interval id = some intervalSecs)
    (hstart : s₀.deadline id = some start)
    (h : Run (seeing (System.step cfg) (dispatchOf cfg id)) (fun s a => staysWith cfg id intervalSecs s a = true) s₀ s seen) :
    let interval := Duration.fromSecs intervalSecs
    (∀ x ∈ seen, x.deadline + interval ≤ x.next ∧ x.now < x.next ∧ x.next ≤ x.now + interval ∧
        x.next = if x.now < x.deadline + interval then x.deadline + interval else x.now + interval) ∧
      (∀ from' length : Nat,
        seen.countP (fun x => decide (from' ≤ x.now ∧ x.now ≤ from' + length)) ≤ length / interval + 2) ∧
      ∀ (k : Nat) (x : Firing), seen[k]? = some x → (∀ y ∈ seen.take k, y.now < y.deadline + interval) →
        x.deadline = start + k * interval := by
  intro interval
  have hI : CadenceAux.Paced id intervalSecs start s seen := by
    refine h.invariant (I := CadenceAux.Paced id intervalSecs start) ⟨hinterval, start, hstart, .nil⟩ ?_
    intro s s' seen ev a hI hok hs
    obtain ⟨ev', hs', rfl⟩ := seeing_eq_some hs
    exact CadenceAux.paced_step hvalid hI hok hs'
  obtain ⟨deadline, -, hfires⟩ := hI.deadline
  have hpos : 0 < interval := CadenceAux.fromSecs_pos hvalid
  refine ⟨fun x hx => ?_, hfires.countP_le hpos, fun k x hk hlate => ?_⟩
  · obtain ⟨hdue, hnext⟩ := hfires.of_mem hx
    rw [hnext]
    refine ⟨add_le_next interval _ _, lt_next hpos _ _, next_le hdue, ?_⟩
    split
    · rename_i hlt
      exact next_of_lt hlt
    · rename_i hge
      exact next_of_le (not_lt.mp hge)
  · have hk' : k < seen.length := (List.getElem?_eq_some_iff.mp hk).1
    rw [(hfires.take hk).deadline_eq hlate, List.length_take_of_le hk'.le]

/-- The daemon with one monitor, registered at time 0, with an interval of ten seconds. -/
def paced : System :=
  let s := System.start EngineConfig.default none Db.empty
  let state : MonitorState := ⟨⟨⟨1, 0⟩, "api", "http://api", .http, 10, .pending, none⟩, 0, FlapState.default⟩
  { s with
    pc := .select
    scheduler := { s.scheduler with registry := (∅ : HashMap UInt64 MonitorState).insert 1 state } }

/-- It is looked at at 0, 4, 14 and 80 seconds. -/
def pacedDispatches : List Action := [
  .scheduler (.dispatchDue [1]), .advance 4000000000, .scheduler (.dispatchDue []), .advance 10000000000,
  .scheduler (.dispatchDue [1]), .advance 66000000000, .scheduler (.dispatchDue [1])]

/-- Dispatched at 14 seconds it is next due at 20, and dispatched at 80 seconds at 90. -/
def pacedFirings : List Firing :=
  [⟨0, 0, 10000000000⟩, ⟨10000000000, 14000000000, 20000000000⟩, ⟨20000000000, 80000000000, 90000000000⟩]

/-- That is a run, and in no window is it dispatched more often than the law says. -/
theorem deadline_law_paced :
    ∃ s : System,
      Run (seeing (System.step EngineConfig.default) (dispatchOf EngineConfig.default 1))
          (fun s a => staysWith EngineConfig.default 1 10 s a = true) paced s pacedFirings ∧
        ∀ from' length : Nat, pacedFirings.countP (fun x => decide (from' ≤ x.now ∧ x.now ≤ from' + length)) ≤
          length / Duration.fromSecs 10 + 2 := by
  let step := seeing (System.step EngineConfig.default) (dispatchOf EngineConfig.default 1)
  let x := after step (staysWith EngineConfig.default 1 10) paced pacedDispatches
  have h : Run step (fun s a => staysWith EngineConfig.default 1 10 s a = true) paced x.1 x.2 := run_after (by decide +kernel)
  have hseen : x.2 = pacedFirings := by decide +kernel
  rw [hseen] at h
  have hstart : paced.deadline 1 = some 0 := by decide
  exact ⟨x.1, h, (deadline_law (by decide) (by decide) hstart h).2.1⟩

end Monitra
