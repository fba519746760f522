import Monitra.Engine.System
import Monitra.Lemmas.Scheduler
import Monitra.Lemmas.Steps
import Monitra.Theorems.Refinement

/-!
# Rows that do not read

An invalid interval is read as one, and the scheduler leaves that monitor alone. A kind or a status that is no value of its
enumeration is an error of the row, and one such row fails the whole list: a resync then registers nobody.
-/

namespace Monitra

open Results

/-- A row is well formed and holds the values of a monitor: it is the row that an insert of the monitor writes. -/
def MonitorRow.Holds (row : MonitorRow) (m : Monitor) : Prop :=
  validIntervalSecs m.intervalSecs = true ∧ m.id = ⟨row.id.toUInt64, row.origin⟩ ∧ row = Db.monitorRow m row.origin row.id

/-- The condition on a row: its kind is recognised, and its status is unless the interval is invalid. -/
def MonitorRow.readable (row : MonitorRow) : Bool :=
  (monitorKindFromStr row.kind).isOk && (!validIntervalSecs row.readInterval || (monitorStatusFromStr row.status).isOk)

/-- Every well formed row is listed, with its values, and every such row that is not paused is registered by a resync, whatever
was registered before. -/
def CorruptRowsIsolated (cfg : EngineConfig) (db : Db) : Prop :=
  ∀ row ∈ db.monitors.rows, ∀ m, row.Holds m →
    (∃ monitors, db.listMonitors = .ok monitors ∧ m ∈ monitors) ∧
      (m.status ≠ .paused → ∀ (s s₁ s₂ : System) (ev₁ ev₂ : List Event), s.db = db →
        s.step cfg (.scheduler (.listMonitors false)) = some (s₁, ev₁) →
        s₁.step cfg (.scheduler .listReturned) = some (s₂, ev₂) →
        ∃ state, s₂.scheduler.registry.lookup m.id.val = some state ∧ state.monitor = m)

namespace CorruptAux

/-- A row reads as a monitor exactly when it meets the condition. -/
theorem readable_iff {row : MonitorRow} : row.readable = true ↔ ∃ m, rowToMonitor row = .ok m := by
  unfold MonitorRow.readable rowToMonitor
  cases monitorKindFromStr row.kind with
  | error e => simp [Except.isOk, Except.toBool, bind, Except.bind]
  | ok kind =>
    by_cases hv : validIntervalSecs row.readInterval = true
    · cases monitorStatusFromStr row.status with
      | error e => simp [hv, Except.isOk, Except.toBool, bind, Except.bind]
      | ok status => simp [hv, Except.isOk, Except.toBool, bind, Except.bind, pure, Except.pure]
    · simp [hv, Except.isOk, Except.toBool, bind, Except.bind, pure, Except.pure]

/-- A well formed row reads as the monitor whose values it holds. -/
theorem rowToMonitor_of_holds {row : MonitorRow} {m : Monitor} (h : row.Holds m) : rowToMonitor row = .ok m := by
  obtain ⟨hv, hid, hrow⟩ := h
  have hread := RefinementAux.read_monitorRow row.origin row.id hv
  rw [← hrow, ← hid, readMonitor] at hread
  cases hm : rowToMonitor row with
  | ok m' =>
    rw [hm] at hread
    exact congrArg Except.ok (Option.some.inj hread)
  | error e =>
    rw [hm] at hread
    cases hread

/-- The list is there exactly when every row reads, and then it has what each reads as. -/
theorem listMonitors_eq_ok_iff {db : Db} :
    (∃ monitors, db.listMonitors = .ok monitors) ↔ ∀ row ∈ db.monitors.rows, row.readable = true := by
  constructor
  · rintro ⟨monitors, h⟩ row hrow
    obtain ⟨m, -, hm⟩ := exists_of_mapM h hrow
    exact readable_iff.mpr ⟨m, hm⟩
  · intro h
    exact ⟨_, mapM_eq_ok fun row hrow => readable_iff.mp (h row hrow)⟩

/-- A listed monitor that is active is the one its id registers. -/
theorem registers_of_listed {db : Db} {monitors : List Monitor} {m : Monitor} (h : db.listMonitors = .ok monitors)
    (hm : m ∈ monitors) (hactive : Scheduler.active m = true) : Scheduler.registers monitors m.id.val = some m := by
  have hsome : (Scheduler.registers monitors m.id.val).isSome :=
    Scheduler.mem_seen_iff.mp (List.mem_map.mpr ⟨m, List.mem_filter.mpr ⟨hm, hactive⟩, rfl⟩)
  obtain ⟨m', hm'⟩ := Option.isSome_iff_exists.mp hsome
  obtain ⟨hin, -, hid⟩ := Scheduler.of_registers hm'
  have heq := List.inj_on_of_nodup_map (Db.nodup_listMonitors h) hin hm (by rw [hid])
  rw [hm', heq]

end CorruptAux

/-- Every well formed row is isolated from the others exactly when there is none, or every row reads: only an invalid interval is
harmless to the others, and only together with a kind that is recognised. -/
theorem corrupt_rows_isolated_iff (cfg : EngineConfig) (db : Db) :
    CorruptRowsIsolated cfg db ↔
      (∀ row ∈ db.monitors.rows, ¬∃ m, row.Holds m) ∨ ∀ row ∈ db.monitors.rows, row.readable = true := by
  constructor
  · intro h
    by_cases hnone : ∀ row ∈ db.monitors.rows, ¬∃ m, row.Holds m
    · exact Or.inl hnone
    · simp only [not_forall, not_not] at hnone
      obtain ⟨row, hrow, m, hm⟩ := hnone
      obtain ⟨monitors, hlist, -⟩ := (h row hrow m hm).1
      exact Or.inr (CorruptAux.listMonitors_eq_ok_iff.mp ⟨monitors, hlist⟩)
  · rintro (hnone | hall) row hrow m hm
    · exact absurd ⟨m, hm⟩ (hnone row hrow)
    · obtain ⟨monitors, hlist⟩ := CorruptAux.listMonitors_eq_ok_iff.mpr hall
      obtain ⟨m', hin, hm'⟩ := exists_of_mapM hlist hrow
      obtain rfl : m = m' := Except.ok.inj ((CorruptAux.rowToMonitor_of_holds hm).symm.trans hm')
      refine ⟨⟨monitors, hlist, hin⟩, fun hpaused s s₁ s₂ ev₁ ev₂ hdb hs₁ hs₂ => ?_⟩
      have hactive : Scheduler.active m = true := by simp [Scheduler.active, hpaused, hm.1]
      cases effect_of_step hs₁ with
      | listedMonitors =>
        rw [hdb] at hs₂
        have hanswer : answer false db.listMonitors = .ok monitors := hlist
        rw [hanswer] at hs₂
        cases effect_of_step hs₂ with
        | resynced hpc =>
          cases hpc
          have hreg := CorruptAux.registers_of_listed hlist hin hactive
          simp only [Scheduler.lookup_resync, hreg, Option.map_some]
          refine ⟨_, rfl, ?_⟩
          unfold Scheduler.resyncedState
          split <;> rfl
        | notResynced hpc => cases hpc

/-- A store with two monitors, one of which has a kind that no version writes. -/
def oneCorruptKind : Db :=
  let row (id : Int64) (kind : String) : MonitorRow := ⟨id, id.toUInt64.toNat, "m", "http://m", kind, 60, "up", none⟩
  { Db.empty with monitors := Table.ofRows MonitorRow.id [row 1 "http", row 2 "grpc"] }

/-- The corrupt row hides the other. -/
theorem corrupt_kind_hides_others : ¬∀ (cfg : EngineConfig) (db : Db), CorruptRowsIsolated cfg db := by
  intro h
  let row : MonitorRow := ⟨1, 1, "m", "http://m", "http", 60, "up", none⟩
  have hholds : row.Holds ⟨⟨1, 1⟩, "m", "http://m", .http, 60, .up, none⟩ := ⟨by decide, by decide, by decide⟩
  obtain ⟨monitors, hlist, -⟩ := (h EngineConfig.default oneCorruptKind row (by decide +kernel) _ hholds).1
  have hfails : oneCorruptKind.listMonitors = .error (.corruptRow "monitors.kind holds unrecognized value \"grpc\"") := by
    decide +kernel
  cases hlist.symm.trans hfails

end Monitra
