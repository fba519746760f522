import Monitra.Library.Runs
import Monitra.Storage.Abstract
import Monitra.Lemmas.Store

/-!
# The store refines its model

`Db.model` is what the tables say, as their users think of them. `Db.Tidy` is what holds of tables that are written through the
operations only: every row reads back, and its integers are not negative. Each operation on tidy tables does what the model
says, and leaves tidy tables.
-/

namespace Monitra

open Runs Results

/-- The monitor a row reads as. -/
def readMonitor (row : MonitorRow) : Option Monitor := (rowToMonitor row).toOption

/-- The alert event a row reads as. -/
def readAlertEvent (row : AlertEventRow) : Option AlertEvent := (rowToAlertEvent row).toOption

/-- What the tables say. -/
def Db.model (db : Db) : StoreModel where
  monitors k := (db.row? k).bind readMonitor
  agents k := (db.agents.get? k.toInt64).map rowToAgent
  checkResults := (db.checkResults.rows.map rowToCheckResult : List CheckResult)
  alertEvents k := (db.alertEvents.rows.filter fun row => decide (row.monitorId = k.toInt64)).filterMap readAlertEvent

/-- A row of a monitor that the operations wrote: its id is positive, its interval valid, and it reads back. -/
structure MonitorRow.Tidy (row : MonitorRow) : Prop where
  id_pos : 0 < row.id
  interval : ∃ n, validIntervalSecs n = true ∧ row.intervalSecs = n.toInt64
  kind : ∃ kind, monitorKindFromStr row.kind = .ok kind
  status : ∃ status, monitorStatusFromStr row.status = .ok status

/-- Tables that the operations wrote. -/
structure Db.Tidy (db : Db) : Prop where
  monitors : ∀ row ∈ db.monitors.rows, row.Tidy
  agents : ∀ row ∈ db.agents.rows, 0 < row.id
  checkResults : ∀ row ∈ db.checkResults.rows, 0 ≤ row.checkedAt
  alertEvents : ∀ row ∈ db.alertEvents.rows, 0 ≤ row.occurredAt ∧ ∃ status, monitorStatusFromStr row.transitionedTo = .ok status

/-- No rowid is larger than the number of rows asked for. -/
structure Db.Within (n : Nat) (db : Db) : Prop where
  monitors : ∀ row ∈ db.monitors.rows, row.id.toInt ≤ n
  agents : ∀ row ∈ db.agents.rows, row.id.toInt ≤ n
  checkResults : ∀ row ∈ db.checkResults.rows, row.id.toInt ≤ n
  alertEvents : ∀ row ∈ db.alertEvents.rows, row.id.toInt ≤ n

/-- An operation did what the model says, and left tidy tables. -/
def Db.Refines (n : Nat) (db : Db) (op : StoreOp) : Except StorageError (Db × StoreAnswer) → Prop
  | .ok (db', answer) => db.model.Step n op (.ok answer) db'.model ∧ db'.Tidy
  | .error e => db.model.Step n op (.error e.toProviderError) db.model

namespace RefinementAux

/-! ## Rows -/

theorem small_of_valid {n : UInt64} (h : validIntervalSecs n = true) : n.toNat < 2 ^ 63 := by
  simp only [validIntervalSecs, decide_eq_true_eq] at h
  exact lt_of_le_of_lt (UInt64.le_iff_toNat_le.mp h.2) (by decide)

/-- An interval reads back as it was stored. -/
theorem readInterval_toInt64 {row : MonitorRow} {n : UInt64} (h : n.toNat < 2 ^ 63) (hrow : row.intervalSecs = n.toInt64) :
    row.readInterval = n := by
  unfold MonitorRow.readInterval
  rw [hrow, if_neg (Int64.not_lt.mpr (Word.nonneg_toInt64 h)), UInt64.toUInt64_toInt64]

/-- A row with a valid interval reads as its columns say. -/
theorem readMonitor_of (row : MonitorRow) {n : UInt64} {kind : MonitorKind} {status : MonitorStatus}
    (hk : monitorKindFromStr row.kind = .ok kind) (hv : validIntervalSecs n = true) (hn : row.intervalSecs = n.toInt64)
    (hs : monitorStatusFromStr row.status = .ok status) :
    readMonitor row = some ⟨⟨row.id.toUInt64, row.origin⟩, row.name, row.target, kind, n, status,
      row.agentId.map (·.toUInt64)⟩ := by
  have hi := readInterval_toInt64 (small_of_valid hv) hn
  unfold readMonitor rowToMonitor
  simp [hi, hk, hv, hs, bind, Except.bind, pure, Except.pure, Except.toOption]

theorem map_toUInt64_toInt64 (a : Option UInt64) : (a.map (·.toInt64)).map (·.toUInt64) = a := by
  cases a <;> rfl

/-- A tidy row is a monitor. -/
theorem rowToMonitor_tidy {row : MonitorRow} (h : row.Tidy) : ∃ m, rowToMonitor row = .ok m := by
  obtain ⟨n, hv, hn⟩ := h.interval
  obtain ⟨kind, hk⟩ := h.kind
  obtain ⟨status, hs⟩ := h.status
  have hread := readMonitor_of row hk hv hn hs
  cases hm : rowToMonitor row with
  | ok m => exact ⟨m, rfl⟩
  | error e =>
    rw [readMonitor, hm] at hread
    cases hread

/-- The row an insert writes is tidy, and reads as the monitor it was given. -/
theorem tidy_monitorRow {monitor : Monitor} (origin : Nat) {id : Int64} (hid : 0 < id)
    (hv : validIntervalSecs monitor.intervalSecs = true) : (Db.monitorRow monitor origin id).Tidy :=
  ⟨hid, ⟨_, hv, rfl⟩, ⟨_, monitorKindFromStr_toStr _⟩, ⟨_, monitorStatusFromStr_toStr _⟩⟩

theorem read_monitorRow {monitor : Monitor} (origin : Nat) (id : Int64) (hv : validIntervalSecs monitor.intervalSecs = true) :
    readMonitor (Db.monitorRow monitor origin id) = some { monitor with id := ⟨id.toUInt64, origin⟩ } := by
  rw [readMonitor_of _ (monitorKindFromStr_toStr _) hv rfl (monitorStatusFromStr_toStr _)]
  simp only [Db.monitorRow, map_toUInt64_toInt64]

/-- Setting a status keeps a row tidy, and changes the status it reads as. -/
theorem tidy_status {row : MonitorRow} (h : row.Tidy) (status : MonitorStatus) :
    MonitorRow.Tidy { row with status := monitorStatusToStr status } :=
  ⟨h.id_pos, h.interval, h.kind, ⟨_, monitorStatusFromStr_toStr _⟩⟩

theorem read_status {row : MonitorRow} (h : row.Tidy) (status : MonitorStatus) :
    readMonitor { row with status := monitorStatusToStr status } = (readMonitor row).map fun m => { m with status } := by
  obtain ⟨n, hv, hn⟩ := h.interval
  obtain ⟨kind, hk⟩ := h.kind
  obtain ⟨status', hs⟩ := h.status
  rw [readMonitor_of row hk hv hn hs]
  exact readMonitor_of { row with status := monitorStatusToStr status } hk hv hn (monitorStatusFromStr_toStr status)

/-- The interval of a tidy row is not one that an edit repairs. -/
theorem interval_tidy {row : MonitorRow} (h : row.Tidy) : ¬(row.intervalSecs < 1 ∨ row.intervalSecs > 86400) := by
  obtain ⟨n, hv, hn⟩ := h.interval
  have hsmall := small_of_valid hv
  simp only [validIntervalSecs, decide_eq_true_eq] at hv
  have hlo : (1 : UInt64).toInt64 ≤ n.toInt64 :=
    (Word.toUInt64_le_iff (by decide) (Word.nonneg_toInt64 hsmall)).mp hv.1
  have hhi : n.toInt64 ≤ (86400 : UInt64).toInt64 :=
    (Word.toUInt64_le_iff (Word.nonneg_toInt64 hsmall) (by decide)).mp hv.2
  rw [hn]
  rintro (hlt | hgt)
  · exact Int64.not_lt.mpr hlo hlt
  · exact Int64.not_lt.mpr hhi hgt

/-- An edit keeps a row tidy, and edits what it reads as. -/
theorem tidy_updatedRow {row : MonitorRow} (h : row.Tidy) {name target : Option String} {intervalSecs agentId : Option UInt64}
    (hi : ∀ v, intervalSecs = some v → validIntervalSecs v = true) :
    (Db.updatedRow name target intervalSecs agentId row).Tidy := by
  refine ⟨h.id_pos, ?_, h.kind, ?_⟩
  · cases intervalSecs with
    | none => exact h.interval
    | some v => exact ⟨v, hi v rfl, rfl⟩
  · simp only [Db.updatedRow, interval_tidy h, false_and, if_false]
    exact h.status

theorem read_updatedRow {row : MonitorRow} (h : row.Tidy) {name target : Option String} {intervalSecs agentId : Option UInt64}
    (hi : ∀ v, intervalSecs = some v → validIntervalSecs v = true) :
    readMonitor (Db.updatedRow name target intervalSecs agentId row) =
      (readMonitor row).map (StoreModel.edited name target intervalSecs agentId) := by
  obtain ⟨n, hv, hn⟩ := h.interval
  obtain ⟨kind, hk⟩ := h.kind
  obtain ⟨status, hs⟩ := h.status
  have hinterval : ∃ n', validIntervalSecs n' = true ∧
      (Db.updatedRow name target intervalSecs agentId row).intervalSecs = n'.toInt64 ∧ n' = intervalSecs.getD n := by
    cases intervalSecs with
    | none => exact ⟨n, hv, hn, rfl⟩
    | some v => exact ⟨v, hi v rfl, rfl, rfl⟩
  obtain ⟨n', hv', hn', rfl⟩ := hinterval
  have hs' : monitorStatusFromStr (Db.updatedRow name target intervalSecs agentId row).status = .ok status := by
    simp only [Db.updatedRow, interval_tidy h, false_and, if_false]
    exact hs
  rw [readMonitor_of row hk hv hn hs, readMonitor_of (Db.updatedRow name target intervalSecs agentId row) hk hv' hn' hs']
  cases agentId <;> rfl

/-! ## Tables -/

variable {n : Nat} {db : Db} {pick : List Int64 → Int64}

theorem Within.later {n' : Nat} (h : db.Within n) (hle : n ≤ n') : db.Within n' where
  monitors row hr := (h.monitors row hr).trans (Int.ofNat_le.mpr hle)
  agents row hr := (h.agents row hr).trans (Int.ofNat_le.mpr hle)
  checkResults row hr := (h.checkResults row hr).trans (Int.ofNat_le.mpr hle)
  alertEvents row hr := (h.alertEvents row hr).trans (Int.ofNat_le.mpr hle)

/-- A rowid given to a row of a table with positive rowids is positive. -/
theorem nextRowid_pos {ρ : Type} {key : ρ → Int64} {t : Table key} {id : Int64} (ht : ∀ r ∈ t.rows, 0 < key r)
    (h : t.nextRowid pick = some id) : 0 < id := by
  unfold Table.nextRowid at h
  split at h
  · cases h
    decide
  · rename_i m hm
    split at h
    · rename_i hlt
      cases h
      obtain ⟨r, hr, rfl⟩ := Option.map_eq_some_iff.mp hm
      exact (ht r (List.mem_of_getLast? hr)).trans (Table.lt_succ_of_lt_max hlt)
    · split at h
      · rename_i hp
        cases h
        exact hp.1
      · cases h

/-- An integer reads back as an id exactly when it is the one the id is stored as. -/
theorem toUInt64_eq_iff {a : Int64} {k : UInt64} : a.toUInt64 = k ↔ a = k.toInt64 := by
  constructor
  · rintro rfl
    exact (Int64.toInt64_toUInt64 a).symm
  · rintro rfl
    exact UInt64.toUInt64_toInt64 k

/-- What the model has under an id is what the row of the id reads as. -/
theorem monitors_of_row {k : UInt64} {row : MonitorRow} (h : db.row? k = some row) :
    db.model.monitors k = readMonitor row := by
  simp only [Db.model, h, Option.bind_some]

/-- A tidy row reads as a monitor with its id. -/
theorem readMonitor_tidy {row : MonitorRow} (h : row.Tidy) : ∃ m, readMonitor row = some m ∧ m.id.val = row.id.toUInt64 := by
  obtain ⟨n, hv, hn⟩ := h.interval
  obtain ⟨kind, hk⟩ := h.kind
  obtain ⟨status, hs⟩ := h.status
  exact ⟨_, readMonitor_of row hk hv hn hs, rfl⟩

/-- The model has a monitor exactly where there is a row. -/
theorem monitors_eq_none_iff (ht : db.Tidy) (k : UInt64) : db.model.monitors k = none ↔ db.row? k = none := by
  cases h : db.row? k with
  | none => simp [Db.model, h]
  | some row =>
    obtain ⟨m, hm, -⟩ := readMonitor_tidy (ht.monitors row (Table.mem_of_get? h))
    simp [monitors_of_row h, hm]

theorem agents_eq_none_iff (k : UInt64) : db.model.agents k = none ↔ db.agents.get? k.toInt64 = none := by
  simp [Db.model]

/-- The schema accepts a link exactly when the model knows the agent. -/
theorem agentRefOk_iff (agentId : Option UInt64) :
    db.agentRefOk (agentId.map (·.toInt64)) = true ↔ db.model.Known agentId := by
  cases agentId with
  | none => simp [Db.agentRefOk, StoreModel.Known]
  | some a => simp [Db.agentRefOk, StoreModel.Known, Db.model]

/-- The model of the tables when only the monitors have changed, and only under one id. -/
theorem model_monitors {t : Table MonitorRow.id} {inserted : Nat} {k₀ : UInt64} {x : Option Monitor}
    (hk₀ : (t.get? k₀.toInt64).bind readMonitor = x) (h : ∀ k, k ≠ k₀ → t.get? k.toInt64 = db.monitors.get? k.toInt64) :
    Db.model { db with monitors := t, inserted } =
      { db.model with monitors := Function.update db.model.monitors k₀ x } := by
  unfold Db.model
  congr 1
  funext k
  by_cases hk : k = k₀
  · subst hk
    rw [Function.update_self]
    exact hk₀
  · rw [Function.update_of_ne hk]
    simp only [Db.row?, h k hk]

/-- An operation refines the model when both of its ends do. -/
theorem refines_map {α : Type} {op : StoreOp} {r : Except StorageError α} {f : α → Db × StoreAnswer}
    (hok : ∀ x, r = .ok x → db.model.Step n op (.ok (f x).2) (f x).1.model ∧ (f x).1.Tidy)
    (herr : ∀ e, r = .error e → db.model.Step n op (.error e.toProviderError) db.model) : db.Refines n op (r.map f) := by
  cases r with
  | ok x => exact hok x rfl
  | error e => exact herr e rfl

/-- An operation that only reads. -/
theorem refines_read {α : Type} {op : StoreOp} {r : Except StorageError α} {f : α → StoreAnswer} (ht : db.Tidy) {x : α}
    (hr : r = .ok x) (hn : ∀ e, ¬db.model.Refuses op e) (he : db.model.Effect op (f x) db.model) :
    db.Refines n op (r.map fun x => (db, f x)) := by
  subst hr
  exact ⟨.done hn he, ht⟩

/-! ## Monitors -/

theorem refines_insertMonitor (ht : db.Tidy) (hn : db.Within n) (monitor : Monitor) :
    db.Refines n (.insertMonitor monitor) (db.perform pick (.insertMonitor monitor)) := by
  refine refines_map (fun x h => ?_) fun e h => ?_
  · obtain ⟨db', m⟩ := x
    unfold Db.insertMonitor at h
    split at h
    · cases h
    · rename_i hv
      have hv : validIntervalSecs monitor.intervalSecs = true := by simpa using hv
      split at h
      · cases h
      · rename_i t id hins
        obtain ⟨hnext, hfree, hperm, hget⟩ := Table.insertRow_eq_some hins
        have hpos := nextRowid_pos (fun r hr => (ht.monitors r hr).id_pos) hnext
        split at h
        · rename_i href
          cases h
          refine ⟨.done (fun e he => ?_) ⟨⟨id.toUInt64, db.inserted⟩, ?_, rfl, ?_⟩, ?_⟩
          · cases he with
            | insertInterval h => cases hv.symm.trans h
            | insertAgent _ h => exact h ((agentRefOk_iff _).mp href)
          · rw [monitors_eq_none_iff ht, Db.row?, Int64.toInt64_toUInt64]
            exact hfree
          · refine model_monitors ?_ fun k hk => ?_
            · rw [hget, if_pos (Int64.toInt64_toUInt64 id).symm, Option.bind_some, read_monitorRow _ _ hv]
            · rw [hget, if_neg]
              rintro rfl
              exact hk (UInt64.toUInt64_toInt64 k).symm
          · refine ⟨fun row hr => ?_, ht.agents, ht.checkResults, ht.alertEvents⟩
            rcases List.mem_cons.mp (hperm.mem_iff.mp hr) with rfl | hr
            · exact tidy_monitorRow _ hpos hv
            · exact ht.monitors row hr
        · cases h
  · unfold Db.insertMonitor at h
    split at h
    · rename_i hv
      cases h
      exact .refused (.insertInterval (by simpa using hv))
    · rename_i hv
      split at h
      · rename_i hins
        cases h
        exact .outOfRowids (Table.le_of_insertRow_none hn.monitors hins)
      · split at h
        · cases h
        · rename_i href
          cases h
          exact .refused (.insertAgent (by simpa using hv) fun hk => href ((agentRefOk_iff _).mpr hk))

theorem refines_getMonitor (ht : db.Tidy) (id : UInt64) : db.Refines n (.getMonitor id) (db.perform pick (.getMonitor id)) := by
  have hget : db.getMonitor id = .ok (db.model.monitors id) := by
    cases hrow : db.row? id with
    | none =>
      rw [(monitors_eq_none_iff ht id).mpr hrow]
      unfold Db.row? at hrow
      simp only [Db.getMonitor, hrow]
    | some row =>
      obtain ⟨m, hm⟩ := rowToMonitor_tidy (ht.monitors row (Table.mem_of_get? hrow))
      rw [monitors_of_row hrow, readMonitor, hm]
      unfold Db.row? at hrow
      simp only [Db.getMonitor, hrow, hm]
      rfl
  exact refines_read ht hget (fun e he => by cases he) ⟨rfl, rfl⟩

/-- The ids of rows in their order are in their order as the model has them. -/
theorem toUInt64_lt {a b : Int64} (ha : 0 < a) (h : a < b) : a.toUInt64 < b.toUInt64 := by
  have hle := Int64.toUInt64_le (Int64.le_of_lt ha) (Int64.le_of_lt h)
  refine UInt64.lt_of_le_of_ne hle fun he => h.ne ?_
  have he' := congrArg UInt64.toInt64 he
  rwa [Int64.toInt64_toUInt64, Int64.toInt64_toUInt64] at he'

theorem refines_listMonitors (ht : db.Tidy) : db.Refines n .listMonitors (db.perform pick .listMonitors) := by
  have hlist : db.listMonitors = .ok (db.monitors.rows.filterMap readMonitor) :=
    mapM_eq_ok fun row hr => rowToMonitor_tidy (ht.monitors row hr)
  refine refines_read ht hlist (fun e he => by cases he) ⟨_, rfl, ?_, fun m => ?_, rfl⟩
  · rw [List.pairwise_filterMap]
    refine db.monitors.sorted.imp_of_mem fun {a b} ha hb hlt m hm m' hm' => ?_
    obtain ⟨m₁, hm₁, hid⟩ := readMonitor_tidy (ht.monitors a ha)
    obtain ⟨m₂, hm₂, hid'⟩ := readMonitor_tidy (ht.monitors b hb)
    cases hm.symm.trans hm₁
    cases hm'.symm.trans hm₂
    rw [hid, hid']
    exact toUInt64_lt (ht.monitors a ha).id_pos hlt
  · rw [List.mem_filterMap]
    constructor
    · rintro ⟨row, hr, hm⟩
      refine ⟨row.id.toUInt64, ?_⟩
      rw [monitors_of_row ?_, hm]
      rw [Db.row?, Int64.toInt64_toUInt64]
      exact Table.get?_of_mem hr
    · rintro ⟨k, hm⟩
      obtain ⟨row, hrow, hm⟩ := Option.bind_eq_some_iff.mp hm
      exact ⟨row, Table.mem_of_get? hrow, hm⟩

/-- The table of monitors after an update of the row of one id by what keeps rows tidy. -/
theorem model_update (ht : db.Tidy) {id : UInt64} {f : MonitorRow → MonitorRow} (hf : ∀ r, (f r).id = r.id)
    {g : Monitor → Monitor} (htidy : ∀ row, row.Tidy → (f row).Tidy)
    (hread : ∀ row, row.Tidy → readMonitor (f row) = (readMonitor row).map g) :
    Db.model { db with monitors := db.monitors.update (fun row => decide (row.id = id.toInt64)) f hf } =
        { db.model with monitors := Function.update db.model.monitors id ((db.model.monitors id).map g) } ∧
      Db.Tidy { db with monitors := db.monitors.update (fun row => decide (row.id = id.toInt64)) f hf } := by
  constructor
  · refine model_monitors ?_ fun k hk => ?_
    · rw [Table.get?_update_key]
      cases hrow : db.row? id with
      | none =>
        rw [(monitors_eq_none_iff ht id).mpr hrow]
        unfold Db.row? at hrow
        rw [hrow]
        rfl
      | some row =>
        rw [monitors_of_row hrow]
        have hrow' := hrow
        unfold Db.row? at hrow'
        rw [hrow', Option.map_some, if_pos rfl, Option.bind_some, hread row (ht.monitors row (Table.mem_of_get? hrow))]
    · rw [Table.get?_update_key]
      simp only [Word.toInt64_inj, hk, if_false, Option.map_id']
  · refine ⟨fun row hr => ?_, ht.agents, ht.checkResults, ht.alertEvents⟩
    obtain ⟨row', hr', rfl⟩ := List.mem_map.mp hr
    split
    · exact htidy row' (ht.monitors row' hr')
    · exact ht.monitors row' hr'

theorem refines_updateMonitor (ht : db.Tidy) (id : UInt64) (name target : Option String) (intervalSecs agentId : Option UInt64) :
    db.Refines n (.updateMonitor id name target intervalSecs agentId)
      (db.perform pick (.updateMonitor id name target intervalSecs agentId)) := by
  have hvalid : ¬(intervalSecs.any fun value => !validIntervalSecs value) = true →
      ∀ v, intervalSecs = some v → validIntervalSecs v = true := by
    rintro h v rfl
    simpa using h
  refine refines_map (fun db' h => ?_) fun e h => ?_
  · unfold Db.updateMonitor at h
    split at h
    · cases h
    · rename_i hv
      split at h
      · cases h
      · rename_i row hrow
        split at h
        · rename_i href
          cases h
          obtain ⟨hmodel, htidy⟩ := model_update ht (Db.id_updatedRow name target intervalSecs agentId)
            (fun row hr => tidy_updatedRow hr (hvalid hv)) fun row hr => read_updatedRow hr (hvalid hv)
          refine ⟨.done (fun e he => ?_) ⟨rfl, hmodel⟩, htidy⟩
          cases he with
          | updateInterval hi h => cases (hvalid hv _ hi).symm.trans h
          | updateMissing _ h => cases ((monitors_eq_none_iff ht id).mp h).symm.trans hrow
          | updateAgent _ _ h => exact h ((agentRefOk_iff _).mp href)
        · cases h
  · unfold Db.updateMonitor at h
    split at h
    · rename_i hv
      cases h
      obtain ⟨v, hi, hv⟩ := (Option.any_eq_true _ _).mp hv
      exact .refused (.updateInterval hi (by simpa using hv))
    · rename_i hv
      split at h
      · rename_i hrow
        cases h
        exact .refused (.updateMissing (hvalid hv) ((monitors_eq_none_iff ht id).mpr hrow))
      · rename_i row hrow
        split at h
        · cases h
        · rename_i href
          cases h
          have hsome : db.model.monitors id ≠ none := fun hn => by
            cases ((monitors_eq_none_iff ht id).mp hn).symm.trans hrow
          obtain ⟨m, hm⟩ := Option.ne_none_iff_exists'.mp hsome
          exact .refused (.updateAgent (hvalid hv) hm fun hk => href ((agentRefOk_iff _).mpr hk))

theorem refines_setMonitorStatus (ht : db.Tidy) (id : UInt64) (status : MonitorStatus) :
    db.Refines n (.setMonitorStatus id status) (db.perform pick (.setMonitorStatus id status)) := by
  refine refines_map (fun db' h => ?_) fun e h => ?_
  · unfold Db.setMonitorStatus at h
    split at h
    · cases h
    · rename_i row hrow
      cases h
      let f (row : MonitorRow) : MonitorRow := { row with status := monitorStatusToStr status }
      obtain ⟨hmodel, htidy⟩ := model_update (f := f) ht (fun _ => rfl) (fun row hr => tidy_status hr status)
        fun row hr => read_status hr status
      refine ⟨.done (fun e he => ?_) ⟨rfl, hmodel⟩, htidy⟩
      cases he with
      | statusMissing h => cases ((monitors_eq_none_iff ht id).mp h).symm.trans hrow
  · unfold Db.setMonitorStatus at h
    split at h
    · rename_i hrow
      cases h
      exact .refused (.statusMissing ((monitors_eq_none_iff ht id).mpr hrow))
    · cases h

theorem refines_deleteMonitor (ht : db.Tidy) (id : UInt64) :
    db.Refines n (.deleteMonitor id) (db.perform pick (.deleteMonitor id)) := by
  refine refines_map (fun db' h => ?_) fun e h => ?_
  · unfold Db.deleteMonitor at h
    split at h
    · cases h
    · rename_i row hrow
      cases h
      refine ⟨.done (fun e he => ?_) ⟨rfl, ?_⟩, ?_⟩
      · cases he with
        | deleteMissing h => cases ((monitors_eq_none_iff ht id).mp h).symm.trans hrow
      · unfold Db.model
        congr 1
        · funext k
          simp only [Db.row?, Table.get?_delete_key, Word.toInt64_inj, Function.update_apply]
          split <;> rfl
        · rw [Multiset.filter_coe, List.filter_map]
          congr 2
          refine List.filter_congr fun row _ => ?_
          simp [rowToCheckResult, toUInt64_eq_iff]
        · funext k
          simp only [Table.delete, Function.update_apply, List.filter_filter]
          split
          · rename_i hk
            subst hk
            rw [List.filter_eq_nil_iff.mpr fun row _ => by simp]
            rfl
          · rename_i hk
            congr 1
            refine List.filter_congr fun row _ => ?_
            by_cases hrow : row.monitorId = k.toInt64
            · simp [hrow, Word.toInt64_inj, hk]
            · simp [hrow]
      · exact ⟨fun row hr => ht.monitors row (Table.mem_rows_delete.mp hr).1, ht.agents,
          fun row hr => ht.checkResults row (Table.mem_rows_delete.mp hr).1,
          fun row hr => ht.alertEvents row (Table.mem_rows_delete.mp hr).1⟩
  · unfold Db.deleteMonitor at h
    split at h
    · rename_i hrow
      cases h
      exact .refused (.deleteMissing ((monitors_eq_none_iff ht id).mpr hrow))
    · cases h

/-! ## Check results -/

/-- A check result reads back as it was stored. -/
@[simp] theorem rowToCheckResult_row (r : CheckResult) (id : Int64) : rowToCheckResult (Db.checkResultRow r id) = r := rfl

/-- A batch that is inserted joins the check results, and leaves the other tables alone. -/
theorem model_insertCheckResults : ∀ {results : List CheckResult} {db db' : Db}, db.insertCheckResults pick results = .ok db' →
    db'.model = { db.model with checkResults := (results : Multiset CheckResult) + db.model.checkResults } ∧
      db'.alertEvents = db.alertEvents
  | [], db, db', h => by
    cases h
    exact ⟨by simp [Db.model], rfl⟩
  | result :: results, db, db', h => by
    unfold Db.insertCheckResults at h
    split at h
    · cases h
    · rename_i db₁ h₁
      obtain ⟨hmodel, hevents⟩ := model_insertCheckResults h
      obtain ⟨hm, ha, -, -, id, -, hperm⟩ := Db.insertCheckResult_eq_ok h₁
      have hevents₁ : db₁.alertEvents = db.alertEvents := by
        unfold Db.insertCheckResult at h₁
        split at h₁
        · cases h₁
        · split at h₁
          · cases h₁
            rfl
          · cases h₁
      have hmodel₁ : db₁.model = { db.model with checkResults := result ::ₘ db.model.checkResults } := by
        unfold Db.model Db.row?
        rw [hm, ha, hevents₁]
        congr 1
        rw [Multiset.cons_coe, Multiset.coe_eq_coe]
        exact hperm.map rowToCheckResult
      refine ⟨?_, hevents.trans hevents₁⟩
      rw [hmodel, hmodel₁, ← Multiset.cons_coe, Multiset.cons_add, Multiset.add_cons]

/-- The rowids after a batch. -/
theorem within_insertCheckResults : ∀ {results : List CheckResult} {db db' : Db} {n : Nat}, db.Within n →
    db.insertCheckResults pick results = .ok db' → db'.Within (n + results.length)
  | [], _, _, _, hn, h => by
    cases h
    exact hn
  | result :: results, db, db', n, hn, h => by
    unfold Db.insertCheckResults at h
    split at h
    · cases h
    · rename_i db₁ h₁
      have hn₁ : db₁.Within (n + 1) := by
        unfold Db.insertCheckResult at h₁
        split at h₁
        · cases h₁
        · rename_i t id hins
          split at h₁
          · cases h₁
            have hlater := Within.later hn (Nat.le_succ n)
            exact ⟨hlater.monitors, hlater.agents, Table.insertRow_le hn.checkResults hins, hlater.alertEvents⟩
          · cases h₁
      have hn' := within_insertCheckResults hn₁ h
      rwa [Nat.add_assoc, Nat.add_comm 1] at hn'

theorem refines_insertCheckResults (ht : db.Tidy) (hn : db.Within n) (results : List CheckResult)
    (hsmall : (StoreOp.insertCheckResults results).small = true) :
    db.Refines n (.insertCheckResults results) (db.perform pick (.insertCheckResults results)) := by
  refine refines_map (fun db' h => ?_) fun e h => ?_
  · obtain ⟨hm, ha, -, hknown, -, hrows⟩ := Db.insertCheckResults_eq_ok h
    obtain ⟨hmodel, hevents⟩ := model_insertCheckResults h
    refine ⟨.done (fun e he => ?_) ⟨rfl, hmodel⟩, ?_⟩
    · cases he with
      | resultsMonitor hr hnone =>
        have hsome := hknown _ hr
        rw [(monitors_eq_none_iff ht _).mp hnone] at hsome
        cases hsome
    · refine ⟨hm ▸ ht.monitors, ha ▸ ht.agents, fun row hrow => ?_, hevents ▸ ht.alertEvents⟩
      rcases hrows row hrow with hrow | ⟨r, hr, id, rfl⟩
      · exact ht.checkResults row hrow
      · have hall := List.all_eq_true.mp hsmall r.checkedAt (List.mem_flatMap.mpr ⟨r, hr, by simp⟩)
        exact Word.nonneg_toInt64 (by simpa using hall)
  · rcases Db.insertCheckResults_eq_error h with rfl | ⟨rfl, r, hr, hnone⟩
    · exact .outOfRowids (Db.le_of_insertCheckResults_full hn.checkResults h)
    · exact .refused (.resultsMonitor hr ((monitors_eq_none_iff ht _).mpr hnone))

/-- Rows sorted by a column that is not negative are sorted as they read. -/
theorem pairwise_sorted {ρ : Type} (rows : List ρ) (column : ρ → Int64) (h : ∀ r ∈ rows, 0 ≤ column r) :
    (rows.insertionSort fun a b => column a ≤ column b).Pairwise fun a b => (column a).toUInt64 ≤ (column b).toUInt64 := by
  have : Std.Total fun a b : ρ => column a ≤ column b := ⟨fun a b => Int64.le_total _ _⟩
  have : IsTrans ρ fun a b => column a ≤ column b := ⟨fun _ _ _ => Int64.le_trans⟩
  refine (List.pairwise_insertionSort (fun a b => column a ≤ column b) rows).imp_of_mem fun {a b} ha hb hle => ?_
  rw [List.mem_insertionSort] at ha hb
  exact (Word.toUInt64_le_iff (h a ha) (h b hb)).mpr hle

/-- The same with the largest first. -/
theorem pairwise_sorted_desc {ρ : Type} (rows : List ρ) (column : ρ → Int64) (h : ∀ r ∈ rows, 0 ≤ column r) :
    (rows.insertionSort fun a b => column b ≤ column a).Pairwise fun a b => (column b).toUInt64 ≤ (column a).toUInt64 := by
  have : Std.Total fun a b : ρ => column b ≤ column a := ⟨fun a b => Int64.le_total _ _⟩
  have : IsTrans ρ fun a b => column b ≤ column a := ⟨fun _ _ _ hab hbc => Int64.le_trans hbc hab⟩
  refine (List.pairwise_insertionSort (fun a b => column b ≤ column a) rows).imp_of_mem fun {a b} ha hb hle => ?_
  rw [List.mem_insertionSort] at ha hb
  exact (Word.toUInt64_le_iff (h b hb) (h a ha)).mpr hle

theorem refines_listCheckResults (ht : db.Tidy) (monitorId : UInt64) (since : Option UInt64)
    (hsmall : (StoreOp.listCheckResults monitorId since).small = true) :
    db.Refines n (.listCheckResults monitorId since) (db.perform pick (.listCheckResults monitorId since)) := by
  have hsince : 0 ≤ (since.getD 0).toInt64 := by
    refine Word.nonneg_toInt64 ?_
    cases since with
    | none => decide
    | some t =>
      have hall := List.all_eq_true.mp hsmall t (by simp [StoreOp.integers])
      simpa using hall
  refine refines_read ht rfl (fun e he => by cases he) ⟨_, rfl, ?_, ?_, rfl⟩
  · rw [List.pairwise_map]
    exact pairwise_sorted _ _ fun row hr => ht.checkResults row (List.mem_filter.mp hr).1
  · unfold Db.model
    rw [Multiset.filter_coe, List.filter_map, Multiset.coe_eq_coe]
    refine ((List.perm_insertionSort _ _).map rowToCheckResult).trans (List.Perm.of_eq ?_)
    congr 1
    refine List.filter_congr fun row hr => ?_
    have htime : (since.getD 0).toInt64 ≤ row.checkedAt ↔ since.all (· ≤ row.checkedAt.toUInt64) = true := by
      rw [← Word.toUInt64_le_iff hsince (ht.checkResults row hr), UInt64.toUInt64_toInt64]
      cases since <;> simp
    simp only [Function.comp_apply, rowToCheckResult, toUInt64_eq_iff]
    exact decide_eq_decide.mpr (and_congr_right fun _ => htime)

/-! ## Agents -/

/-- The model of the tables when only the agents have changed, and only under one id. -/
theorem model_agents {t : Table AgentRow.id} {k₀ : UInt64} {x : Option Agent}
    (hk₀ : (t.get? k₀.toInt64).map rowToAgent = x) (h : ∀ k, k ≠ k₀ → t.get? k.toInt64 = db.agents.get? k.toInt64) :
    Db.model { db with agents := t } = { db.model with agents := Function.update db.model.agents k₀ x } := by
  unfold Db.model
  congr 1
  funext k
  by_cases hk : k = k₀
  · subst hk
    rw [Function.update_self]
    exact hk₀
  · simp only [Function.update_of_ne hk, h k hk]

theorem refines_upsertAgent (ht : db.Tidy) (hn : db.Within n) (agent : Agent) :
    db.Refines n (.upsertAgent agent) (db.perform pick (.upsertAgent agent)) := by
  refine refines_map (fun x h => ?_) fun e h => ?_
  · obtain ⟨db', a⟩ := x
    unfold Db.upsertAgent at h
    split at h
    · rename_i existing hfind
      cases h
      have hmem := List.mem_of_find?_eq_some hfind
      have hname : existing.name = agent.name := by simpa using List.find?_some hfind
      have hget := Table.get?_of_mem hmem
      let f (row : AgentRow) : AgentRow := { Db.agentRow agent row.id with name := row.name }
      have hf : ∀ row, (f row).id = row.id := fun _ => rfl
      let t := db.agents.update (fun row => decide (row.id = existing.id)) f hf
      have ht' : ∀ k, t.get? k = (db.agents.get? k).map fun row => if k = existing.id then f row else row :=
        Table.get?_update_key
      refine ⟨.done (fun e he => by cases he) ⟨existing.id.toUInt64, Or.inl ⟨rowToAgent existing, ?_, hname⟩, rfl, ?_⟩, ?_⟩
      · simp [Db.model, hget]
      · refine model_agents (t := t) ?_ fun k hk => ?_
        · rw [Int64.toInt64_toUInt64, ht', hget, Option.map_some, if_pos rfl, Option.map_some]
          simp [f, rowToAgent, Db.agentRow, hname]
        · have hne : k.toInt64 ≠ existing.id := fun h => hk (toUInt64_eq_iff.mpr h.symm).symm
          rw [ht']
          simp only [hne, if_false, Option.map_id']
      · refine ⟨ht.monitors, fun row hr => ?_, ht.checkResults, ht.alertEvents⟩
        obtain ⟨row', hr', rfl⟩ := List.mem_map.mp hr
        split
        · exact ht.agents row' hr'
        · exact ht.agents row' hr'
    · rename_i hfind
      split at h
      · cases h
      · rename_i t id hins
        cases h
        obtain ⟨hnext, hfree, hperm, hget⟩ := Table.insertRow_eq_some hins
        have hnew : ∀ k a, db.model.agents k = some a → a.name ≠ agent.name := by
          intro k a ha
          obtain ⟨row, hrow, rfl⟩ := Option.map_eq_some_iff.mp ha
          have hne := List.find?_eq_none.mp hfind row (Table.mem_of_get? hrow)
          simpa [rowToAgent] using hne
        refine ⟨.done (fun e he => by cases he) ⟨id.toUInt64, Or.inr ⟨?_, hnew⟩, rfl, ?_⟩, ?_⟩
        · rw [agents_eq_none_iff, Int64.toInt64_toUInt64]
          exact hfree
        · refine model_agents ?_ fun k hk => ?_
          · rw [hget, if_pos (Int64.toInt64_toUInt64 id).symm]
            rfl
          · rw [hget, if_neg]
            rintro rfl
            exact hk (UInt64.toUInt64_toInt64 k).symm
        · refine ⟨ht.monitors, fun row hr => ?_, ht.checkResults, ht.alertEvents⟩
          rcases List.mem_cons.mp (hperm.mem_iff.mp hr) with rfl | hr
          · exact nextRowid_pos ht.agents hnext
          · exact ht.agents row hr
  · unfold Db.upsertAgent at h
    split at h
    · cases h
    · split at h
      · rename_i hins
        cases h
        exact .outOfRowids (Table.le_of_insertRow_none hn.agents hins)
      · cases h

theorem refines_heartbeatAgent (ht : db.Tidy) (id atUnixSecs : UInt64) :
    db.Refines n (.heartbeatAgent id atUnixSecs) (db.perform pick (.heartbeatAgent id atUnixSecs)) := by
  refine refines_map (fun db' h => ?_) fun e h => ?_
  · unfold Db.heartbeatAgent at h
    split at h
    · cases h
    · rename_i row hrow
      cases h
      refine ⟨.done (fun e he => ?_) ⟨rfl, ?_⟩, ?_⟩
      · cases he with
        | heartbeatMissing h => cases ((agents_eq_none_iff id).mp h).symm.trans hrow
      · refine model_agents ?_ fun k hk => ?_
        · rw [Table.get?_update_key]
          simp [Db.model, hrow, rowToAgent]
        · rw [Table.get?_update_key]
          simp only [Word.toInt64_inj, hk, if_false, Option.map_id']
      · refine ⟨ht.monitors, fun row hr => ?_, ht.checkResults, ht.alertEvents⟩
        obtain ⟨row', hr', rfl⟩ := List.mem_map.mp hr
        split
        · exact ht.agents row' hr'
        · exact ht.agents row' hr'
  · unfold Db.heartbeatAgent at h
    split at h
    · rename_i hrow
      cases h
      exact .refused (.heartbeatMissing ((agents_eq_none_iff id).mpr hrow))
    · cases h

theorem refines_listAgents (ht : db.Tidy) : db.Refines n .listAgents (db.perform pick .listAgents) := by
  refine refines_read ht rfl (fun e he => by cases he) ⟨_, rfl, ?_, fun a => ?_, rfl⟩
  · rw [List.pairwise_map]
    exact db.agents.sorted.imp_of_mem fun {a b} ha hb hlt => toUInt64_lt (ht.agents a ha) hlt
  · rw [List.mem_map]
    constructor
    · rintro ⟨row, hr, rfl⟩
      refine ⟨row.id.toUInt64, ?_⟩
      simp only [Db.model, Int64.toInt64_toUInt64, Table.get?_of_mem hr, Option.map_some]
    · rintro ⟨k, ha⟩
      obtain ⟨row, hrow, ha⟩ := Option.map_eq_some_iff.mp ha
      exact ⟨row, Table.mem_of_get? hrow, ha⟩

/-- The schema finds a row that refers to an agent exactly when the model has a monitor that links to it. -/
theorem linked_iff (ht : db.Tidy) (id : UInt64) :
    (db.monitors.rows.any fun row => decide (row.agentId = some id.toInt64)) = true ↔ db.model.Linked id := by
  have hlink : ∀ row ∈ db.monitors.rows, ∀ m, readMonitor row = some m →
      (row.agentId = some id.toInt64 ↔ m.agentId = some id) := by
    intro row hr m hm
    obtain ⟨n, hv, hn⟩ := (ht.monitors row hr).interval
    obtain ⟨kind, hk⟩ := (ht.monitors row hr).kind
    obtain ⟨status, hs⟩ := (ht.monitors row hr).status
    cases hm.symm.trans (readMonitor_of row hk hv hn hs)
    cases row.agentId with
    | none => simp
    | some a => simp [toUInt64_eq_iff]
  rw [List.any_eq_true]
  constructor
  · rintro ⟨row, hr, hrow⟩
    obtain ⟨m, hm, -⟩ := readMonitor_tidy (ht.monitors row hr)
    refine ⟨row.id.toUInt64, m, ?_, (hlink row hr m hm).mp (by simpa using hrow)⟩
    rw [monitors_of_row ?_, hm]
    rw [Db.row?, Int64.toInt64_toUInt64]
    exact Table.get?_of_mem hr
  · rintro ⟨k, m, hm, hlinked⟩
    obtain ⟨row, hrow, hm⟩ := Option.bind_eq_some_iff.mp hm
    have hr := Table.mem_of_get? hrow
    exact ⟨row, hr, by simpa using (hlink row hr m hm).mpr hlinked⟩

theorem refines_deleteAgent (ht : db.Tidy) (id : UInt64) :
    db.Refines n (.deleteAgent id) (db.perform pick (.deleteAgent id)) := by
  refine refines_map (fun db' h => ?_) fun e h => ?_
  · unfold Db.deleteAgent at h
    split at h
    · cases h
    · rename_i row hrow
      split at h
      · cases h
      · rename_i hlinked
        cases h
        refine ⟨.done (fun e he => ?_) ⟨rfl, model_agents ?_ fun k hk => ?_⟩, ?_⟩
        · cases he with
          | deleteAgentMissing h => cases ((agents_eq_none_iff id).mp h).symm.trans hrow
          | deleteAgentLinked _ h => exact hlinked ((linked_iff ht id).mpr h)
        · rw [Table.get?_delete_key, if_pos rfl, Option.map_none]
        · rw [Table.get?_delete_key, if_neg fun h => hk (Word.toInt64_inj.mp h)]
        · exact ⟨ht.monitors, fun row hr => ht.agents row (Table.mem_rows_delete.mp hr).1, ht.checkResults, ht.alertEvents⟩
  · unfold Db.deleteAgent at h
    split at h
    · rename_i hrow
      cases h
      exact .refused (.deleteAgentMissing ((agents_eq_none_iff id).mpr hrow))
    · rename_i row hrow
      split at h
      · rename_i hlinked
        cases h
        refine .refused (.deleteAgentLinked (a := rowToAgent row) ?_ ((linked_iff ht id).mp hlinked))
        simp only [Db.model, hrow, Option.map_some]
      · cases h

/-! ## Alert events -/

/-- A row with a status reads as its columns say. -/
theorem readAlertEvent_of (row : AlertEventRow) {status : MonitorStatus}
    (hs : monitorStatusFromStr row.transitionedTo = .ok status) :
    readAlertEvent row = some ⟨row.id.toUInt64, row.monitorId.toUInt64, status, row.occurredAt.toUInt64, row.sinksAttempted,
      row.deliveryOutcome⟩ := by
  unfold readAlertEvent rowToAlertEvent
  simp [hs, bind, Except.bind, pure, Except.pure, Except.toOption]

/-- An alert event reads back as it was stored, with the id of its row. -/
theorem read_alertEventRow (event : AlertEvent) (id : Int64) :
    readAlertEvent (Db.alertEventRow event id) = some { event with id := id.toUInt64 } :=
  readAlertEvent_of _ (monitorStatusFromStr_toStr _)

/-- The events of a monitor in a table of them. -/
def eventsOf (t : Table AlertEventRow.id) (k : UInt64) : List AlertEvent :=
  (t.rows.filter fun row => decide (row.monitorId = k.toInt64)).filterMap readAlertEvent

theorem refines_insertAlertEvent (ht : db.Tidy) (hn : db.Within n) (event : AlertEvent)
    (hsmall : (StoreOp.insertAlertEvent event).small = true) :
    db.Refines n (.insertAlertEvent event) (db.perform pick (.insertAlertEvent event)) := by
  refine refines_map (fun x h => ?_) fun e h => ?_
  · obtain ⟨db', e⟩ := x
    unfold Db.insertAlertEvent at h
    split at h
    · cases h
    · rename_i t id hins
      split at h
      · rename_i hknown
        cases h
        obtain ⟨-, hfree, hperm, -⟩ := Table.insertRow_eq_some hins
        refine ⟨.done (fun e he => ?_) ⟨id.toUInt64, fun k e he => ?_, rfl, eventsOf t event.monitorId, ?_, ?_⟩, ?_⟩
        · cases he with
          | eventMonitor hnone =>
            have hrow : db.monitors.get? event.monitorId.toInt64 = none := (monitors_eq_none_iff ht _).mp hnone
            rw [hrow] at hknown
            cases hknown
        · obtain ⟨row, hr, he⟩ := List.mem_filterMap.mp he
          have hr := (List.mem_filter.mp hr).1
          obtain ⟨-, status, hs⟩ := ht.alertEvents row hr
          cases he.symm.trans (readAlertEvent_of row hs)
          intro hid
          refine Table.get?_eq_none_iff.mp hfree row hr ?_
          have hid' := congrArg UInt64.toInt64 hid
          rwa [Int64.toInt64_toUInt64, Int64.toInt64_toUInt64] at hid'
        · -- the new row joins those of its monitor
          refine ((hperm.filter _).filterMap readAlertEvent).trans (List.Perm.of_eq ?_)
          rw [List.filter_cons_of_pos (by simp [Db.alertEventRow]), List.filterMap_cons, read_alertEventRow]
          rfl
        · unfold Db.model
          congr 1
          funext k
          by_cases hk : k = event.monitorId
          · subst hk
            rw [Function.update_self]
            rfl
          · rw [Function.update_of_ne hk]
            have hother : decide ((Db.alertEventRow event id).monitorId = k.toInt64) = false := by
              simpa [Db.alertEventRow, Word.toInt64_inj] using Ne.symm hk
            exact congrArg (List.filterMap readAlertEvent) (Table.filter_insertRow hins hother)
        · refine ⟨ht.monitors, ht.agents, ht.checkResults, fun row hr => ?_⟩
          rcases List.mem_cons.mp (hperm.mem_iff.mp hr) with rfl | hr
          · have hall := List.all_eq_true.mp hsmall event.occurredAt (by simp [StoreOp.integers])
            exact ⟨Word.nonneg_toInt64 (by simpa using hall), _, monitorStatusFromStr_toStr _⟩
          · exact ht.alertEvents row hr
      · cases h
  · unfold Db.insertAlertEvent at h
    split at h
    · rename_i hins
      cases h
      exact .outOfRowids (Table.le_of_insertRow_none hn.alertEvents hins)
    · split at h
      · cases h
      · rename_i hknown
        cases h
        refine .refused (.eventMonitor ((monitors_eq_none_iff ht _).mpr ?_))
        simpa [Db.row?] using hknown

/-- Tidy rows of alert events read back. -/
theorem mapM_rowToAlertEvent (ht : db.Tidy) {rows : List AlertEventRow} (h : ∀ row ∈ rows, row ∈ db.alertEvents.rows) :
    rows.mapM rowToAlertEvent = .ok (rows.filterMap readAlertEvent) := by
  refine mapM_eq_ok fun row hr => ?_
  obtain ⟨-, status, hs⟩ := ht.alertEvents row (h row hr)
  have hread := readAlertEvent_of row hs
  cases he : rowToAlertEvent row with
  | ok e => exact ⟨e, rfl⟩
  | error e =>
    rw [readAlertEvent, he] at hread
    cases hread

/-- What a tidy row of an alert event reads as has the row's monitor and time. -/
theorem columns_readAlertEvent (ht : db.Tidy) {row : AlertEventRow} (hr : row ∈ db.alertEvents.rows) {e : AlertEvent}
    (he : readAlertEvent row = some e) : e.monitorId = row.monitorId.toUInt64 ∧ e.occurredAt = row.occurredAt.toUInt64 := by
  obtain ⟨-, status, hs⟩ := ht.alertEvents row hr
  cases he.symm.trans (readAlertEvent_of row hs)
  exact ⟨rfl, rfl⟩

theorem refines_listAlertEvents (ht : db.Tidy) (monitorId : UInt64) :
    db.Refines n (.listAlertEvents monitorId) (db.perform pick (.listAlertEvents monitorId)) := by
  let rows := db.alertEvents.rows.filter fun row => decide (row.monitorId = monitorId.toInt64)
  have hrows : ∀ row ∈ rows, row ∈ db.alertEvents.rows := fun row hr => (List.mem_filter.mp hr).1
  have hmem : ∀ row ∈ rows.insertionSort (fun a b => a.occurredAt ≤ b.occurredAt), row ∈ db.alertEvents.rows :=
    fun row hr => hrows row ((List.mem_insertionSort _).mp hr)
  refine refines_read ht (mapM_rowToAlertEvent ht hmem) (fun e he => by cases he) ⟨_, rfl, ?_, ?_, rfl⟩
  · rw [List.pairwise_filterMap]
    have hsorted := pairwise_sorted rows AlertEventRow.occurredAt fun row hr => (ht.alertEvents row (hrows row hr)).1
    refine hsorted.imp_of_mem fun {a b} ha hb hle e he e' he' => ?_
    rw [(columns_readAlertEvent ht (hmem a ha) he).2, (columns_readAlertEvent ht (hmem b hb) he').2]
    exact hle
  · exact (List.perm_insertionSort _ _).filterMap readAlertEvent

/-- The events of a monitor among all that rows read as are those that the rows of the monitor read as. -/
theorem filter_readAlertEvent (ht : db.Tidy) (k : UInt64) : ∀ {rows : List AlertEventRow},
    (∀ row ∈ rows, row ∈ db.alertEvents.rows) →
      (rows.filterMap readAlertEvent).filter (fun e => decide (e.monitorId = k)) =
        (rows.filter fun row => decide (row.monitorId = k.toInt64)).filterMap readAlertEvent
  | [], _ => rfl
  | row :: rows, h => by
    have ih := filter_readAlertEvent ht k fun r hr => h r (List.mem_cons_of_mem row hr)
    obtain ⟨-, status, hs⟩ := ht.alertEvents row (h row List.mem_cons_self)
    have hread := readAlertEvent_of row hs
    rw [List.filterMap_cons, hread, List.filter_cons, List.filter_cons, ih]
    simp only [toUInt64_eq_iff]
    split
    · rw [List.filterMap_cons, hread]
    · rfl

theorem refines_listAllAlertEvents (ht : db.Tidy) :
    db.Refines n .listAllAlertEvents (db.perform pick .listAllAlertEvents) := by
  have hmem : ∀ row ∈ db.alertEvents.rows.insertionSort (fun a b => b.occurredAt ≤ a.occurredAt),
      row ∈ db.alertEvents.rows := fun row hr => (List.mem_insertionSort _).mp hr
  refine refines_read ht (mapM_rowToAlertEvent ht hmem) (fun e he => by cases he) ⟨_, rfl, ?_, fun k => ?_, rfl⟩
  · rw [List.pairwise_filterMap]
    have hsorted := pairwise_sorted_desc db.alertEvents.rows AlertEventRow.occurredAt fun row hr => (ht.alertEvents row hr).1
    refine hsorted.imp_of_mem fun {a b} ha hb hle e he e' he' => ?_
    rw [(columns_readAlertEvent ht (hmem a ha) he).2, (columns_readAlertEvent ht (hmem b hb) he').2]
    exact hle
  · have hperm := (List.perm_insertionSort (fun a b : AlertEventRow => b.occurredAt ≤ a.occurredAt)
      db.alertEvents.rows).filterMap readAlertEvent
    refine (hperm.filter _).trans (List.Perm.of_eq ?_)
    exact filter_readAlertEvent ht k fun _ hr => hr

/-! ## Runs -/

/-- No operation gives out a rowid larger than the number of rows asked for. -/
theorem within_perform (hn : db.Within n) {op : StoreOp} {db' : Db} {answer : StoreAnswer}
    (h : db.perform pick op = .ok (db', answer)) : db'.Within (n + op.rowsAsked) := by
  have hsame : db.Within (n + op.rowsAsked) := Within.later hn (Nat.le_add_right n _)
  cases Db.writes_of_perform h with
  | insertedMonitor hv hins =>
    exact ⟨Table.insertRow_le hn.monitors hins, hsame.agents, hsame.checkResults, hsame.alertEvents⟩
  | updatedMonitor | setMonitorStatus =>
    exact { hsame with monitors := fun _ hrow => Table.update_le hsame.monitors (fun _ => by rfl) hrow }
  | deletedMonitor =>
    exact ⟨fun row hrow => hsame.monitors row (Table.mem_rows_delete.mp hrow).1, hsame.agents,
      fun row hrow => hsame.checkResults row (Table.mem_rows_delete.mp hrow).1,
      fun row hrow => hsame.alertEvents row (Table.mem_rows_delete.mp hrow).1⟩
  | insertedCheckResults hr => exact within_insertCheckResults hn hr
  | insertedAgent hname hins => exact { hsame with agents := Table.insertRow_le hn.agents hins }
  | overwroteAgent | heardAgent =>
    exact { hsame with agents := fun _ hrow => Table.update_le hsame.agents (fun _ => by rfl) hrow }
  | deletedAgent => exact { hsame with agents := fun row hrow => hsame.agents row (Table.mem_rows_delete.mp hrow).1 }
  | insertedAlertEvent hins => exact { hsame with alertEvents := Table.insertRow_le hn.alertEvents hins }
  | read => exact hsame

/-- Each operation on tidy tables does what the model says, and leaves tidy tables. -/
theorem refines_perform (ht : db.Tidy) (hn : db.Within n) {op : StoreOp} (hsmall : op.small = true) :
    db.Refines n op (db.perform pick op) := by
  cases op with
  | insertMonitor monitor => exact refines_insertMonitor ht hn monitor
  | getMonitor id => exact refines_getMonitor ht id
  | listMonitors => exact refines_listMonitors ht
  | updateMonitor id name target intervalSecs agentId => exact refines_updateMonitor ht id name target intervalSecs agentId
  | setMonitorStatus id status => exact refines_setMonitorStatus ht id status
  | deleteMonitor id => exact refines_deleteMonitor ht id
  | insertCheckResults results => exact refines_insertCheckResults ht hn results hsmall
  | listCheckResults monitorId since => exact refines_listCheckResults ht monitorId since hsmall
  | upsertAgent agent => exact refines_upsertAgent ht hn agent
  | heartbeatAgent id atUnixSecs => exact refines_heartbeatAgent ht id atUnixSecs
  | getAgent id => exact refines_read ht rfl (fun e he => by cases he) ⟨rfl, rfl⟩
  | listAgents => exact refines_listAgents ht
  | deleteAgent id => exact refines_deleteAgent ht id
  | insertAlertEvent event => exact refines_insertAlertEvent ht hn event hsmall
  | listAlertEvents monitorId => exact refines_listAlertEvents ht monitorId
  | listAllAlertEvents => exact refines_listAllAlertEvents ht

/-- The rows asked for after one more operation. -/
theorem asked_snoc (log : List (StoreOp × Except ProviderError StoreAnswer)) (op : StoreOp)
    (result : Except ProviderError StoreAnswer) :
    StoreModel.asked (log ++ [(op, result)]) = StoreModel.asked log + op.rowsAsked := by
  simp [StoreModel.asked]

/-- What holds after operations: the tables are tidy, no rowid is larger than the number of rows asked for, and the model has
come the same way. -/
structure Refined (db : Db) (log : List (StoreOp × Except ProviderError StoreAnswer)) : Prop where
  tidy : db.Tidy
  within : db.Within (StoreModel.asked log)
  trace : StoreModel.Trace log db.model

theorem refined_empty : Refined Db.empty [] where
  tidy := ⟨List.forall_mem_nil _, List.forall_mem_nil _, List.forall_mem_nil _, List.forall_mem_nil _⟩
  within := ⟨List.forall_mem_nil _, List.forall_mem_nil _, List.forall_mem_nil _, List.forall_mem_nil _⟩
  trace := .nil

theorem refined_step {db' : Db} {log ev : List (StoreOp × Except ProviderError StoreAnswer)}
    {a : StoreOp × (List Int64 → Int64)} (hI : Refined db log) (hsmall : a.1.small = true)
    (hs : db.step a = some (db', ev)) : Refined db' (log ++ ev) := by
  obtain ⟨op, pick⟩ := a
  have hop : db.Refines (StoreModel.asked log) op (db.perform pick op) := refines_perform hI.tidy hI.within hsmall
  unfold Db.step at hs
  split at hs
  · rename_i db₁ answer h
    cases hs
    rw [h] at hop
    refine ⟨hop.2, ?_, .snoc hI.trace hop.1⟩
    rw [asked_snoc]
    exact within_perform hI.within h
  · rename_i e h
    cases hs
    rw [h] at hop
    refine ⟨hI.tidy, ?_, .snoc hI.trace hop⟩
    rw [asked_snoc]
    exact Within.later hI.within (Nat.le_add_right _ _)

end RefinementAux

namespace Refinement

/-- Operations on an empty store, one after the other, whatever the random searches for rowids yield: what each of them returned,
and what the store then holds, are what the model says. -/
theorem store_refines_model {db : Db} {log : List (StoreOp × Except ProviderError StoreAnswer)}
    (h : Run Db.step (fun _ a => a.1.small = true) Db.empty db log) : StoreModel.Trace log db.model :=
  (h.invariant (I := RefinementAux.Refined) RefinementAux.refined_empty
    fun _ _ _ _ _ hI hsmall hs => RefinementAux.refined_step hI hsmall hs).trace

/-- An agent with a monitor that has a result: the agent cannot be deleted, and with the monitor its result goes. -/
def usage : List (StoreOp × (List Int64 → Int64)) :=
  [.upsertAgent ⟨0, "edge", 5, "", "t", none⟩, .insertMonitor ⟨⟨0, 0⟩, "web", "example.com", .http, 60, .up, some 1⟩,
    .insertCheckResults [⟨⟨1, 0⟩, 7, true, 3, none⟩], .deleteAgent 1, .listCheckResults 1 (some 7), .deleteMonitor 1,
    .listCheckResults 1 none].map fun op => (op, fun _ => 0)

theorem usage_refines : ∃ (db : Db) (log : List (StoreOp × Except ProviderError StoreAnswer)),
    StoreModel.Trace log db.model ∧ log.map (·.1) = usage.map (·.1) ∧
      log.map (·.2.toOption) = [some (.agent ⟨1, "edge", 5, "", "t", none⟩),
        some (.monitor ⟨⟨1, 0⟩, "web", "example.com", .http, 60, .up, some 1⟩), some .unit, none,
        some (.checkResults [⟨⟨1, 0⟩, 7, true, 3, none⟩]), some .unit, some (.checkResults [])] := by
  let x := after Db.step (fun _ a => a.1.small) Db.empty usage
  have h : Run Db.step (fun _ a => a.1.small = true) Db.empty x.1 x.2 := run_after (by decide +kernel)
  exact ⟨x.1, x.2, store_refines_model h, by decide +kernel, by decide +kernel⟩

end Refinement

end Monitra
