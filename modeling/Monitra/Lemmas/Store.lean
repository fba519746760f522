import Monitra.Library.Results
import Monitra.Library.Word
import Monitra.Backend.Service
import Monitra.Storage.Ops

/-!
# What an operation of the store does

One lemma for each operation that succeeds: what it did to the tables, row by row, and what it left alone. The proofs about the
daemon read the operations through these lemmas only. `Writes` has the tables that each operation leaves, as the operation makes
them.
-/

namespace Monitra

open Results

namespace Db

/-- The stored row of a monitor. -/
def row? (db : Db) (id : UInt64) : Option MonitorRow := db.monitors.get? id.toInt64

/-- The stored status of a monitor, as text. -/
def status? (db : Db) (id : UInt64) : Option String := (db.row? id).map (·.status)

/-- A status is stored where a row is. -/
theorem status?_eq_some_iff {db : Db} {id : UInt64} {t : String} :
    db.status? id = some t ↔ ∃ row, db.row? id = some row ∧ row.status = t :=
  Option.map_eq_some_iff

/-- A listed monitor was read from the row of its id. -/
theorem row_of_mem_listMonitors {db : Db} {monitors : List Monitor} {m : Monitor} (h : db.listMonitors = .ok monitors)
    (hm : m ∈ monitors) : ∃ row, db.row? m.id.val = some row ∧ rowToMonitor row = .ok m := by
  obtain ⟨i, hi⟩ := List.mem_iff_getElem?.mp hm
  have hall := List.forall₂_iff_get.mp (forall₂_of_mapM h)
  obtain ⟨hlt, rfl⟩ := List.getElem?_eq_some_iff.mp hi
  have hlt' : i < db.monitors.rows.length := by omega
  have hr : rowToMonitor db.monitors.rows[i] = .ok monitors[i] := hall.2 i hlt' hlt
  refine ⟨db.monitors.rows[i], ?_, hr⟩
  have hid := (rowToMonitor_eq_ok hr).1
  unfold row?
  rw [hid, Int64.toInt64_toUInt64]
  exact Table.get?_of_mem (List.getElem_mem hlt')

/-- Listed monitors have distinct ids. -/
theorem nodup_listMonitors {db : Db} {monitors : List Monitor} (h : db.listMonitors = .ok monitors) :
    (monitors.map fun m => m.id.val.toInt64).Nodup := by
  have hids : monitors.map (fun m => m.id.val.toInt64) = db.monitors.rows.map (·.id) := by
    have hall := forall₂_of_mapM h
    clear h
    generalize db.monitors.rows = rows at hall
    induction hall with
    | nil => rfl
    | cons hr _ ih =>
      rw [List.map_cons, List.map_cons, ih, (rowToMonitor_eq_ok hr).1, Int64.toInt64_toUInt64]
  rw [hids]
  exact db.monitors.nodup_keys

/-- So have listed agents. -/
theorem nodup_listAgents {db : Db} {agents : List Agent} (h : db.listAgents = .ok agents) : (agents.map (·.id)).Nodup := by
  have hids : agents.map (·.id) = (db.agents.rows.map (·.id)).map Int64.toUInt64 := by
    cases h
    rw [List.map_map, List.map_map]
    rfl
  rw [hids]
  refine db.agents.nodup_keys.map fun a b hab => ?_
  rw [← Int64.toInt64_toUInt64 a, ← Int64.toInt64_toUInt64 b, hab]

/-! ## Monitors -/

/-- Setting a status sets it in the row of the monitor and changes nothing else. -/
theorem setMonitorStatus_eq_ok {db db' : Db} {id : UInt64} {status : MonitorStatus}
    (h : db.setMonitorStatus id status = .ok db') :
    (∃ row, db.row? id = some row) ∧ db'.checkResults = db.checkResults ∧ db'.agents = db.agents ∧
      db'.inserted = db.inserted ∧
      ∀ k, db'.row? k = (db.row? k).map fun row =>
        if k = id then { row with status := monitorStatusToStr status } else row := by
  unfold setMonitorStatus at h
  split at h
  · cases h
  · rename_i row hrow
    cases h
    refine ⟨⟨row, hrow⟩, rfl, rfl, rfl, fun k => ?_⟩
    unfold row?
    rw [Table.get?_update_key]
    simp only [Word.toInt64_inj]

/-- The status set is the one stored afterwards, and the statuses of other monitors stay. -/
theorem status?_of_setMonitorStatus {db db' : Db} {id : UInt64} {status : MonitorStatus}
    (h : db.setMonitorStatus id status = .ok db') (k : UInt64) :
    db'.status? k = if k = id then some (monitorStatusToStr status) else db.status? k := by
  obtain ⟨⟨row, hrow⟩, -, -, -, hget⟩ := setMonitorStatus_eq_ok h
  unfold status?
  rw [hget]
  split
  · rename_i hk
    subst hk
    simp [hrow]
  · simp

/-- A status is set exactly where there is a row. -/
theorem setMonitorStatus_of_row {db : Db} {id : UInt64} {row : MonitorRow} (h : db.row? id = some row)
    (status : MonitorStatus) : ∃ db', db.setMonitorStatus id status = .ok db' := by
  unfold setMonitorStatus
  unfold row? at h
  simp [h]

/-- An insert adds one row, at an id that had none, with the interval it was given and the next number. -/
theorem insertMonitor_eq_ok {db db' : Db} {monitor m : Monitor} {pick : List Int64 → Int64}
    (h : db.insertMonitor monitor pick = .ok (db', m)) :
    db.monitors.nextRowid pick = some m.id.val.toInt64 ∧ db.row? m.id.val = none ∧
      db'.checkResults = db.checkResults ∧ db'.agents = db.agents ∧ db'.inserted = db.inserted + 1 ∧
      ∃ row : MonitorRow, row.origin = db.inserted ∧ row.status = monitorStatusToStr monitor.status ∧
        ∀ k, db'.row? k = if k = m.id.val then some row else db.row? k := by
  unfold insertMonitor at h
  split at h
  · cases h
  · split at h
    · cases h
    · rename_i t id hins
      split at h
      · simp only [Except.ok.injEq, Prod.mk.injEq] at h
        obtain ⟨rfl, rfl⟩ := h
        obtain ⟨hnext, hfree, -, hget⟩ := Table.insertRow_eq_some hins
        refine ⟨by simpa using hnext, by simpa [row?] using hfree, rfl, rfl, rfl, ?_⟩
        refine ⟨monitorRow monitor db.inserted id, rfl, rfl, fun k => ?_⟩
        unfold row?
        rw [hget]
        simp only [← Word.toInt64_inj, Int64.toInt64_toUInt64, eq_comm]
      · cases h

/-- An edit changes the row of its monitor, keeps what tells the row apart, and its status too unless it repairs an interval. -/
theorem updateMonitor_eq_ok {db db' : Db} {id : UInt64} {name target : Option String} {intervalSecs agentId : Option UInt64}
    (h : db.updateMonitor id name target intervalSecs agentId = .ok db') :
    db'.checkResults = db.checkResults ∧ db'.agents = db.agents ∧ db'.inserted = db.inserted ∧
      ∀ k, db'.row? k = (db.row? k).map fun row =>
        if k = id then updatedRow name target intervalSecs agentId row else row := by
  unfold updateMonitor at h
  split at h
  · cases h
  · split at h
    · cases h
    · split at h
      · cases h
        refine ⟨rfl, rfl, rfl, fun k => ?_⟩
        unfold row?
        rw [Table.get?_update_key]
        simp only [Word.toInt64_inj]
      · cases h

/-- A deletion takes the row of its monitor away, and the check results that refer to it. -/
theorem deleteMonitor_eq_ok {db db' : Db} {id : UInt64} (h : db.deleteMonitor id = .ok db') :
    db'.agents = db.agents ∧ db'.inserted = db.inserted ∧
      (∀ r, r ∈ db'.checkResults.rows ↔ r ∈ db.checkResults.rows ∧ r.monitorId ≠ id.toInt64) ∧
      ∀ k, db'.row? k = if k = id then none else db.row? k := by
  unfold deleteMonitor at h
  split at h
  · cases h
  · cases h
    refine ⟨rfl, rfl, fun r => by simp, fun k => ?_⟩
    unfold row?
    rw [Table.get?_delete_key]
    simp only [Word.toInt64_inj]

/-! ## Check results -/

/-- Whether a row of `check_results` is the record of a check result. -/
def records (result : CheckResult) (row : CheckResultRow) : Bool := row = checkResultRow result row.id

/-- How many rows of `check_results` record a check result. -/
def recorded (db : Db) (result : CheckResult) : Nat := db.checkResults.rows.countP (records result)

/-- A record of a check result is a record of no other. -/
theorem records_checkResultRow (r r' : CheckResult) (id : Int64) : records r' (checkResultRow r id) = (r == r') := by
  rw [Bool.eq_iff_iff, records, decide_eq_true_eq, beq_iff_eq]
  constructor
  · intro h
    obtain ⟨⟨v, o⟩, c, s, l, m⟩ := r
    obtain ⟨⟨v', o'⟩, c', s', l', m'⟩ := r'
    simp only [checkResultRow, CheckResultRow.mk.injEq, Word.toInt64_inj] at h
    obtain ⟨-, rfl, rfl, rfl, rfl, rfl, rfl⟩ := h
    rfl
  · rintro rfl
    rfl

/-- An insert of a check result adds the record of it, and its monitor exists. -/
theorem insertCheckResult_eq_ok {db db' : Db} {result : CheckResult} {pick : List Int64 → Int64}
    (h : db.insertCheckResult result pick = .ok db') :
    db'.monitors = db.monitors ∧ db'.agents = db.agents ∧ db'.inserted = db.inserted ∧
      (db.row? result.monitorId.val).isSome ∧
      ∃ id, db.checkResults.nextRowid pick = some id ∧
        db'.checkResults.rows.Perm (checkResultRow result id :: db.checkResults.rows) := by
  unfold insertCheckResult at h
  split at h
  · cases h
  · rename_i t id hins
    split at h
    · rename_i hrow
      cases h
      obtain ⟨hid, -, hperm, -⟩ := Table.insertRow_eq_some hins
      exact ⟨rfl, rfl, rfl, hrow, id, hid, hperm⟩
    · cases h

/-- An insert of a check result is refused when no rowid is found, or when its monitor does not exist. -/
theorem insertCheckResult_eq_error {db : Db} {result : CheckResult} {pick : List Int64 → Int64} {e : StorageError}
    (h : db.insertCheckResult result pick = .error e) :
    e = .queryFailed .full ∨ e = .queryFailed .foreignKey ∧ db.row? result.monitorId.val = none := by
  unfold insertCheckResult at h
  split at h
  · cases h
    exact Or.inl rfl
  · split at h
    · cases h
    · rename_i hrow
      cases h
      exact Or.inr ⟨rfl, by simpa [row?] using hrow⟩

/-- A batch that is inserted adds one record for each of its results, and all their monitors exist. -/
theorem insertCheckResults_eq_ok {pick : List Int64 → Int64} :
    ∀ {results : List CheckResult} {db db' : Db}, db.insertCheckResults pick results = .ok db' →
      db'.monitors = db.monitors ∧ db'.agents = db.agents ∧ db'.inserted = db.inserted ∧
        (∀ r ∈ results, (db.row? r.monitorId.val).isSome) ∧
        (∀ r, db'.recorded r = results.count r + db.recorded r) ∧
        ∀ row ∈ db'.checkResults.rows, row ∈ db.checkResults.rows ∨ ∃ r ∈ results, ∃ id, row = checkResultRow r id
  | [], db, db', h => by
    cases h
    exact ⟨rfl, rfl, rfl, by simp, by simp, by simp⟩
  | result :: results, db, db', h => by
    unfold insertCheckResults at h
    split at h
    · cases h
    · rename_i db₁ h₁
      obtain ⟨hm, ha, hi, hrow, id, -, hperm⟩ := insertCheckResult_eq_ok h₁
      obtain ⟨hm', ha', hi', hrows, hcount, hmem⟩ := insertCheckResults_eq_ok h
      refine ⟨hm'.trans hm, ha'.trans ha, hi'.trans hi, ?_, fun r => ?_, fun row hr => ?_⟩
      · intro r hr
        rcases List.mem_cons.mp hr with rfl | hr
        · exact hrow
        · have h' := hrows r hr
          rwa [row?, hm] at h'
      · have h' : db₁.recorded r = (if result == r then 1 else 0) + db.recorded r := by
          rw [recorded, hperm.countP_eq, List.countP_cons, records_checkResultRow, Nat.add_comm, recorded]
        rw [hcount, h', List.count_cons]
        omega
      · rcases hmem row hr with hr | ⟨r, hr, id', e⟩
        · rcases List.mem_cons.mp (hperm.mem_iff.mp hr) with e | hr
          · exact Or.inr ⟨result, List.mem_cons_self, id, e⟩
          · exact Or.inl hr
        · exact Or.inr ⟨r, List.mem_cons_of_mem _ hr, id', e⟩

/-- A batch is refused when no rowid is found, or when the monitor of one of its results does not exist. -/
theorem insertCheckResults_eq_error {pick : List Int64 → Int64} {e : StorageError} :
    ∀ {results : List CheckResult} {db : Db}, db.insertCheckResults pick results = .error e →
      e = .queryFailed .full ∨ e = .queryFailed .foreignKey ∧ ∃ r ∈ results, db.row? r.monitorId.val = none
  | [], db, h => by cases h
  | result :: results, db, h => by
    unfold insertCheckResults at h
    split at h
    · rename_i e' h₁
      cases h
      rcases insertCheckResult_eq_error h₁ with he | ⟨he, hr⟩
      · exact Or.inl he
      · exact Or.inr ⟨he, result, List.mem_cons_self, hr⟩
    · rename_i db₁ h₁
      rcases insertCheckResults_eq_error h with he | ⟨he, r, hr, hn⟩
      · exact Or.inl he
      · rw [row?, (insertCheckResult_eq_ok h₁).1] at hn
        exact Or.inr ⟨he, r, List.mem_cons_of_mem _ hr, hn⟩

/-- A batch runs out of rowids only when the largest one is in use. -/
theorem le_of_insertCheckResults_full {pick : List Int64 → Int64} :
    ∀ {results : List CheckResult} {db : Db} {n : Nat}, (∀ row ∈ db.checkResults.rows, row.id.toInt ≤ n) →
      db.insertCheckResults pick results = .error (.queryFailed .full) → 2 ^ 63 ≤ n + results.length
  | [], _, _, _, h => by cases h
  | result :: results, db, n, hn, h => by
    unfold insertCheckResults at h
    split at h
    · rename_i e h₁
      cases h
      unfold insertCheckResult at h₁
      split at h₁
      · rename_i hins
        have hle := Table.le_of_insertRow_none hn hins
        rw [List.length_cons]
        omega
      · split at h₁ <;> cases h₁
    · rename_i db₁ h₁
      unfold insertCheckResult at h₁
      split at h₁
      · cases h₁
      · rename_i t id hins
        split at h₁
        · cases h₁
          have hle := le_of_insertCheckResults_full (n := n + 1) (Table.insertRow_le hn hins) h
          rw [List.length_cons]
          omega
        · cases h₁

/-! ## All of them -/

/-- What an operation that succeeds leaves, with what had to hold. -/
inductive Writes (db : Db) (pick : List Int64 → Int64) : StoreOp → Db → Prop where
  | insertedMonitor {monitor monitors id} (hv : validIntervalSecs monitor.intervalSecs = true)
      (hins : db.monitors.insertRow (monitorRow monitor db.inserted) (fun _ => rfl) pick = some (monitors, id))
      (href : db.agentRefOk (monitor.agentId.map (·.toInt64)) = true) :
      Writes db pick (.insertMonitor monitor) { db with monitors, inserted := db.inserted + 1 }
  | updatedMonitor {id name target intervalSecs agentId row} (hv : ∀ value ∈ intervalSecs, validIntervalSecs value = true)
      (hrow : db.monitors.get? id.toInt64 = some row) (href : db.agentRefOk (agentId.map (·.toInt64)) = true) :
      Writes db pick (.updateMonitor id name target intervalSecs agentId)
        { db with
          monitors := db.monitors.update (fun row => decide (row.id = id.toInt64))
            (updatedRow name target intervalSecs agentId) (id_updatedRow name target intervalSecs agentId) }
  | setMonitorStatus {id status row} (hrow : db.monitors.get? id.toInt64 = some row) :
      Writes db pick (.setMonitorStatus id status)
        { db with
          monitors := db.monitors.update (fun row => decide (row.id = id.toInt64))
            (fun row => { row with status := monitorStatusToStr status }) (fun _ => rfl) }
  | deletedMonitor {id row} (hrow : db.monitors.get? id.toInt64 = some row) :
      Writes db pick (.deleteMonitor id)
        { db with
          monitors := db.monitors.delete fun row => decide (row.id = id.toInt64)
          checkResults := db.checkResults.delete fun row => decide (row.monitorId = id.toInt64)
          alertEvents := db.alertEvents.delete fun row => decide (row.monitorId = id.toInt64) }
  | insertedCheckResults {results db'} (h : db.insertCheckResults pick results = .ok db') :
      Writes db pick (.insertCheckResults results) db'
  | overwroteAgent {agent existing} (hname : db.agents.rows.find? (fun row => decide (row.name = agent.name)) = some existing) :
      Writes db pick (.upsertAgent agent)
        { db with
          agents := db.agents.update (fun row => decide (row.id = existing.id))
            (fun existing => { agentRow agent existing.id with name := existing.name }) (fun _ => rfl) }
  | insertedAgent {agent agents id} (hname : db.agents.rows.find? (fun row => decide (row.name = agent.name)) = none)
      (hins : db.agents.insertRow (agentRow agent) (fun _ => rfl) pick = some (agents, id)) :
      Writes db pick (.upsertAgent agent) { db with agents }
  | heardAgent {id atUnixSecs row} (hrow : db.agents.get? id.toInt64 = some row) :
      Writes db pick (.heartbeatAgent id atUnixSecs)
        { db with
          agents := db.agents.update (fun row => decide (row.id = id.toInt64))
            (fun row => { row with lastHeartbeatAt := atUnixSecs.toInt64 }) (fun _ => rfl) }
  | deletedAgent {id row} (hrow : db.agents.get? id.toInt64 = some row)
      (href : ∀ row ∈ db.monitors.rows, row.agentId ≠ some id.toInt64) :
      Writes db pick (.deleteAgent id) { db with agents := db.agents.delete fun row => decide (row.id = id.toInt64) }
  | insertedAlertEvent {event alertEvents id}
      (hins : db.alertEvents.insertRow (alertEventRow event) (fun _ => rfl) pick = some (alertEvents, id))
      (href : (db.monitors.get? event.monitorId.toInt64).isSome) :
      Writes db pick (.insertAlertEvent event) { db with alertEvents }
  | read {op} (hop : op.isRead = true) : Writes db pick op db

/-- Every operation that succeeds is one of them. -/
theorem writes_of_perform {db db' : Db} {pick : List Int64 → Int64} {op : StoreOp} {answer : StoreAnswer}
    (h : db.perform pick op = .ok (db', answer)) : Writes db pick op db' := by
  cases op with
  | insertMonitor monitor =>
    obtain ⟨⟨db₁, m⟩, hr, ⟨⟩⟩ := map_eq_ok h
    unfold insertMonitor at hr
    split at hr
    · cases hr
    · rename_i hv
      split at hr
      · cases hr
      · rename_i hins
        split at hr
        · rename_i href
          cases hr
          exact .insertedMonitor (by simpa using hv) hins href
        · cases hr
  | updateMonitor id name target intervalSecs agentId =>
    obtain ⟨db₁, hr, ⟨⟩⟩ := map_eq_ok h
    unfold updateMonitor at hr
    split at hr
    · cases hr
    · rename_i hv
      split at hr
      · cases hr
      · rename_i hrow
        split at hr
        · rename_i href
          cases hr
          exact .updatedMonitor (by simpa [Option.any_eq_true] using hv) hrow href
        · cases hr
  | setMonitorStatus id status =>
    obtain ⟨db₁, hr, ⟨⟩⟩ := map_eq_ok h
    unfold setMonitorStatus at hr
    split at hr
    · cases hr
    · rename_i hrow
      cases hr
      exact .setMonitorStatus hrow
  | deleteMonitor id =>
    obtain ⟨db₁, hr, ⟨⟩⟩ := map_eq_ok h
    unfold deleteMonitor at hr
    split at hr
    · cases hr
    · rename_i hrow
      cases hr
      exact .deletedMonitor hrow
  | insertCheckResults results =>
    obtain ⟨db₁, hr, ⟨⟩⟩ := map_eq_ok h
    exact .insertedCheckResults hr
  | upsertAgent agent =>
    obtain ⟨⟨db₁, a⟩, hr, ⟨⟩⟩ := map_eq_ok h
    unfold upsertAgent at hr
    split at hr
    · rename_i hname
      cases hr
      exact .overwroteAgent hname
    · rename_i hname
      split at hr
      · cases hr
      · rename_i hins
        cases hr
        exact .insertedAgent hname hins
  | heartbeatAgent id atUnixSecs =>
    obtain ⟨db₁, hr, ⟨⟩⟩ := map_eq_ok h
    unfold heartbeatAgent at hr
    split at hr
    · cases hr
    · rename_i hrow
      cases hr
      exact .heardAgent hrow
  | deleteAgent id =>
    obtain ⟨db₁, hr, ⟨⟩⟩ := map_eq_ok h
    unfold deleteAgent at hr
    split at hr
    · cases hr
    · rename_i hrow
      split at hr
      · cases hr
      · rename_i href
        cases hr
        exact .deletedAgent hrow (by simpa using href)
  | insertAlertEvent event =>
    obtain ⟨⟨db₁, e⟩, hr, ⟨⟩⟩ := map_eq_ok h
    unfold insertAlertEvent at hr
    split at hr
    · cases hr
    · rename_i hins
      split at hr
      · rename_i href
        cases hr
        exact .insertedAlertEvent hins href
      · cases hr
  | getMonitor id | listMonitors | listAlertEvents monitorId | listAllAlertEvents =>
    obtain ⟨x, -, ⟨⟩⟩ := map_eq_ok h
    exact .read rfl
  | listCheckResults monitorId since | getAgent id | listAgents =>
    cases h
    exact .read rfl

end Db

end Monitra
