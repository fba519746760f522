import Mathlib.Data.List.Sort
import Monitra.Library.Table
import Monitra.Storage.Codec

/-!
# The SQLite store (`crates/storage/src/lib.rs`)

The schema the migrations end with: four tables, each with an `INTEGER PRIMARY KEY`; `check_results` and `alert_events` refer
to `monitors` and go with the monitor they refer to (`ON DELETE CASCADE`); `monitors.agent_id` refers to `agents`. Foreign keys
are enforced. One operation of the store is one statement or one transaction, so it takes place at one moment and an operation
that fails leaves the database as it was: an operation here is a function from the database to an error or the new database.

An insert is given a rowid by `Table.nextRowid`; its last argument, `pick`, is what the random search yields once the largest
rowid is in use.
-/

namespace Monitra

/-- The database. `inserted` is auxiliary: how many monitor rows have been inserted, from which `MonitorRow.origin` is taken. -/
structure Db where
  monitors : Table MonitorRow.id
  checkResults : Table CheckResultRow.id
  agents : Table AgentRow.id
  alertEvents : Table AlertEventRow.id
  inserted : Nat
  deriving DecidableEq

namespace Db

/-- The freshly migrated database. -/
def empty : Db := ⟨Table.empty, Table.empty, Table.empty, Table.empty, 0⟩

/-- A reference to an agent that the schema accepts: none, or the id of a row of `agents`. -/
def agentRefOk (db : Db) : Option Int64 → Bool
  | none => true
  | some a => (db.agents.get? a).isSome

def badInterval : StorageError := .corruptRow "monitor interval_secs must be 1..=86400"

/-! ## Monitors -/

/-- The row an insert writes. -/
def monitorRow (monitor : Monitor) (origin : Nat) (id : Int64) : MonitorRow where
  id := id
  origin := origin
  name := monitor.name
  target := monitor.target
  kind := monitorKindToStr monitor.kind
  intervalSecs := monitor.intervalSecs.toInt64
  status := monitorStatusToStr monitor.status
  agentId := monitor.agentId.map (·.toInt64)

def insertMonitor (db : Db) (monitor : Monitor) (pick : List Int64 → Int64) : Except StorageError (Db × Monitor) :=
  if !validIntervalSecs monitor.intervalSecs then .error badInterval
  else
    match db.monitors.insertRow (monitorRow monitor db.inserted) (fun _ => rfl) pick with
    | none => .error (.queryFailed .full)
    | some (monitors, id) =>
      if db.agentRefOk (monitor.agentId.map (·.toInt64)) then
        .ok ({ db with monitors, inserted := db.inserted + 1 }, { monitor with id := ⟨id.toUInt64, db.inserted⟩ })
      else .error (.queryFailed .foreignKey)

def getMonitor (db : Db) (id : UInt64) : Except StorageError (Option Monitor) :=
  match db.monitors.get? id.toInt64 with
  | none => .ok none
  | some row => (rowToMonitor row).map some

/-- Every monitor, by id. One row that does not read as a monitor fails the whole list. -/
def listMonitors (db : Db) : Except StorageError (List Monitor) := db.monitors.rows.mapM rowToMonitor

/-- The row `update_monitor` leaves. A repaired interval makes the row pending. -/
def updatedRow (name target : Option String) (intervalSecs : Option UInt64) (agentId : Option UInt64) (row : MonitorRow) :
    MonitorRow :=
  { row with
    name := name.getD row.name
    target := target.getD row.target
    status := if (row.intervalSecs < 1 ∨ row.intervalSecs > 86400) ∧ intervalSecs.isSome then "pending" else row.status
    intervalSecs := (intervalSecs.map (·.toInt64)).getD row.intervalSecs
    agentId := (agentId.map (·.toInt64)).orElse fun _ => row.agentId }

@[simp] theorem id_updatedRow (name target : Option String) (intervalSecs agentId : Option UInt64) (row : MonitorRow) :
    (updatedRow name target intervalSecs agentId row).id = row.id := rfl

def updateMonitor (db : Db) (id : UInt64) (name target : Option String) (intervalSecs : Option UInt64)
    (agentId : Option UInt64) : Except StorageError Db :=
  if intervalSecs.any fun value => !validIntervalSecs value then .error badInterval
  else
    match db.monitors.get? id.toInt64 with
    | none => .error (.notFound "monitor" id)
    | some _ =>
      if db.agentRefOk (agentId.map (·.toInt64)) then
        let monitors := db.monitors.update (fun row => decide (row.id = id.toInt64))
          (updatedRow name target intervalSecs agentId) (id_updatedRow name target intervalSecs agentId)
        .ok { db with monitors }
      else .error (.queryFailed .foreignKey)

/-- An unconditional update of the status column: what the row held is not looked at. -/
def setMonitorStatus (db : Db) (id : UInt64) (status : MonitorStatus) : Except StorageError Db :=
  match db.monitors.get? id.toInt64 with
  | none => .error (.notFound "monitor" id)
  | some _ =>
    let monitors := db.monitors.update (fun row => decide (row.id = id.toInt64))
      (fun row => { row with status := monitorStatusToStr status }) (fun _ => rfl)
    .ok { db with monitors }

/-- Removes a monitor, and with it the check results and alert events that refer to it. -/
def deleteMonitor (db : Db) (id : UInt64) : Except StorageError Db :=
  match db.monitors.get? id.toInt64 with
  | none => .error (.notFound "monitor" id)
  | some _ =>
    .ok { db with
      monitors := db.monitors.delete fun row => decide (row.id = id.toInt64)
      checkResults := db.checkResults.delete fun row => decide (row.monitorId = id.toInt64)
      alertEvents := db.alertEvents.delete fun row => decide (row.monitorId = id.toInt64) }

/-! ## Check results -/

/-- The row an insert writes. -/
def checkResultRow (result : CheckResult) (id : Int64) : CheckResultRow where
  id := id
  monitorId := result.monitorId.val.toInt64
  origin := result.monitorId.origin
  checkedAt := result.checkedAt.toInt64
  success := result.success
  latencyMs := result.latencyMs.toInt64
  message := result.message

/-- One `INSERT` of the batch: refused when its monitor does not exist. -/
def insertCheckResult (db : Db) (result : CheckResult) (pick : List Int64 → Int64) : Except StorageError Db :=
  match db.checkResults.insertRow (checkResultRow result) (fun _ => rfl) pick with
  | none => .error (.queryFailed .full)
  | some (checkResults, _) =>
    if (db.monitors.get? result.monitorId.val.toInt64).isSome then .ok { db with checkResults }
    else .error (.queryFailed .foreignKey)

/-- The whole batch in one transaction: the first refused insert ends it, and nothing of it stays. -/
def insertCheckResults (db : Db) (pick : List Int64 → Int64) : List CheckResult → Except StorageError Db
  | [] => .ok db
  | result :: results =>
    match db.insertCheckResult result pick with
    | .error e => .error e
    | .ok db' => db'.insertCheckResults pick results

/-- The results of a monitor since a moment, in time; those of one moment come by rowid. -/
def listCheckResults (db : Db) (monitorId : UInt64) (since : Option UInt64) : Except StorageError (List CheckResult) :=
  let rows := db.checkResults.rows.filter fun row =>
    decide (row.monitorId = monitorId.toInt64 ∧ (since.getD 0).toInt64 ≤ row.checkedAt)
  .ok ((rows.insertionSort fun a b => a.checkedAt ≤ b.checkedAt).map rowToCheckResult)

/-- The results older than a moment. -/
def prunable (db : Db) (cutoffUnixSecs : UInt64) : List CheckResultRow :=
  db.checkResults.rows.filter fun row => decide (row.checkedAt < cutoffUnixSecs.toInt64)

/-- Deletes the first of the results older than a moment, in the order in which the subquery comes to them, at most so many, and
says how many. -/
def pruneInOrder (db : Db) (old : List CheckResultRow) (limit : UInt64) : Db × UInt64 :=
  let rows := old.take (min limit 10000).toNat
  ({ db with checkResults := db.checkResults.delete fun row => (rows.map (·.id)).contains row.id }, rows.length.toUInt64)

/-- Deletes results older than a moment, at most so many. The statement does not ask for an order: the subquery may come to them
in any, and `old` is the one in which it does. -/
def pruneCheckResultsOlderThan (db : Db) (cutoffUnixSecs limit : UInt64) (old : List CheckResultRow) : Option (Db × UInt64) :=
  if old.Perm (db.prunable cutoffUnixSecs) then some (db.pruneInOrder old limit) else none

theorem pruneCheckResultsOlderThan_eq_some {db : Db} {cutoffUnixSecs limit : UInt64} {old : List CheckResultRow} {x : Db × UInt64}
    (h : db.pruneCheckResultsOlderThan cutoffUnixSecs limit old = some x) :
    old.Perm (db.prunable cutoffUnixSecs) ∧ db.pruneInOrder old limit = x := by
  unfold pruneCheckResultsOlderThan at h
  split at h
  · exact ⟨‹_›, Option.some.inj h⟩
  · cases h

/-- How many results are older than a moment, counted up to a cap. -/
def countPrunableCheckResults (db : Db) (cutoffUnixSecs cap : UInt64) : Except StorageError UInt64 :=
  .ok ((db.prunable cutoffUnixSecs).take (min cap 1000000).toNat).length.toUInt64

/-! ## Agents -/

/-- The row an upsert writes. -/
def agentRow (agent : Agent) (id : Int64) : AgentRow where
  id := id
  name := agent.name
  lastHeartbeatAt := agent.lastHeartbeatAt.toInt64
  scope := agent.scope
  token := agent.token
  region := agent.region

/-- Registers an agent, or overwrites every field of the one that has its name. -/
def upsertAgent (db : Db) (agent : Agent) (pick : List Int64 → Int64) : Except StorageError (Db × Agent) :=
  match db.agents.rows.find? fun row => decide (row.name = agent.name) with
  | some existing =>
    let agents := db.agents.update (fun row => decide (row.id = existing.id))
      (fun existing => { agentRow agent existing.id with name := existing.name }) (fun _ => rfl)
    .ok ({ db with agents }, { agent with id := existing.id.toUInt64 })
  | none =>
    match db.agents.insertRow (agentRow agent) (fun _ => rfl) pick with
    | none => .error (.queryFailed .full)
    | some (agents, id) => .ok ({ db with agents }, { agent with id := id.toUInt64 })

def heartbeatAgent (db : Db) (id : UInt64) (atUnixSecs : UInt64) : Except StorageError Db :=
  match db.agents.get? id.toInt64 with
  | none => .error (.notFound "agent" id)
  | some _ =>
    let agents := db.agents.update (fun row => decide (row.id = id.toInt64))
      (fun row => { row with lastHeartbeatAt := atUnixSecs.toInt64 }) (fun _ => rfl)
    .ok { db with agents }

def getAgent (db : Db) (id : UInt64) : Except StorageError (Option Agent) :=
  .ok ((db.agents.get? id.toInt64).map rowToAgent)

def listAgents (db : Db) : Except StorageError (List Agent) := .ok (db.agents.rows.map rowToAgent)

/-- Refused while a monitor refers to the agent: the reference in `monitors` has no `ON DELETE` action. -/
def deleteAgent (db : Db) (id : UInt64) : Except StorageError Db :=
  match db.agents.get? id.toInt64 with
  | none => .error (.notFound "agent" id)
  | some _ =>
    if db.monitors.rows.any fun row => decide (row.agentId = some id.toInt64) then .error (.queryFailed .foreignKey)
    else .ok { db with agents := db.agents.delete fun row => decide (row.id = id.toInt64) }

/-! ## Alert events -/

/-- The row an insert writes. -/
def alertEventRow (event : AlertEvent) (id : Int64) : AlertEventRow where
  id := id
  monitorId := event.monitorId.toInt64
  transitionedTo := monitorStatusToStr event.transitionedTo
  occurredAt := event.occurredAt.toInt64
  sinksAttempted := event.sinksAttempted
  deliveryOutcome := event.deliveryOutcome

/-- Refused when its monitor does not exist. -/
def insertAlertEvent (db : Db) (event : AlertEvent) (pick : List Int64 → Int64) : Except StorageError (Db × AlertEvent) :=
  match db.alertEvents.insertRow (alertEventRow event) (fun _ => rfl) pick with
  | none => .error (.queryFailed .full)
  | some (alertEvents, id) =>
    if (db.monitors.get? event.monitorId.toInt64).isSome then
      .ok ({ db with alertEvents }, { event with id := id.toUInt64 })
    else .error (.queryFailed .foreignKey)

/-- The events of a monitor, in time. -/
def listAlertEvents (db : Db) (monitorId : UInt64) : Except StorageError (List AlertEvent) :=
  let rows := db.alertEvents.rows.filter fun row => decide (row.monitorId = monitorId.toInt64)
  (rows.insertionSort fun a b => a.occurredAt ≤ b.occurredAt).mapM rowToAlertEvent

/-- Every event, the latest first. -/
def listAllAlertEvents (db : Db) : Except StorageError (List AlertEvent) :=
  (db.alertEvents.rows.insertionSort fun a b => b.occurredAt ≤ a.occurredAt).mapM rowToAlertEvent

end Db

end Monitra
