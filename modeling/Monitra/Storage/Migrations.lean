import Monitra.Library.Sql
import Monitra.Storage.Store

/-!
# Embedded migrations (`crates/storage/src/migrations.rs`)

A database file, as `SqliteStore::open` finds it, is an `Sql.Database`. `Migrations.run` brings it to the schema that the store
works with, one migration after the other, and leaves out the ones that `schema_migrations` says have been applied. `Db.read`
is the database that the store then works with.
-/

namespace Monitra

namespace Migrations

open Sql

/-- A column `id INTEGER PRIMARY KEY`. -/
def idColumn : Column := (Column.plain "id" .integer).asPrimaryKey

def textColumn (name : String) : Column := (Column.plain name .text).required

def integerColumn (name : String) : Column := (Column.plain name .integer).required

/-- A column `monitor_id`, whose rows go with the monitor they refer to. -/
def monitorIdColumn : Column := (integerColumn "monitor_id").referring "monitors" true

/-- The column that gives agents a token, and those there are the empty one. -/
def tokenColumn : Column := (textColumn "token").withDefault (.text "") rfl

/-- The column of regions, which has no default and may be `NULL`: unset reads back as no region. -/
def regionColumn : Column := Column.plain "region" .text

/-- One entry for each change of the schema. -/
def MIGRATIONS : List (String × List Statement) :=
  [("0001_monitors",
      [.createTable "monitors"
        [idColumn, textColumn "name", textColumn "target", textColumn "kind", integerColumn "interval_secs",
          textColumn "status"]]),
    ("0002_check_results",
      [.createTable "check_results"
        [idColumn, monitorIdColumn, integerColumn "checked_at", integerColumn "success", integerColumn "latency_ms",
          Column.plain "message" .text],
        .createIndex "idx_check_results_monitor_checked_at" "check_results" ["monitor_id", "checked_at"]]),
    ("0003_agents",
      [.createTable "agents" [idColumn, textColumn "name", integerColumn "last_heartbeat_at", textColumn "scope"]]),
    ("0004_alert_events",
      [.createTable "alert_events"
        [idColumn, monitorIdColumn, textColumn "transitioned_to", integerColumn "occurred_at", textColumn "sinks_attempted",
          textColumn "delivery_outcome"],
        .createIndex "idx_alert_events_monitor" "alert_events" ["monitor_id"]]),
    ("0005_monitor_agent_id",
      [.addColumn "monitors" ((Column.plain "agent_id" .integer).referring "agents" false)]),
    ("0006_agent_token",
      [.addColumn "agents" tokenColumn]),
    ("0007_agent_region",
      [.addColumn "agents" regionColumn]),
    ("0008_prune_checked_at_index",
      [.createIndex "idx_check_results_checked_at" "check_results" ["checked_at"]])]

/-- The columns of `schema_migrations`. -/
def recordColumns : List Column := [(Column.plain "version" .text).asPrimaryKey, integerColumn "applied_at"]

/-- One migration: left out when it is recorded, else executed and recorded, in one transaction. -/
def apply (now : Int64) (db : Database) (migration : String × List Statement) : Except StorageError Database :=
  match db.existsWhere "schema_migrations" "version" (.text migration.1) with
  | .error e => .error (.migrationFailed migration.1 (.other e))
  | .ok true => .ok db
  | .ok false =>
    match db.execBatch migration.2 with
    | .error e => .error (.migrationFailed migration.1 (.other e))
    | .ok db =>
      match db.insert "schema_migrations" [.text migration.1, .integer now] with
      | .error e => .error (.migrationFailed migration.1 (.other e))
      | .ok db => .ok db

/-- The migrations of a list, in order. -/
def applyAll (now : Int64) (db : Database) : List (String × List Statement) → Except StorageError Database
  | [] => .ok db
  | migration :: migrations =>
    match apply now db migration with
    | .error e => .error e
    | .ok db => applyAll now db migrations

def run (now : Int64) (db : Database) : Except StorageError Database :=
  match db.createTableIfNotExists "schema_migrations" recordColumns with
  | .error e => .error (.migrationFailed "schema_migrations" (.other e))
  | .ok db => applyAll now db MIGRATIONS

end Migrations

/-! ## The migrated database as the store's tables -/

/-- A column of text that may be `NULL`. -/
def optionText : Sql.Value → Option (Option String)
  | .null => some none
  | .text s => some (some s)
  | .integer _ => none

/-- A column of integers that may be `NULL`. -/
def optionInteger : Sql.Value → Option (Option Int64)
  | .null => some none
  | .integer i => some (some i)
  | .text _ => none

def MonitorRow.ofSql (origin : Nat) : Sql.Row → Option MonitorRow
  | [.integer id, .text name, .text target, .text kind, .integer intervalSecs, .text status, agentId] =>
    (optionInteger agentId).map fun agentId => { id, origin, name, target, kind, intervalSecs, status, agentId }
  | _ => none

def CheckResultRow.ofSql (origin : Int64 → Nat) : Sql.Row → Option CheckResultRow
  | [.integer id, .integer monitorId, .integer checkedAt, .integer success, .integer latencyMs, message] =>
    (optionText message).map fun message =>
      { id, monitorId, origin := origin monitorId, checkedAt, success := success != 0, latencyMs, message }
  | _ => none

def AgentRow.ofSql : Sql.Row → Option AgentRow
  | [.integer id, .text name, .integer lastHeartbeatAt, .text scope, .text token, region] =>
    (optionText region).map fun region => { id, name, lastHeartbeatAt, scope, token, region }
  | _ => none

def AlertEventRow.ofSql : Sql.Row → Option AlertEventRow
  | [.integer id, .integer monitorId, .text transitionedTo, .integer occurredAt, .text sinksAttempted, .text deliveryOutcome] =>
    some { id, monitorId, transitionedTo, occurredAt, sinksAttempted, deliveryOutcome }
  | _ => none

/-- The tables of a migrated database. The monitors there are count as inserted in the order of their rows. -/
def Db.read (db : Sql.Database) : Db :=
  let monitors := Table.ofRows MonitorRow.id ((db.rows "monitors").zipIdx.filterMap fun row => MonitorRow.ofSql row.2 row.1)
  { monitors
    checkResults := Table.ofRows CheckResultRow.id
      ((db.rows "check_results").filterMap (CheckResultRow.ofSql fun id => (monitors.get? id).elim 0 (·.origin)))
    agents := Table.ofRows AgentRow.id ((db.rows "agents").filterMap AgentRow.ofSql)
    alertEvents := Table.ofRows AlertEventRow.id ((db.rows "alert_events").filterMap AlertEventRow.ofSql)
    inserted := (db.rows "monitors").length }

/-- `SqliteStore::open` on the file of a database. -/
def Db.openFile (now : Int64) (db : Sql.Database) : Except StorageError Db := (Migrations.run now db).map Db.read

end Monitra
