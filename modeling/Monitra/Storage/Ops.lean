import Monitra.Storage.Store

/-!
# The operations of the store as one (`SqliteStore`'s `Store` implementation)

The operations on monitors, check results, agents and alert events, each with its arguments, and what each returns. A sequence
of them is a run of `Db.step`. The other argument of a step is what the random search for a rowid yields.
-/

namespace Monitra

inductive StoreOp where
  | insertMonitor (monitor : Monitor)
  | getMonitor (id : UInt64)
  | listMonitors
  | updateMonitor (id : UInt64) (name target : Option String) (intervalSecs agentId : Option UInt64)
  | setMonitorStatus (id : UInt64) (status : MonitorStatus)
  | deleteMonitor (id : UInt64)
  | insertCheckResults (results : List CheckResult)
  | listCheckResults (monitorId : UInt64) (since : Option UInt64)
  | upsertAgent (agent : Agent)
  | heartbeatAgent (id atUnixSecs : UInt64)
  | getAgent (id : UInt64)
  | listAgents
  | deleteAgent (id : UInt64)
  | insertAlertEvent (event : AlertEvent)
  | listAlertEvents (monitorId : UInt64)
  | listAllAlertEvents
  deriving DecidableEq, Repr

/-- What an operation returns when it succeeds. -/
inductive StoreAnswer where
  | unit
  | monitor (monitor : Monitor)
  | monitor? (monitor : Option Monitor)
  | monitors (monitors : List Monitor)
  | checkResults (results : List CheckResult)
  | agent (agent : Agent)
  | agent? (agent : Option Agent)
  | agents (agents : List Agent)
  | alertEvent (event : AlertEvent)
  | alertEvents (events : List AlertEvent)
  deriving DecidableEq, Repr

namespace StoreOp

/-- The integers among the arguments. -/
def integers : StoreOp → List UInt64
  | .insertMonitor monitor => monitor.id.val :: monitor.intervalSecs :: monitor.agentId.toList
  | .updateMonitor id _ _ intervalSecs agentId => id :: intervalSecs.toList ++ agentId.toList
  | .insertCheckResults results => results.flatMap fun result => [result.monitorId.val, result.checkedAt, result.latencyMs]
  | .listCheckResults monitorId since => monitorId :: since.toList
  | .upsertAgent agent => [agent.id, agent.lastHeartbeatAt]
  | .heartbeatAgent id atUnixSecs => [id, atUnixSecs]
  | .insertAlertEvent event => [event.id, event.monitorId, event.occurredAt]
  | .getMonitor id | .setMonitorStatus id _ | .deleteMonitor id | .getAgent id | .deleteAgent id | .listAlertEvents id => [id]
  | .listMonitors | .listAgents | .listAllAlertEvents => []

/-- How many rows an operation asks for at most. -/
def rowsAsked : StoreOp → Nat
  | .insertMonitor _ | .upsertAgent _ | .insertAlertEvent _ => 1
  | .insertCheckResults results => results.length
  | _ => 0

/-- The operations that only read. -/
def isRead : StoreOp → Bool
  | .getMonitor _ | .listMonitors | .listCheckResults _ _ | .getAgent _ | .listAgents | .listAlertEvents _ | .listAllAlertEvents =>
    true
  | _ => false

/-- No integer is too large for a column. -/
def small (op : StoreOp) : Bool := op.integers.all fun n => decide (n.toNat < 2 ^ 63)

end StoreOp

namespace Db

/-- An operation, with the database it leaves when it succeeds. -/
def perform (db : Db) (pick : List Int64 → Int64) : StoreOp → Except StorageError (Db × StoreAnswer)
  | .insertMonitor monitor => (db.insertMonitor monitor pick).map fun (db, monitor) => (db, .monitor monitor)
  | .getMonitor id => (db.getMonitor id).map fun monitor => (db, .monitor? monitor)
  | .listMonitors => db.listMonitors.map fun monitors => (db, .monitors monitors)
  | .updateMonitor id name target intervalSecs agentId =>
    (db.updateMonitor id name target intervalSecs agentId).map fun db => (db, .unit)
  | .setMonitorStatus id status => (db.setMonitorStatus id status).map fun db => (db, .unit)
  | .deleteMonitor id => (db.deleteMonitor id).map fun db => (db, .unit)
  | .insertCheckResults results => (db.insertCheckResults pick results).map fun db => (db, .unit)
  | .listCheckResults monitorId since => (db.listCheckResults monitorId since).map fun results => (db, .checkResults results)
  | .upsertAgent agent => (db.upsertAgent agent pick).map fun (db, agent) => (db, .agent agent)
  | .heartbeatAgent id atUnixSecs => (db.heartbeatAgent id atUnixSecs).map fun db => (db, .unit)
  | .getAgent id => (db.getAgent id).map fun agent => (db, .agent? agent)
  | .listAgents => db.listAgents.map fun agents => (db, .agents agents)
  | .deleteAgent id => (db.deleteAgent id).map fun db => (db, .unit)
  | .insertAlertEvent event => (db.insertAlertEvent event pick).map fun (db, event) => (db, .alertEvent event)
  | .listAlertEvents monitorId => (db.listAlertEvents monitorId).map fun events => (db, .alertEvents events)
  | .listAllAlertEvents => db.listAllAlertEvents.map fun events => (db, .alertEvents events)

/-- A step of the store: an operation, which tells itself and what it returned. One that fails leaves the database alone. -/
def step (db : Db) (a : StoreOp × (List Int64 → Int64)) : Option (Db × List (StoreOp × Except ProviderError StoreAnswer)) :=
  match db.perform a.2 a.1 with
  | .ok (db', answer) => some (db', [(a.1, .ok answer)])
  | .error e => some (db, [(a.1, .error e.toProviderError)])

end Db

/-- A call of the `Store` trait that may write: an operation, with what the random search for a rowid yields, or a batch of a
pruning pass, with the results it finds in the order in which it comes to them. -/
inductive StoreCall where
  | op (op : StoreOp) (pick : List Int64 → Int64)
  | pruneCheckResultsOlderThan (cutoffUnixSecs limit : UInt64) (old : List CheckResultRow)

/-- A step of the store as all its callers make them. -/
def Db.call (db : Db) : StoreCall → Option (Db × List (StoreOp × Except ProviderError StoreAnswer))
  | .op op pick => db.step (op, pick)
  | .pruneCheckResultsOlderThan cutoffUnixSecs limit old =>
    (db.pruneCheckResultsOlderThan cutoffUnixSecs limit old).map fun (db, _) => (db, [])

end Monitra
