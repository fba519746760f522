import Monitra.Library.Json
import Monitra.Backend.History

/-!
# The `/monitors` handlers (`crates/backend/src/monitors.rs`)

A handler is given the database, what the extractors made of the request, and `fault`: the error that the store answers the
handler's call with, if it fails it. What it returns is an error, or the answer with the database it leaves. The history of a
monitor is in `History.lean`.
-/

namespace Monitra

/-- A store's call as a handler sees it: it may fail whatever the database holds. -/
def Service.called {α : Type} (fault : Option ProviderError) (r : Except ProviderError α) : Except ApiError α :=
  match fault with
  | some e => .error (.ofProviderError e)
  | none => r.mapError ApiError.ofProviderError

/-- A monitor as the API shows it, with the reason why it is not checked, if there is one. -/
structure MonitorDto where
  id : UInt64
  name : String
  target : String
  kind : MonitorKind
  intervalSecs : UInt64
  status : MonitorStatus
  statusReason : Option String
  agentId : Option UInt64
  deriving DecidableEq, Repr

/-- `impl From<Monitor> for MonitorDto`. The reason is an interval that the scheduler does not take. -/
def MonitorDto.ofMonitor (monitor : Monitor) : MonitorDto where
  id := monitor.id.val
  name := monitor.name
  target := monitor.target
  kind := monitor.kind
  intervalSecs := monitor.intervalSecs
  status := monitor.status
  statusReason := if !validIntervalSecs monitor.intervalSecs then some "invalid stored interval" else none
  agentId := monitor.agentId

/-- The interval is any JSON value: whether it is one is the handler's to say. -/
structure CreateMonitorRequest where
  name : String
  target : String
  kind : MonitorKind
  intervalSecs : Option Json
  agentId : Option UInt64

/-- What of a monitor is to change: a field that is omitted stays. The kind cannot be edited. -/
structure EditMonitorRequest where
  name : Option String
  target : Option String
  intervalSecs : Option Json
  agentId : Option UInt64

/-- `parse_interval`: an integer from 1 to 86400, or the error that says so. No interval is not one. -/
def parseInterval (value : Option Json) : Except ApiError UInt64 :=
  match (value.bind Json.asU64).filter validIntervalSecs with
  | some seconds => .ok seconds
  | none => .error (.validation "backend: monitor interval_secs must be 1..=86400")

namespace Monitors

/-- `POST /monitors`: the interval is checked before the store is called. -/
def create (db : Db) (fault : Option ProviderError) (pick : List Int64 → Int64) (body : CreateMonitorRequest) :
    Except ApiError (Db × MonitorDto) := do
  let intervalSecs ← parseInterval body.intervalSecs
  let (db, monitor) ←
    Service.called fault (Service.addMonitor db body.name body.target body.kind intervalSecs body.agentId pick)
  return (db, .ofMonitor monitor)

/-- `GET /monitors`: a row that does not read as a monitor fails the whole answer. -/
def list (db : Db) (fault : Option ProviderError) : Except ApiError (List MonitorDto) := do
  let monitors ← Service.called fault (Service.provider db.listMonitors)
  return monitors.map .ofMonitor

/-- `GET /monitors/{id}` (`show`). -/
def showMonitor (db : Db) (fault : Option ProviderError) (id : UInt64) : Except ApiError MonitorDto := do
  match ← Service.called fault (Service.provider (db.getMonitor id)) with
  | some monitor => return .ofMonitor monitor
  | none => throw .notFound

/-- An interval that is absent stays; one that is given is checked first. -/
def edit (db : Db) (fault : Option ProviderError) (id : UInt64) (body : EditMonitorRequest) : Except ApiError Db := do
  let intervalSecs ← body.intervalSecs.mapM fun value => parseInterval (some value)
  Service.called fault (Service.editMonitor db id body.name body.target intervalSecs body.agentId)

/-- `DELETE /monitors/{id}`. -/
def remove (db : Db) (fault : Option ProviderError) (id : UInt64) : Except ApiError Db :=
  Service.called fault (Service.removeMonitor db id)

/-- `POST /monitors/{id}/pause`. -/
def pause (db : Db) (fault : Option ProviderError) (id : UInt64) : Except ApiError Db :=
  Service.called fault (Service.pauseMonitor db id)

/-- `POST /monitors/{id}/resume`: the monitor is pending again. -/
def resume (db : Db) (fault : Option ProviderError) (id : UInt64) : Except ApiError Db :=
  Service.called fault (Service.resumeMonitor db id)

end Monitors

end Monitra
