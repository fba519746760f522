import Monitra.Storage.Store

/-!
# Shared mutations and queries (`crates/backend/src/service.rs`)

What both the HTTP handlers and the command line call. Each is one operation of the store, behind the check of an interval
where there is one.
-/

namespace Monitra

namespace Service

def checkInterval (value : UInt64) : Except ProviderError Unit :=
  if validIntervalSecs value then .ok ()
  else .error (.operation .store "backend: monitor interval_secs must be 1..=86400")

/-- A store operation's result as its callers see it. -/
def provider {α : Type} (r : Except StorageError α) : Except ProviderError α := r.mapError StorageError.toProviderError

def addMonitor (db : Db) (name target : String) (kind : MonitorKind) (intervalSecs : UInt64) (agentId : Option UInt64)
    (pick : List Int64 → Int64) : Except ProviderError (Db × Monitor) :=
  match checkInterval intervalSecs with
  | .error e => .error e
  | .ok () => provider (db.insertMonitor { id := ⟨0, 0⟩, name, target, kind, intervalSecs, status := .pending, agentId } pick)

def editMonitor (db : Db) (id : UInt64) (name target : Option String) (intervalSecs : Option UInt64)
    (agentId : Option UInt64) : Except ProviderError Db :=
  match intervalSecs.elim (.ok ()) checkInterval with
  | .error e => .error e
  | .ok () => provider (db.updateMonitor id name target intervalSecs agentId)

def removeMonitor (db : Db) (id : UInt64) : Except ProviderError Db := provider (db.deleteMonitor id)

def pauseMonitor (db : Db) (id : UInt64) : Except ProviderError Db := provider (db.setMonitorStatus id .paused)

/-- Back to pending, not to the status before the pause: a resumed monitor has not been checked since. -/
def resumeMonitor (db : Db) (id : UInt64) : Except ProviderError Db := provider (db.setMonitorStatus id .pending)

/-- Registers an agent under a fresh token, which replaces the one it had. -/
def registerAgent (db : Db) (name scope : String) (region : Option String) (nowUnixSecs : UInt64) (token : String)
    (pick : List Int64 → Int64) : Except ProviderError (Db × Agent) :=
  provider (db.upsertAgent { id := 0, name, lastHeartbeatAt := nowUnixSecs, scope, token, region } pick)

def removeAgent (db : Db) (id : UInt64) : Except ProviderError Db := provider (db.deleteAgent id)

end Service

end Monitra
