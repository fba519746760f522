import Monitra.Models

/-!
# Rows and their mapping (`crates/storage/src/codec.rs`, `error.rs`)

The columns of a row as SQLite holds them: integers are `i64`, the enumerations are text. A row is read into the shared
vocabulary by the `rowTo...` functions, which are where a stored value can turn out to be no value of an enumeration.

`MonitorRow.origin` and `CheckResultRow.origin` are no columns. They are the auxiliary component of a `MonitorId` (see
`Models.lean`): the number of the insertion that made a monitor row, and the one a check result's id was read from.
-/

namespace Monitra

/-! ## Errors -/

/-- What SQLite refuses a statement with. -/
inductive SqliteError where
  | foreignKey
  | full
  | other (detail : String)
  deriving DecidableEq, Repr

def SqliteError.text : SqliteError → String
  | .foreignKey => "FOREIGN KEY constraint failed"
  | .full => "database or disk is full"
  | .other detail => detail

/-- `storage`'s own error vocabulary. -/
inductive StorageError where
  | openFailed (path : String) (source : SqliteError)
  | migrationFailed (version : String) (source : SqliteError)
  | queryFailed (source : SqliteError)
  | corruptRow (detail : String)
  | notFound (entity : String) (id : UInt64)
  | taskJoin (detail : String)
  deriving DecidableEq, Repr

def StorageError.text : StorageError → String
  | .openFailed path source => "storage: failed to open " ++ path ++ ": " ++ source.text
  | .migrationFailed version source => "storage: migration " ++ version ++ " failed: " ++ source.text
  | .queryFailed source => "storage: query failed: " ++ source.text
  | .corruptRow detail => "storage: corrupt row: " ++ detail
  | .notFound entity id => "storage: " ++ entity ++ " " ++ toString id ++ " not found"
  | .taskJoin detail => "storage: background task failed: " ++ detail

/-- The provider categories. -/
inductive ProviderCategory where
  | store | cache | notifier | collector
  deriving DecidableEq, Repr

def ProviderCategory.text : ProviderCategory → String
  | .store => "store"
  | .cache => "cache"
  | .notifier => "notifier"
  | .collector => "collector"

/-- The errors a provider's operation ends with. -/
inductive ProviderError where
  | unavailable (category : ProviderCategory) (detail : String)
  | operation (category : ProviderCategory) (detail : String)
  | notFound (category : ProviderCategory) (entity : String) (id : UInt64)
  deriving DecidableEq, Repr

def ProviderError.text : ProviderError → String
  | .unavailable category detail => "provider: " ++ category.text ++ ": unavailable: " ++ detail
  | .operation category detail => "provider: " ++ category.text ++ ": operation failed: " ++ detail
  | .notFound category entity id => "provider: " ++ category.text ++ ": " ++ entity ++ " " ++ toString id ++ " not found"

/-- The conversion at the `Store` boundary: a missing entity stays one, everything else is a failed operation. -/
def StorageError.toProviderError : StorageError → ProviderError
  | .notFound entity id => .notFound .store entity id
  | other => .operation .store other.text

/-! ## Enumerations as text -/

/-- A string as Rust's `{:?}` prints it, for printable text. -/
def debugText (s : String) : String :=
  "\"" ++ String.join (s.toList.map fun c =>
    if c = '"' then "\\\"" else if c = '\\' then "\\\\" else if c = '\n' then "\\n" else if c = '\t' then "\\t"
    else if c = '\r' then "\\r" else if c = '\x00' then "\\0" else c.toString) ++ "\""

def monitorKindToStr : MonitorKind → String
  | .http => "http"
  | .tcp => "tcp"
  | .icmp => "icmp"
  | .k8sDeployment => "k8s_deployment"
  | .k8sStatefulSet => "k8s_stateful_set"
  | .k8sService => "k8s_service"
  | .hostAgentCheck => "host_agent_check"

def monitorKindFromStr (s : String) : Except StorageError MonitorKind :=
  if s = "http" then .ok .http
  else if s = "tcp" then .ok .tcp
  else if s = "icmp" then .ok .icmp
  else if s = "k8s_deployment" then .ok .k8sDeployment
  else if s = "k8s_stateful_set" then .ok .k8sStatefulSet
  else if s = "k8s_service" then .ok .k8sService
  else if s = "host_agent_check" then .ok .hostAgentCheck
  else .error (.corruptRow ("monitors.kind holds unrecognized value " ++ debugText s))

def monitorStatusToStr : MonitorStatus → String
  | .pending => "pending"
  | .up => "up"
  | .down => "down"
  | .paused => "paused"
  | .stale => "stale"
  | .unknown => "unknown"

def monitorStatusFromStr (s : String) : Except StorageError MonitorStatus :=
  if s = "pending" then .ok .pending
  else if s = "up" then .ok .up
  else if s = "down" then .ok .down
  else if s = "paused" then .ok .paused
  else if s = "stale" then .ok .stale
  else if s = "unknown" then .ok .unknown
  else .error (.corruptRow ("status column holds unrecognized value " ++ debugText s))

/-- A kind reads back as written. -/
@[simp] theorem monitorKindFromStr_toStr (k : MonitorKind) : monitorKindFromStr (monitorKindToStr k) = .ok k := by
  cases k <;> rfl

/-- A status reads back as written. -/
@[simp] theorem monitorStatusFromStr_toStr (s : MonitorStatus) : monitorStatusFromStr (monitorStatusToStr s) = .ok s := by
  cases s <;> rfl

/-- Two statuses are written alike only when they are the same. -/
theorem monitorStatusToStr_inj {s s' : MonitorStatus} : monitorStatusToStr s = monitorStatusToStr s' ↔ s = s' := by
  constructor
  · intro h
    have h' := congrArg monitorStatusFromStr h
    simpa using h'
  · rintro rfl
    rfl

/-- The text a kind reads from is the text it is written as. -/
theorem monitorKindFromStr_eq_ok {t : String} {k : MonitorKind} (h : monitorKindFromStr t = .ok k) :
    t = monitorKindToStr k := by
  unfold monitorKindFromStr at h
  repeat' split at h
  all_goals first
    | cases h; assumption
    | cases h

/-- The text a status reads from is the text it is written as. -/
theorem monitorStatusFromStr_eq_ok {t : String} {s : MonitorStatus} (h : monitorStatusFromStr t = .ok s) :
    t = monitorStatusToStr s := by
  unfold monitorStatusFromStr at h
  repeat' split at h
  all_goals first
    | cases h; assumption
    | cases h

/-! ## Rows -/

/-- A row of `monitors`. -/
structure MonitorRow where
  id : Int64
  origin : Nat
  name : String
  target : String
  kind : String
  intervalSecs : Int64
  status : String
  agentId : Option Int64
  deriving DecidableEq, Repr

/-- A row of `check_results`. -/
structure CheckResultRow where
  id : Int64
  monitorId : Int64
  origin : Nat
  checkedAt : Int64
  success : Bool
  latencyMs : Int64
  message : Option String
  deriving DecidableEq, Repr

/-- A row of `agents`. -/
structure AgentRow where
  id : Int64
  name : String
  lastHeartbeatAt : Int64
  scope : String
  token : String
  region : Option String
  deriving DecidableEq, Repr

/-- A row of `alert_events`. -/
structure AlertEventRow where
  id : Int64
  monitorId : Int64
  transitionedTo : String
  occurredAt : Int64
  sinksAttempted : String
  deliveryOutcome : String
  deriving DecidableEq, Repr

/-- The interval of a row as the program reads it: a negative one, a legacy overflow, reads as zero. -/
def MonitorRow.readInterval (row : MonitorRow) : UInt64 := if row.intervalSecs < 0 then 0 else row.intervalSecs.toUInt64

/-- A row read as a monitor. A row with an invalid interval has status `unknown`, and its status column is not looked at. -/
def rowToMonitor (row : MonitorRow) : Except StorageError Monitor := do
  let intervalSecs := row.readInterval
  let kind ← monitorKindFromStr row.kind
  let status ← if validIntervalSecs intervalSecs then monitorStatusFromStr row.status else .ok .unknown
  return {
    id := ⟨row.id.toUInt64, row.origin⟩, name := row.name, target := row.target, kind, intervalSecs, status,
    agentId := row.agentId.map (·.toUInt64) }

def rowToAgent (row : AgentRow) : Agent where
  id := row.id.toUInt64
  name := row.name
  lastHeartbeatAt := row.lastHeartbeatAt.toUInt64
  scope := row.scope
  token := row.token
  region := row.region

def rowToCheckResult (row : CheckResultRow) : CheckResult where
  monitorId := ⟨row.monitorId.toUInt64, row.origin⟩
  checkedAt := row.checkedAt.toUInt64
  success := row.success
  latencyMs := row.latencyMs.toUInt64
  message := row.message

def rowToAlertEvent (row : AlertEventRow) : Except StorageError AlertEvent := do
  let transitionedTo ← monitorStatusFromStr row.transitionedTo
  return {
    id := row.id.toUInt64, monitorId := row.monitorId.toUInt64, transitionedTo, occurredAt := row.occurredAt.toUInt64,
    sinksAttempted := row.sinksAttempted, deliveryOutcome := row.deliveryOutcome }

/-- What reading a row gives, when it gives a monitor: every column as it is stored, the status column only when the interval
is valid. -/
theorem rowToMonitor_eq_ok {row : MonitorRow} {m : Monitor} (h : rowToMonitor row = .ok m) :
    m.id = ⟨row.id.toUInt64, row.origin⟩ ∧ m.name = row.name ∧ m.target = row.target ∧
      row.kind = monitorKindToStr m.kind ∧ m.intervalSecs = row.readInterval ∧
      m.agentId = row.agentId.map (·.toUInt64) ∧
      (if validIntervalSecs m.intervalSecs then row.status = monitorStatusToStr m.status else m.status = .unknown) := by
  unfold rowToMonitor at h
  cases hk : monitorKindFromStr row.kind with
  | error e => simp [hk, bind, Except.bind] at h
  | ok kind =>
    simp only [hk, bind, Except.bind, pure, Except.pure] at h
    by_cases hv : validIntervalSecs row.readInterval = true
    · simp only [hv, if_true] at h
      cases hs : monitorStatusFromStr row.status with
      | error e => simp [hs] at h
      | ok status =>
        simp only [hs, Except.ok.injEq] at h
        subst h
        exact ⟨rfl, rfl, rfl, monitorKindFromStr_eq_ok hk, rfl, rfl, by simp [hv, monitorStatusFromStr_eq_ok hs]⟩
    · simp only [hv, Bool.false_eq_true, if_false, Except.ok.injEq] at h
      subst h
      exact ⟨rfl, rfl, rfl, monitorKindFromStr_eq_ok hk, rfl, rfl, by simp [hv]⟩

end Monitra
