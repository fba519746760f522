import Mathlib.Data.Multiset.AddSub
import Mathlib.Data.Multiset.Filter
import Monitra.Storage.Ops

/-!
# What the store is for

The store as its users think of it: maps of the monitors and the agents by their ids, the check results as a multiset, and the
alert events of each monitor. `Refuses` says which operations fail and with what, `Effect` what one that does not fail returns
and leaves. What lists come in an order, and in which, is in `Effect` too.
-/

namespace Monitra

structure StoreModel where
  monitors : UInt64 → Option Monitor
  agents : UInt64 → Option Agent
  checkResults : Multiset CheckResult
  alertEvents : UInt64 → List AlertEvent

namespace StoreModel

def empty : StoreModel := ⟨fun _ => none, fun _ => none, 0, fun _ => []⟩

/-- A link to an agent that there is, or no link. -/
def Known (M : StoreModel) (agentId : Option UInt64) : Prop := ∀ a, agentId = some a → (M.agents a).isSome

/-- A monitor links to the agent. -/
def Linked (M : StoreModel) (agentId : UInt64) : Prop := ∃ k m, M.monitors k = some m ∧ m.agentId = some agentId

/-- The operations that fail: an invalid interval, an id that is not there, a reference to what is not there, and the deletion of
an agent that a monitor links to. -/
inductive Refuses (M : StoreModel) : StoreOp → StorageError → Prop where
  | insertInterval {monitor : Monitor} (h : validIntervalSecs monitor.intervalSecs = false) :
      Refuses M (.insertMonitor monitor) (.corruptRow "monitor interval_secs must be 1..=86400")
  | insertAgent {monitor : Monitor} (hv : validIntervalSecs monitor.intervalSecs = true) (h : ¬M.Known monitor.agentId) :
      Refuses M (.insertMonitor monitor) (.queryFailed .foreignKey)
  | updateInterval {id name target intervalSecs agentId v} (hi : intervalSecs = some v) (h : validIntervalSecs v = false) :
      Refuses M (.updateMonitor id name target intervalSecs agentId)
        (.corruptRow "monitor interval_secs must be 1..=86400")
  | updateMissing {id name target intervalSecs agentId} (hv : ∀ v, intervalSecs = some v → validIntervalSecs v = true)
      (h : M.monitors id = none) : Refuses M (.updateMonitor id name target intervalSecs agentId) (.notFound "monitor" id)
  | updateAgent {id name target intervalSecs agentId m} (hv : ∀ v, intervalSecs = some v → validIntervalSecs v = true)
      (hm : M.monitors id = some m) (h : ¬M.Known agentId) :
      Refuses M (.updateMonitor id name target intervalSecs agentId) (.queryFailed .foreignKey)
  | statusMissing {id status} (h : M.monitors id = none) : Refuses M (.setMonitorStatus id status) (.notFound "monitor" id)
  | deleteMissing {id} (h : M.monitors id = none) : Refuses M (.deleteMonitor id) (.notFound "monitor" id)
  | resultsMonitor {results : List CheckResult} {r} (hr : r ∈ results) (h : M.monitors r.monitorId.val = none) :
      Refuses M (.insertCheckResults results) (.queryFailed .foreignKey)
  | heartbeatMissing {id atUnixSecs} (h : M.agents id = none) : Refuses M (.heartbeatAgent id atUnixSecs) (.notFound "agent" id)
  | deleteAgentMissing {id} (h : M.agents id = none) : Refuses M (.deleteAgent id) (.notFound "agent" id)
  | deleteAgentLinked {id a} (ha : M.agents id = some a) (h : M.Linked id) :
      Refuses M (.deleteAgent id) (.queryFailed .foreignKey)
  | eventMonitor {event : AlertEvent} (h : M.monitors event.monitorId = none) :
      Refuses M (.insertAlertEvent event) (.queryFailed .foreignKey)

/-- What an edit makes of a monitor. -/
def edited (name target : Option String) (intervalSecs agentId : Option UInt64) (m : Monitor) : Monitor :=
  { m with
    name := name.getD m.name
    target := target.getD m.target
    intervalSecs := intervalSecs.getD m.intervalSecs
    agentId := agentId.or m.agentId }

/-- What an operation that does not fail returns and leaves. -/
def Effect (M : StoreModel) : StoreOp → StoreAnswer → StoreModel → Prop
  | .insertMonitor monitor, answer, M' =>
    ∃ id : MonitorId, M.monitors id.val = none ∧ answer = .monitor { monitor with id } ∧
      M' = { M with monitors := Function.update M.monitors id.val (some { monitor with id }) }
  | .getMonitor id, answer, M' => answer = .monitor? (M.monitors id) ∧ M' = M
  | .listMonitors, answer, M' =>
    ∃ l, answer = .monitors l ∧ l.Pairwise (fun a b => a.id.val < b.id.val) ∧
      (∀ m, m ∈ l ↔ ∃ k, M.monitors k = some m) ∧ M' = M
  | .updateMonitor id name target intervalSecs agentId, answer, M' =>
    answer = .unit ∧ M' = { M with
      monitors := Function.update M.monitors id ((M.monitors id).map (edited name target intervalSecs agentId)) }
  | .setMonitorStatus id status, answer, M' =>
    answer = .unit ∧ M' = { M with
      monitors := Function.update M.monitors id ((M.monitors id).map fun m => { m with status }) }
  | .deleteMonitor id, answer, M' =>
    answer = .unit ∧ M' = { M with
      monitors := Function.update M.monitors id none
      checkResults := M.checkResults.filter fun r => r.monitorId.val ≠ id
      alertEvents := Function.update M.alertEvents id [] }
  | .insertCheckResults results, answer, M' =>
    answer = .unit ∧ M' = { M with checkResults := (results : Multiset CheckResult) + M.checkResults }
  | .listCheckResults monitorId since, answer, M' =>
    ∃ l, answer = .checkResults l ∧ l.Pairwise (fun a b => a.checkedAt ≤ b.checkedAt) ∧
      (l : Multiset CheckResult) =
        M.checkResults.filter (fun r => r.monitorId.val = monitorId ∧ since.all (· ≤ r.checkedAt)) ∧ M' = M
  | .upsertAgent agent, answer, M' =>
    ∃ id, ((∃ a, M.agents id = some a ∧ a.name = agent.name) ∨
        M.agents id = none ∧ ∀ k a, M.agents k = some a → a.name ≠ agent.name) ∧
      answer = .agent { agent with id } ∧ M' = { M with agents := Function.update M.agents id (some { agent with id }) }
  | .heartbeatAgent id atUnixSecs, answer, M' =>
    answer = .unit ∧ M' = { M with
      agents := Function.update M.agents id ((M.agents id).map fun a => { a with lastHeartbeatAt := atUnixSecs }) }
  | .getAgent id, answer, M' => answer = .agent? (M.agents id) ∧ M' = M
  | .listAgents, answer, M' =>
    ∃ l, answer = .agents l ∧ l.Pairwise (fun a b => a.id < b.id) ∧ (∀ a, a ∈ l ↔ ∃ k, M.agents k = some a) ∧ M' = M
  | .deleteAgent id, answer, M' => answer = .unit ∧ M' = { M with agents := Function.update M.agents id none }
  | .insertAlertEvent event, answer, M' =>
    ∃ id, (∀ k, ∀ e ∈ M.alertEvents k, e.id ≠ id) ∧ answer = .alertEvent { event with id } ∧
      ∃ l, l.Perm ({ event with id } :: M.alertEvents event.monitorId) ∧
        M' = { M with alertEvents := Function.update M.alertEvents event.monitorId l }
  | .listAlertEvents monitorId, answer, M' =>
    ∃ l, answer = .alertEvents l ∧ l.Pairwise (fun a b => a.occurredAt ≤ b.occurredAt) ∧ l.Perm (M.alertEvents monitorId) ∧
      M' = M
  | .listAllAlertEvents, answer, M' =>
    ∃ l, answer = .alertEvents l ∧ l.Pairwise (fun a b => b.occurredAt ≤ a.occurredAt) ∧
      (∀ k, (l.filter fun e => e.monitorId = k).Perm (M.alertEvents k)) ∧ M' = M

/-- An operation, what it returns, and what it leaves: nothing changed when it fails. After `asked` rows have been asked for, and
not before the rowids can have run out, it may also fail for want of one. -/
inductive Step (M : StoreModel) (asked : Nat) (op : StoreOp) : Except ProviderError StoreAnswer → StoreModel → Prop where
  | refused {e : StorageError} (h : M.Refuses op e) : Step M asked op (.error e.toProviderError) M
  | outOfRowids (h : 2 ^ 63 ≤ asked + op.rowsAsked) :
      Step M asked op (.error (StorageError.queryFailed .full).toProviderError) M
  | done {answer : StoreAnswer} {M' : StoreModel} (hr : ∀ e, ¬M.Refuses op e) (h : M.Effect op answer M') :
      Step M asked op (.ok answer) M'

/-- The rows that operations asked for. -/
def asked (log : List (StoreOp × Except ProviderError StoreAnswer)) : Nat :=
  log.foldl (fun n entry => n + entry.1.rowsAsked) 0

/-- Operations one after the other, with what they returned, and what they leave. -/
inductive Trace : List (StoreOp × Except ProviderError StoreAnswer) → StoreModel → Prop where
  | nil : Trace [] empty
  | snoc {log : List (StoreOp × Except ProviderError StoreAnswer)} {M M' : StoreModel} {op : StoreOp}
      {result : Except ProviderError StoreAnswer} :
      Trace log M → M.Step (asked log) op result M' → Trace (log ++ [(op, result)]) M'

end StoreModel

end Monitra
