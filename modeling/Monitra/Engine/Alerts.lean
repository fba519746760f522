import Monitra.Provider.Policy
import Monitra.Engine.System
import Monitra.Storage.Ops

/-!
# The alert task (`crates/engine/src/alerts.rs`)

One task takes up the alert requests, hands a message to the sink through the retrying notifier, and records what came of it as
an alert event; on a tick it hands the waiting messages to the sink again. It waits for the sink and for the store
(`AlertsPc`), and meanwhile requests are submitted and others use the store. No other part of the program inserts alert events.
A run of the model ends when the last sender is dropped.
-/

namespace Monitra

/-- `{:?}` of a status. -/
def MonitorStatus.debug : MonitorStatus → String
  | .pending => "Pending"
  | .up => "Up"
  | .down => "Down"
  | .paused => "Paused"
  | .stale => "Stale"
  | .unknown => "Unknown"

/-- The text of the message for a request. -/
def AlertRequest.message (request : AlertRequest) : String :=
  "monitor '" ++ request.monitorName ++ "' (" ++ toString request.monitorId.val ++ ") transitioned to " ++
    request.transitionedTo.debug

/-- `delivery_outcome` of an alert event. -/
def DeliveryOutcome.recorded : DeliveryOutcome → String
  | .sent => "sent"
  | .queued => "queued for retry"

/-- Where the alert task is. -/
inductive AlertsPc where
  | select
  /-- Waiting for the sink's answer to the first attempt. -/
  | notifying (request : AlertRequest) (message : Message)
  /-- Waiting for the store to take the event of a message. -/
  | inserting (number : Nat) (event : AlertEvent)
  /-- In the loop of `drain_retries`: waiting for the sink's answer to the first of the messages still to come. -/
  | draining (pending : List Message)
  deriving DecidableEq, Repr

structure AlertsTask where
  db : Db
  rx : List AlertRequest
  notifier : RetryingNotifier
  pc : AlertsPc
  /-- How many requests have been taken up (auxiliary): the number of the next message. -/
  taken : Nat
  /-- Of which message the event of a rowid is (auxiliary). -/
  source : HashMap Int64 Nat
  deriving DecidableEq

inductive AlertsAction where
  | submit (request : AlertRequest)
  /-- `rx.recv()`. -/
  | recv
  /-- The retry tick. -/
  | tick
  /-- The sink answers; `now` is the time of day then. -/
  | sink (ok : Bool) (now : UInt64)
  /-- The store answers `insert_alert_event`. -/
  | insert (fault : Bool) (pick : List Int64 → Int64)
  /-- Another party's operation on the store. -/
  | store (op : StoreOp) (pick : List Int64 → Int64)

inductive AlertsEvent where
  /-- A request found room in the channel. -/
  | submitted (request : AlertRequest)
  | notifier (event : NotifierEvent)
  /-- The event of a message was stored. -/
  | stored (number : Nat) (event : AlertEvent)
  /-- "engine: failed to persist alert event" -/
  | notStored (number : Nat)
  deriving DecidableEq, Repr

/-- The operations that others perform. -/
def StoreOp.insertsAlertEvent : StoreOp → Bool
  | .insertAlertEvent _ => true
  | _ => false

namespace AlertsTask

def start (db : Db) (innerName : String) (capacity : Nat) : AlertsTask :=
  ⟨db, [], RetryingNotifier.new innerName capacity, .select, 0, ∅⟩

/-- On to the messages of a drain that are left. -/
def drainOn : List Message → AlertsPc
  | [] => .select
  | pending => .draining pending

/-- The event of a request, before it has an id. -/
def event (s : AlertsTask) (request : AlertRequest) (now : UInt64) (outcome : DeliveryOutcome) : AlertEvent where
  id := 0
  monitorId := request.monitorId.val
  transitionedTo := request.transitionedTo
  occurredAt := now
  sinksAttempted := s.notifier.innerName
  deliveryOutcome := outcome.recorded

def step (queueCapacity : Nat) (s : AlertsTask) : AlertsAction → Option (AlertsTask × List AlertsEvent)
  | .submit request =>
    some ({ s with rx := Channel.trySend queueCapacity s.rx request },
      if s.rx.length < queueCapacity then [.submitted request] else [])
  | .recv =>
    match s.pc, s.rx with
    | .select, request :: rx =>
      some ({ s with rx, taken := s.taken + 1, pc := .notifying request ⟨s.taken, request.message⟩ }, [])
    | _, _ => none
  | .tick =>
    match s.pc with
    | .select => some ({ s with notifier := { s.notifier with queue := [] }, pc := drainOn s.notifier.queue }, [])
    | _ => none
  | .sink ok now =>
    match s.pc with
    | .notifying request message =>
      let (notifier, outcome, events) := s.notifier.notifyRecordingOutcome message ok
      some ({ s with notifier, pc := .inserting message.number (s.event request now outcome) }, events.map .notifier)
    | .draining (message :: pending) =>
      let (notifier, events) := s.notifier.redeliver message ok
      some ({ s with notifier, pc := drainOn pending }, events.map .notifier)
    | _ => none
  | .insert fault pick =>
    match s.pc with
    | .inserting number event =>
      match answer fault (s.db.insertAlertEvent event pick) with
      | .ok (db, event) =>
        some ({ s with db, pc := .select, source := s.source.insert event.id.toInt64 number }, [.stored number event])
      | .error _ => some ({ s with pc := .select }, [.notStored number])
    | _ => none
  | .store op pick =>
    if op.insertsAlertEvent then none
    else
      match s.db.perform pick op with
      | .ok (db, _) => some ({ s with db }, [])
      | .error _ => none

end AlertsTask

end Monitra
