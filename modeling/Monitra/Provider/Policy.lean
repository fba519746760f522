import Monitra.Library.Bounded

/-!
# The retrying notifier (`crates/provider/src/policy.rs`)

A message that the sink does not take waits in a bounded queue, from which `drain_retries` hands each waiting message to the sink
once more. What the sink answers is an argument: it answers as it likes, and an answer that is an error means that the message
was not delivered.
-/

namespace Monitra

/-- A message. `number` is auxiliary: which submission it comes from, so that two messages of one text are two. -/
structure Message where
  number : Nat
  text : String
  deriving DecidableEq, Repr

inductive DeliveryOutcome where
  | sent | queued
  deriving DecidableEq, Repr

/-- What the notifier does that the statements speak of. -/
inductive NotifierEvent where
  /-- A message was handed to the sink, and whether the sink accepted it. -/
  | handed (message : Message) (ok : Bool)
  /-- "notifier retry queue full, dropping oldest message" -/
  | dropped (message : Message)
  deriving DecidableEq, Repr

structure RetryingNotifier where
  /-- The sink's name. -/
  innerName : String
  queue : List Message
  capacity : Nat
  deriving DecidableEq, Repr

namespace RetryingNotifier

def new (innerName : String) (capacity : Nat) : RetryingNotifier := ⟨innerName, [], capacity⟩

/-- Queue a message; a full queue loses its oldest. -/
def enqueue (n : RetryingNotifier) (message : Message) : RetryingNotifier × List NotifierEvent :=
  ({ n with queue := Bounded.push n.capacity n.queue message }, (Bounded.evicted n.capacity n.queue).toList.map .dropped)

/-- The first attempt. -/
def notifyRecordingOutcome (n : RetryingNotifier) (message : Message) (ok : Bool) :
    RetryingNotifier × DeliveryOutcome × List NotifierEvent :=
  if ok then (n, .sent, [.handed message true])
  else
    let (n, dropped) := n.enqueue message
    (n, .queued, .handed message false :: dropped)

/-- One turn of the loop of `drain_retries`: a message that still fails is queued again. -/
def redeliver (n : RetryingNotifier) (message : Message) (ok : Bool) : RetryingNotifier × List NotifierEvent :=
  if ok then (n, [.handed message true])
  else
    let (n, dropped) := n.enqueue message
    (n, .handed message false :: dropped)

/-- The messages that a drain takes out of the queue, one after the other. -/
def redeliverAll (accepts : Message → Bool) : RetryingNotifier → List Message → RetryingNotifier × List NotifierEvent
  | n, [] => (n, [])
  | n, message :: pending =>
    let (n, events) := n.redeliver message (accepts message)
    let (n, events') := redeliverAll accepts n pending
    (n, events ++ events')

/-- Hand every queued message to the sink once. -/
def drainRetries (n : RetryingNotifier) (accepts : Message → Bool) : RetryingNotifier × List NotifierEvent :=
  redeliverAll accepts { n with queue := [] } n.queue

end RetryingNotifier

/-! ## A history of calls -/

/-- The notifier and the messages submitted to it so far, in order. -/
structure Notifying where
  notifier : RetryingNotifier
  submitted : List Message

inductive NotifyingAction where
  /-- `notify_recording_outcome`, and what the sink answers. -/
  | notify (text : String) (ok : Bool)
  /-- `drain_retries`, and what the sink answers for each message. -/
  | drain (accepts : Message → Bool)

namespace Notifying

def start (innerName : String) (capacity : Nat) : Notifying := ⟨RetryingNotifier.new innerName capacity, []⟩

def step (s : Notifying) : NotifyingAction → Option (Notifying × List NotifierEvent)
  | .notify text ok =>
    let message : Message := ⟨s.submitted.length, text⟩
    let (notifier, _, events) := s.notifier.notifyRecordingOutcome message ok
    some (⟨notifier, s.submitted ++ [message]⟩, events)
  | .drain accepts =>
    let (notifier, events) := s.notifier.drainRetries accepts
    some ({ s with notifier }, events)

end Notifying

end Monitra
