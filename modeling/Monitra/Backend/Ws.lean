import Monitra.Library.Broadcast
import Monitra.Library.Serde
import Monitra.Models

/-!
# The live stream (`crates/backend/src/ws.rs`)

One `/ws` connection: the task that reads the broadcast results for it, and the socket, on which the client receives the frames
in the order they were handed over. The task waits for the socket while it sends; otherwise `select!` takes any of the three
branches that has something. What `serde_json::to_string` writes is an argument.
-/

namespace Monitra

open Serde

/-- The derived `Serialize`. -/
def CheckResult.serialize (result : CheckResult) : Json :=
  .obj [("monitor_id", u64 result.monitorId.val), ("checked_at", u64 result.checkedAt), ("success", .bool result.success),
    ("latency_ms", u64 result.latencyMs), ("message", result.message.elim .null .str)]

/-- `Message`, as far as the server sends it. -/
inductive Frame where
  | text (payload : String)
  | close
  deriving DecidableEq, Repr

/-- What `socket.recv()` returns: none, an error, a close frame, or any other frame. -/
inductive Incoming where
  | ended
  | error
  | close
  | other
  deriving DecidableEq, Repr

/-- Where the task waits. -/
inductive WsPoint where
  /-- for the upgrade to complete -/
  | upgrading
  /-- in `select!` -/
  | selecting
  /-- for the socket to take a result -/
  | sending
  /-- for the socket to take the close frame -/
  | closing
  | returned
  deriving DecidableEq, Repr

structure Ws where
  results : Broadcast.Channel CheckResult
  /-- The subscription: the number of the result it reads next. -/
  rx : Nat
  shutdown : Watch.Receiver Bool
  /-- The frames handed to the socket that the client has not received, the oldest first. -/
  socket : List Frame
  point : WsPoint

inductive WsEvent where
  | broadcast (result : CheckResult)
  /-- A frame handed to the socket. -/
  | sent (frame : Frame)
  /-- A frame that the client received. -/
  | received (frame : Frame)
  deriving DecidableEq, Repr

inductive WsAction where
  /-- `apply_result` sends a result. -/
  | broadcast (result : CheckResult)
  /-- Every sender of results is gone. -/
  | resultsClosed
  | setShutdown (value : Bool)
  | shutdownClosed
  /-- The upgrade completes and `handle_socket` starts, or it fails. -/
  | upgraded (ok : Bool)
  /-- `select!` takes `rx.recv()`. -/
  | recv
  /-- `select!` takes `socket.recv()`. -/
  | incoming (incoming : Incoming)
  /-- `select!` takes `shutdown.changed()`. -/
  | changed
  /-- `socket.send` returns, with an error or without. -/
  | sent (ok : Bool)
  /-- The client receives the next frame. -/
  | deliver
  deriving DecidableEq, Repr

namespace Ws

/-- The subscription is made before the upgrade completes. -/
def upgrade (results : Broadcast.Channel CheckResult) (shutdown : Watch.Receiver Bool) : Ws where
  results
  rx := results.subscribe
  shutdown
  socket := []
  point := .upgrading

/-- `socket.send(frame).await`, up to the wait. -/
def send (s : Ws) (frame : Frame) (point : WsPoint) : Ws × List WsEvent :=
  ({ s with socket := s.socket ++ [frame], point }, [.sent frame])

/-- What `handle_socket` does with what `rx.recv()` returned. -/
def onReceived (toString : Json → Except String String) (s : Ws) : Broadcast.Received CheckResult → Ws × List WsEvent
  | .value result =>
    match toString result.serialize with
    | .ok payload => s.send (.text payload) .sending
    | .error _ => (s, [])
  | .lagged _ => s.send .close .closing
  | .closed => ({ s with point := .returned }, [])

/-- What `handle_socket` does with what `socket.recv()` returned. Any other frame of the client is ignored. -/
def onIncoming (s : Ws) : Incoming → Ws
  | .ended | .close | .error => { s with point := .returned }
  | .other => s

/-- What `handle_socket` does when `shutdown.changed()` returned. -/
def onChanged (s : Ws) (ok : Bool) : Ws × List WsEvent :=
  if ok = false ∨ s.shutdown.value then s.send .close .closing else (s, [])

def step (toString : Json → Except String String) (s : Ws) : WsAction → Option (Ws × List WsEvent)
  | .broadcast result =>
    if s.results.closed then none else some ({ s with results := s.results.send result }, [.broadcast result])
  | .resultsClosed => some ({ s with results := { s.results with closed := true } }, [])
  | .setShutdown value => if s.shutdown.closed then none else some ({ s with shutdown := s.shutdown.set value }, [])
  | .shutdownClosed => some ({ s with shutdown := { s.shutdown with closed := true } }, [])
  | .upgraded ok =>
    if s.point = .upgrading then some ({ s with point := if ok then .selecting else .returned }, []) else none
  | .recv =>
    if s.point = .selecting then
      (s.results.recv s.rx).map fun (received, rx) => { s with rx }.onReceived toString received
    else none
  | .incoming incoming => if s.point = .selecting then some (s.onIncoming incoming, []) else none
  | .changed =>
    if s.point = .selecting then s.shutdown.changed.map fun (ok, shutdown) => { s with shutdown }.onChanged ok else none
  | .sent ok =>
    match s.point with
    | .sending => some ({ s with point := if ok then .selecting else .returned }, [])
    | .closing => some ({ s with point := .returned }, [])
    | _ => none
  | .deliver =>
    match s.socket with
    | [] => none
    | frame :: socket => some ({ s with socket }, [.received frame])

end Ws

/-! ## What the events tell -/

/-- The results that were broadcast. -/
def broadcastResults (log : List WsEvent) : List CheckResult :=
  log.filterMap fun
    | .broadcast result => some result
    | _ => none

/-- The frames that were handed to the socket. -/
def sentFrames (log : List WsEvent) : List Frame :=
  log.filterMap fun
    | .sent frame => some frame
    | _ => none

/-- The frames that the client received. -/
def receivedFrames (log : List WsEvent) : List Frame :=
  log.filterMap fun
    | .received frame => some frame
    | _ => none

/-- The messages among frames. -/
def texts (frames : List Frame) : List String :=
  frames.filterMap fun
    | .text payload => some payload
    | .close => none

theorem broadcastResults_append (log ev : List WsEvent) :
    broadcastResults (log ++ ev) = broadcastResults log ++ broadcastResults ev := List.filterMap_append

theorem sentFrames_append (log ev : List WsEvent) : sentFrames (log ++ ev) = sentFrames log ++ sentFrames ev :=
  List.filterMap_append

theorem receivedFrames_append (log ev : List WsEvent) : receivedFrames (log ++ ev) = receivedFrames log ++ receivedFrames ev :=
  List.filterMap_append

theorem texts_append (frames frames' : List Frame) : texts (frames ++ frames') = texts frames ++ texts frames' :=
  List.filterMap_append

end Monitra
