/-!
# The polls of the data layer (`crates/tui/src/data.rs`)

When `poll_loop` fetches a snapshot, and what its `WsFeed` does in between, by the clock. What a snapshot holds is left out; to
fetch one takes any time. `select!` polls both branches when it is entered, and after that once what a branch waits for has come:
the runtime does so at most `late` after it has come, so that with `late` zero the loop is on time. The branch that does not win is
dropped, and with it the retry delay that it was in. Times are in nanoseconds.
-/

namespace Monitra

def POLL_INTERVAL : Nat := 2000000000
def WS_RETRY_DELAY : Nat := 3000000000

/-- How far a call of `WsFeed::wait_for_event` is. -/
inductive WaitForEvent where
  /-- not polled yet -/
  | created
  /-- in `stream.next()` -/
  | reading
  /-- in `sleep(WS_RETRY_DELAY)`, to wake then -/
  | sleeping (wake : Nat)
  /-- in `connect_async` -/
  | connecting
  deriving DecidableEq, Repr

inductive PollPoint where
  /-- in `WsFeed::connect` -/
  | starting
  /-- in `select!` -/
  | selecting (wait : WaitForEvent)
  /-- in `fetch_snapshot` -/
  | fetching
  deriving DecidableEq, Repr

structure PollLoop where
  now : Nat
  /-- The next tick of `interval`. -/
  nextTick : Nat
  /-- Whether `ws.stream` is some. -/
  stream : Bool
  point : PollPoint
  deriving DecidableEq, Repr

inductive PollEvent where
  /-- `wait_for_event` calls `connect_async`. -/
  | reconnect
  /-- `snapshot_tx.send`. -/
  | snapshot
  deriving DecidableEq, Repr

inductive PollAction where
  | advance (d : Nat)
  /-- `WsFeed::connect` returns, with a stream or without. -/
  | started (ok : Bool)
  /-- `select!` has polled both branches for the first time, and neither is ready. -/
  | polled
  /-- `interval.tick()` wins. -/
  | tick
  /-- `stream.next()` returns a message, or the end of the stream, and `wait_for_event` wins. -/
  | next (message : Bool)
  /-- The sleep of `wait_for_event` has elapsed. -/
  | elapsed
  /-- `connect_async` returns, with a stream or without, and `wait_for_event` wins. -/
  | connected (ok : Bool)
  /-- `fetch_snapshot` returns. -/
  | fetched
  deriving DecidableEq, Repr

namespace PollLoop

/-- The first tick of an interval is due at once. -/
def start (now : Nat) : PollLoop := ⟨now, now, false, .starting⟩

/-- Whether time may pass: no timer that `select!` waits for is left unseen for more than `late`. -/
def mayPass (late : Nat) (s : PollLoop) (d : Nat) : Bool :=
  match s.point with
  | .starting | .fetching => true
  | .selecting .created => false
  | .selecting (.sleeping wake) => s.now + d ≤ min s.nextTick wake + late
  | .selecting .reading | .selecting .connecting => s.now + d ≤ s.nextTick + late

/-- Where `wait_for_event` first waits. -/
def waitForEvent (s : PollLoop) : WaitForEvent := if s.stream then .reading else .sleeping (s.now + WS_RETRY_DELAY)

def step (late : Nat) (s : PollLoop) : PollAction → Option (PollLoop × List PollEvent)
  | .advance d => if s.mayPass late d then some ({ s with now := s.now + d }, []) else none
  | .started ok => if s.point = .starting then some ({ s with stream := ok, point := .selecting .created }, []) else none
  | .polled =>
    if s.point = .selecting .created ∧ s.now < s.nextTick then some ({ s with point := .selecting s.waitForEvent }, []) else none
  | .tick =>
    match s.point with
    | .selecting _ =>
      -- a tick that was missed does not move the next one
      if s.nextTick ≤ s.now then some ({ s with nextTick := s.nextTick + POLL_INTERVAL, point := .fetching }, []) else none
    | _ => none
  | .next message =>
    match s.point with
    | .selecting .created | .selecting .reading =>
      if s.stream then some ({ s with stream := message, point := .fetching }, []) else none
    | _ => none
  | .elapsed =>
    match s.point with
    | .selecting (.sleeping wake) =>
      if wake ≤ s.now then some ({ s with point := .selecting .connecting }, [.reconnect]) else none
    | _ => none
  | .connected ok =>
    if s.point = .selecting .connecting then some ({ s with stream := ok, point := .fetching }, []) else none
  | .fetched => if s.point = .fetching then some ({ s with point := .selecting .created }, [.snapshot]) else none

/-- The feed is there and has no connection. -/
def Disconnected (s : PollLoop) : Prop := s.stream = false ∧ s.point ≠ .starting

instance (s : PollLoop) : Decidable s.Disconnected := inferInstanceAs (Decidable (_ ∧ _))

end PollLoop

end Monitra
