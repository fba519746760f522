import Mathlib.Data.List.TakeDrop

/-!
# Broadcast and watch channels

A broadcast channel keeps the most recent messages, up to its capacity, for receivers that each read at their own pace. A receiver
is the number of the message it reads next. One whose next message is kept no longer lags: it is told so before any later message,
and goes on with the oldest message that is kept.

A watch channel keeps one value; a receiver is told when there is one that it has not seen.
-/

namespace Broadcast

variable {α : Type*}

/-- A channel, with every message ever sent. -/
structure Channel (α : Type*) where
  capacity : Nat
  sent : List α
  closed : Bool

/-- What a receiver is told. -/
inductive Received (α : Type*) where
  | value (x : α)
  | lagged (skipped : Nat)
  | closed

namespace Channel

def send (c : Channel α) (x : α) : Channel α := { c with sent := c.sent ++ [x] }

/-- A new receiver reads what is sent from now on. -/
def subscribe (c : Channel α) : Nat := c.sent.length

/-- The message that a receiver reads next is no longer kept. -/
def Lags (c : Channel α) (next : Nat) : Prop := next + c.capacity < c.sent.length

instance (c : Channel α) (next : Nat) : Decidable (c.Lags next) := inferInstanceAs (Decidable (_ < _))

/-- What a receiver is told and what it reads next; none while there is nothing to tell. -/
def recv (c : Channel α) (next : Nat) : Option (Received α × Nat) :=
  if c.Lags next then some (.lagged (c.sent.length - c.capacity - next), c.sent.length - c.capacity)
  else
    match c.sent[next]? with
    | some x => some (.value x, next + 1)
    | none => if c.closed then some (.closed, next) else none

/-- The messages from one number to another. -/
def between (c : Channel α) (start next : Nat) : List α := (c.sent.take next).drop start

/-! ## What a receiver is told -/

/-- A receiver that lags stays behind as more is sent. -/
theorem Lags.send {c : Channel α} {next : Nat} (h : c.Lags next) (x : α) : (c.send x).Lags next := by
  unfold Lags Channel.send at *
  simp only [List.length_append, List.length_singleton]
  omega

/-- A receiver that lags is told so, whatever was sent. -/
theorem recv_of_lags {c : Channel α} {next : Nat} (h : c.Lags next) :
    c.recv next = some (.lagged (c.sent.length - c.capacity - next), c.sent.length - c.capacity) := if_pos h

/-- A receiver that is told a message is told its next one. -/
theorem getElem?_of_recv {c : Channel α} {next next' : Nat} {x : α} (h : c.recv next = some (.value x, next')) :
    c.sent[next]? = some x ∧ next' = next + 1 := by
  unfold recv at h
  split at h
  · cases h
  · split at h
    · rename_i hx
      cases h
      exact ⟨hx, rfl⟩
    · split at h
      · cases h
      · cases h

/-- Only a receiver that lags is told so. -/
theorem lags_of_recv {c : Channel α} {next next' skipped : Nat} (h : c.recv next = some (.lagged skipped, next')) :
    c.Lags next := by
  unfold recv at h
  split at h
  · rename_i hlags
    exact hlags
  · split at h
    · cases h
    · split at h
      · cases h
      · cases h

/-- A receiver that is told of the end stays where it is. -/
theorem eq_of_recv_closed {c : Channel α} {next next' : Nat} (h : c.recv next = some (.closed, next')) : next' = next := by
  unfold recv at h
  split at h
  · cases h
  · split at h
    · cases h
    · split at h
      · cases h
        rfl
      · cases h

/-! ## The messages between two numbers -/

theorem between_self (c : Channel α) (start : Nat) : c.between start start = [] :=
  List.drop_eq_nil_of_le (List.length_take_le start c.sent)

/-- What is read next comes after what was read. -/
theorem between_succ {c : Channel α} {start next : Nat} {x : α} (hle : start ≤ next) (hx : c.sent[next]? = some x) :
    c.between start (next + 1) = c.between start next ++ [x] := by
  have hlen : next < c.sent.length := (List.getElem?_eq_some_iff.mp hx).1
  unfold between
  rw [List.take_add_one, hx, Option.toList_some, List.drop_append_of_le_length]
  rw [List.length_take]
  omega

/-- Sending leaves what was read. -/
theorem between_send {c : Channel α} {next : Nat} (start : Nat) (x : α) (hle : next ≤ c.sent.length) :
    (c.send x).between start next = c.between start next := by
  unfold between send
  rw [List.take_append_of_le_length hle]

/-- What was read is a prefix of what was sent from the start on. -/
theorem between_prefix (c : Channel α) (start next : Nat) : c.between start next <+: c.sent.drop start := by
  unfold between
  rw [List.drop_take]
  exact List.take_prefix _ _

end Channel

end Broadcast

namespace Watch

/-- A channel as one receiver has it: the value, whether the receiver has seen it, and whether the sender is gone. -/
structure Receiver (α : Type*) where
  value : α
  seen : Bool
  closed : Bool

variable {α : Type*}

/-- The sender sets the value. -/
def Receiver.set (r : Receiver α) (value : α) : Receiver α := { r with value, seen := false }

/-- Whether the receiver is told of a value, or that the sender is gone, and the receiver then; none while there is neither. -/
def Receiver.changed (r : Receiver α) : Option (Bool × Receiver α) :=
  if r.seen = false then some (true, { r with seen := true })
  else if r.closed then some (false, r)
  else none

end Watch
