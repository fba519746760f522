import Mathlib.Data.List.Basic

/-!
# Bounded channels

A channel holds the messages sent and not yet received, oldest first. A sender never waits: a message that finds the channel
full is dropped, so what a sequence of sends leaves is the messages that were there and the first ones sent that had room.
-/

namespace Channel

variable {α : Type*}

/-- Send a message without waiting: it is dropped when the channel is full. -/
def trySend (cap : Nat) (q : List α) (x : α) : List α :=
  if q.length < cap then q ++ [x] else q

/-- With room the message is the last in the channel. -/
theorem trySend_of_lt {cap : Nat} {q : List α} (h : q.length < cap) (x : α) : trySend cap q x = q ++ [x] := if_pos h

/-- Without, it is dropped. -/
theorem trySend_of_le {cap : Nat} {q : List α} (h : cap ≤ q.length) (x : α) : trySend cap q x = q := if_neg (Nat.not_lt.mpr h)

/-- Send messages one after the other. -/
def sendAll (cap : Nat) (q : List α) (xs : List α) : List α := xs.foldl (trySend cap) q

@[simp] theorem sendAll_nil (cap : Nat) (q : List α) : sendAll cap q [] = q := rfl

@[simp] theorem sendAll_cons (cap : Nat) (q : List α) (x : α) (xs : List α) :
    sendAll cap q (x :: xs) = sendAll cap (trySend cap q x) xs := rfl

theorem sendAll_append (cap : Nat) (q xs ys : List α) : sendAll cap q (xs ++ ys) = sendAll cap (sendAll cap q xs) ys :=
  List.foldl_append

/-- What sends leave in the channel: what was there and the messages that had room, in the order sent. -/
theorem sendAll_eq (cap : Nat) (xs : List α) : ∀ q : List α, sendAll cap q xs = q ++ xs.take (cap - q.length) := by
  induction xs with
  | nil => simp
  | cons x xs ih =>
    intro q
    rw [sendAll_cons, ih]
    rcases Nat.lt_or_ge q.length cap with h | h
    · rw [trySend_of_lt h]
      obtain ⟨n, hn⟩ : ∃ n, cap - q.length = n + 1 := ⟨cap - q.length - 1, by omega⟩
      have hn' : cap - (q ++ [x]).length = n := by
        rw [List.length_append, List.length_singleton]
        omega
      rw [hn, hn', List.take_succ_cons, List.append_assoc, List.singleton_append]
    · have h0 : cap - q.length = 0 := Nat.sub_eq_zero_of_le h
      rw [trySend_of_le h, h0, List.take_zero, List.take_zero]

/-- A message in the channel was there or was sent. -/
theorem mem_sendAll {cap : Nat} {q xs : List α} {x : α} (h : x ∈ sendAll cap q xs) : x ∈ q ∨ x ∈ xs := by
  rw [sendAll_eq, List.mem_append] at h
  exact h.imp_right List.mem_of_mem_take

theorem mem_trySend {cap : Nat} {q : List α} {x y : α} (h : x ∈ trySend cap q y) : x ∈ q ∨ x = y :=
  (mem_sendAll (show x ∈ sendAll cap q [y] from h)).imp_right List.mem_singleton.mp

end Channel
