import Mathlib.Data.List.DropRight

/-!
# Bounded queues that lose their oldest

The other bounded queue beside the channel: an item that finds the queue full takes the place of the oldest one. So what is left
of the items put in, one after the other, are the last of them.
-/

namespace Bounded

variable {α : Type*}

/-- Put an item in; a full queue loses its first. -/
def push (cap : Nat) (q : List α) (x : α) : List α := (if cap ≤ q.length then q.drop 1 else q) ++ [x]

/-- What a queue loses when an item is put in. -/
def evicted (cap : Nat) (q : List α) : Option α := if cap ≤ q.length then q.head? else none

/-- Put items in, one after the other. -/
def pushAll (cap : Nat) (q : List α) (xs : List α) : List α := xs.foldl (push cap) q

/-- What a queue loses when items are put in, one after the other. -/
def evictedAll (cap : Nat) : List α → List α → List α
  | _, [] => []
  | q, x :: xs => (evicted cap q).toList ++ evictedAll cap (push cap q x) xs

@[simp] theorem pushAll_nil (cap : Nat) (q : List α) : pushAll cap q [] = q := rfl

@[simp] theorem pushAll_cons (cap : Nat) (q : List α) (x : α) (xs : List α) :
    pushAll cap q (x :: xs) = pushAll cap (push cap q x) xs := rfl

/-- What is lost and what stays are what was there and the new item, in order. -/
theorem evicted_append_push (cap : Nat) (q : List α) (x : α) : (evicted cap q).toList ++ push cap q x = q ++ [x] := by
  unfold evicted push
  split
  · cases q <;> rfl
  · rfl

/-- The same for items put in one after the other: what is lost are the first of them. -/
theorem evictedAll_append_pushAll (cap : Nat) (xs : List α) :
    ∀ q : List α, evictedAll cap q xs ++ pushAll cap q xs = q ++ xs := by
  induction xs with
  | nil =>
    intro q
    rw [evictedAll, pushAll_nil, List.nil_append, List.append_nil]
  | cons x xs ih =>
    intro q
    rw [evictedAll, pushAll_cons, List.append_assoc, ih, ← List.append_assoc, evicted_append_push, List.append_assoc,
      List.singleton_append]

theorem push_of_lt {cap : Nat} {q : List α} (h : q.length < cap) (x : α) : push cap q x = q ++ [x] := by
  rw [push, if_neg (by omega)]

theorem evicted_of_lt {cap : Nat} {q : List α} (h : q.length < cap) : evicted cap q = none := if_neg (by omega)

theorem length_push_le {cap : Nat} {q : List α} (hcap : 1 ≤ cap) (h : q.length ≤ cap) (x : α) : (push cap q x).length ≤ cap := by
  unfold push
  split
  · rw [List.length_append, List.length_drop, List.length_singleton]
    omega
  · rw [List.length_append, List.length_singleton]
    omega

/-- One item more: the last of what was there and it. -/
theorem push_eq_rtake {cap : Nat} {q : List α} (hcap : 1 ≤ cap) (h : q.length ≤ cap) (x : α) :
    push cap q x = (q ++ [x]).rtake cap := by
  unfold push List.rtake
  rw [List.length_append, List.length_singleton]
  split
  · have hone : q.length + 1 - cap = 1 := by omega
    rw [hone, List.drop_append_of_le_length (by omega)]
  · have hzero : q.length + 1 - cap = 0 := by omega
    rw [hzero, List.drop_zero]

/-- What items put in one after the other leave: the last of what was there and they. -/
theorem pushAll_eq_rtake {cap : Nat} (hcap : 1 ≤ cap) (xs : List α) :
    ∀ {q : List α}, q.length ≤ cap → pushAll cap q xs = (q ++ xs).rtake cap := by
  induction xs with
  | nil =>
    intro q h
    have hzero : q.length - cap = 0 := by omega
    rw [pushAll_nil, List.append_nil, List.rtake, hzero, List.drop_zero]
  | cons x xs ih =>
    intro q h
    rw [pushAll_cons, ih (length_push_le hcap h x), push_eq_rtake hcap h]
    -- What the first push drops the last one would have dropped.
    unfold List.rtake
    rw [← List.drop_append_of_le_length (by simp only [List.length_append, List.length_singleton]; omega), List.append_assoc,
      List.singleton_append, List.drop_drop]
    congr 1
    simp only [List.length_append, List.length_drop, List.length_cons, List.length_nil]
    omega

/-- One item more after the last of some. -/
theorem push_rtake {cap : Nat} (hcap : 1 ≤ cap) (xs : List α) (x : α) : push cap (xs.rtake cap) x = (xs ++ [x]).rtake cap := by
  have hall : ∀ ys : List α, pushAll cap [] ys = ys.rtake cap := fun ys =>
    pushAll_eq_rtake hcap ys (Nat.zero_le _)
  rw [← hall, ← hall, pushAll, pushAll, List.foldl_append, List.foldl_cons, List.foldl_nil]

end Bounded
