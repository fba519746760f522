import Mathlib.Data.List.Basic
import Mathlib.Tactic.Ring

/-!
# Periodic timers

A timer with a deadline fires when it is looked at no earlier than its deadline, and then gets the next one: the deadline it had
plus the interval, so that looking late does not shift it, or, when that has come too, the moment of looking plus the interval,
so that it does not fire over and over to catch up. `Fires` is a sequence of firings, whenever the timer was looked at.
-/

namespace Periodic

/-- The deadline after a firing. -/
def next (interval deadline now : Nat) : Nat := if deadline + interval ≤ now then now + interval else deadline + interval

/-- A firing: the deadline it was for, when it was, and the deadline after it. -/
structure Firing where
  deadline : Nat
  now : Nat
  next : Nat
  deriving DecidableEq, Repr

/-- The firings of a timer from a starting deadline on, and the deadline they lead to. -/
inductive Fires (interval start : Nat) : List Firing → Nat → Prop where
  | nil : Fires interval start [] start
  | snoc {firings : List Firing} {deadline now : Nat} (h : Fires interval start firings deadline) (hdue : deadline ≤ now) :
      Fires interval start (firings ++ [⟨deadline, now, next interval deadline now⟩]) (next interval deadline now)

section

variable {interval start deadline now : Nat} {firings : List Firing}

/-! ## One firing -/

theorem add_le_next (interval deadline now : Nat) : deadline + interval ≤ next interval deadline now := by
  unfold next
  split <;> omega

/-- A timer does not come due again at the moment it fires. -/
theorem lt_next (hpos : 0 < interval) (deadline now : Nat) : now < next interval deadline now := by
  unfold next
  split <;> omega

theorem next_le (hdue : deadline ≤ now) : next interval deadline now ≤ now + interval := by
  unfold next
  split <;> omega

/-- Less than an interval late, the deadline stays on the grid. -/
theorem next_of_lt (hlate : now < deadline + interval) : next interval deadline now = deadline + interval := by
  unfold next
  rw [if_neg (by omega)]

theorem next_of_le (hlate : deadline + interval ≤ now) : next interval deadline now = now + interval := by
  unfold next
  rw [if_pos hlate]

/-! ## Many firings -/

/-- What every firing is. -/
theorem Fires.of_mem (h : Fires interval start firings deadline) {x : Firing} (hx : x ∈ firings) :
    x.deadline ≤ x.now ∧ x.next = Periodic.next interval x.deadline x.now := by
  induction h with
  | nil => cases hx
  | snoc _ hdue ih =>
    rcases List.mem_append.mp hx with hx | hx
    · exact ih hx
    · rw [List.mem_singleton.mp hx]
      exact ⟨hdue, rfl⟩

/-- The firings up to the `k`-th lead to the deadline that it is for. -/
theorem Fires.take (h : Fires interval start firings deadline) {k : Nat} {x : Firing} (hk : firings[k]? = some x) :
    Fires interval start (firings.take k) x.deadline := by
  induction h with
  | nil => cases hk
  | @snoc firings deadline now h hdue ih =>
    rcases Nat.lt_trichotomy k firings.length with hlt | rfl | hgt
    · rw [List.getElem?_append_left hlt] at hk
      rw [List.take_append_of_le_length hlt.le]
      exact ih hk
    · rw [List.getElem?_concat_length] at hk
      cases hk
      rw [List.take_left]
      exact h
    · rw [List.getElem?_eq_none (by simp; omega)] at hk
      cases hk

/-- The firings since a moment: after `n + 1` of them the deadline is more than `n` intervals after it. -/
theorem Fires.lt_of_countP (hpos : 0 < interval) (h : Fires interval start firings deadline) {from' n : Nat}
    (hn : firings.countP (fun x => decide (from' ≤ x.now)) = n + 1) : from' + n * interval < deadline := by
  induction h generalizing n with
  | nil => cases hn
  | @snoc firings deadline now h hdue ih =>
    rw [List.countP_append, List.countP_singleton] at hn
    have hstep := add_le_next interval deadline now
    have hnow := lt_next hpos deadline now
    by_cases hfrom : from' ≤ now
    · rw [if_pos (by simpa using hfrom)] at hn
      cases n with
      | zero => omega
      | succ n =>
        have hlt := ih (n := n) (by omega)
        have hmul : (n + 1) * interval = n * interval + interval := by ring
        omega
    · rw [if_neg (by simpa using hfrom)] at hn
      have hlt := ih (n := n) (by omega)
      omega

/-- In a window a timer fires at most as often as the interval goes into it, and twice more. -/
theorem Fires.countP_le (hpos : 0 < interval) (h : Fires interval start firings deadline) (from' length : Nat) :
    firings.countP (fun x => decide (from' ≤ x.now ∧ x.now ≤ from' + length)) ≤ length / interval + 2 := by
  induction h with
  | nil => exact Nat.zero_le _
  | @snoc firings deadline now h hdue ih =>
    rw [List.countP_append, List.countP_singleton]
    by_cases hin : from' ≤ now ∧ now ≤ from' + length
    · rw [if_pos (decide_eq_true hin)]
      have hle : firings.countP (fun x => decide (from' ≤ x.now ∧ x.now ≤ from' + length)) ≤
          firings.countP (fun x => decide (from' ≤ x.now)) :=
        List.countP_mono_left fun x _ hx => by simpa using (of_decide_eq_true hx).1
      cases hn : firings.countP (fun x => decide (from' ≤ x.now)) with
      | zero => exact Nat.add_le_add (hle.trans (hn.trans_le (Nat.zero_le _))) (by omega)
      | succ n =>
        -- all but the first are spread over the window, an interval apart
        have hlt := h.lt_of_countP hpos hn
        have hdiv : n ≤ length / interval := (Nat.le_div_iff_mul_le hpos).mpr (by omega)
        rw [hn] at hle
        omega
    · rw [if_neg (by rwa [decide_eq_true_iff])]
      omega

/-- A timer that is always looked at less than an interval late keeps to its grid. -/
theorem Fires.deadline_eq (h : Fires interval start firings deadline) (hlate : ∀ x ∈ firings, x.now < x.deadline + interval) :
    deadline = start + firings.length * interval := by
  induction h with
  | nil => simp
  | @snoc firings deadline now h hdue ih =>
    have hd := ih fun x hx => hlate x (List.mem_append_left _ hx)
    have hlt : now < deadline + interval := hlate _ (List.mem_append_right _ List.mem_cons_self)
    rw [next_of_lt hlt, List.length_append, List.length_singleton, Nat.add_mul, Nat.one_mul]
    omega

end

end Periodic
