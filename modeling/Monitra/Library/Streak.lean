import Mathlib.Data.List.Infix

/-!
# Streaks

How many times in a row a value stands at the end of a list: what a counter holds that counts one value up and is reset by every
other one. A streak of some length ends somewhere in a list exactly where the value stands that often in a row.
-/

namespace Streak

variable {α : Type*} [DecidableEq α]

/-- The length of the streak of a value at the end of a list. -/
def streak (b : α) (l : List α) : Nat := l.foldl (fun n x => if x = b then n + 1 else 0) 0

@[simp] theorem streak_nil (b : α) : streak b [] = 0 := rfl

theorem streak_snoc (b : α) (l : List α) (x : α) : streak b (l ++ [x]) = if x = b then streak b l + 1 else 0 := by
  rw [streak, List.foldl_append]
  rfl

/-- A streak is as long as the value stands in a row at the end. -/
theorem le_streak_iff (b : α) (l : List α) : ∀ {n : Nat}, n ≤ streak b l ↔ List.replicate n b <:+ l := by
  induction l using List.reverseRecOn with
  | nil =>
    intro n
    rw [streak_nil, Nat.le_zero, List.suffix_nil, List.replicate_eq_nil_iff]
  | append_singleton l x ih =>
    intro n
    rw [streak_snoc]
    cases n with
    | zero => simp
    | succ n =>
      rw [List.replicate_succ']
      constructor
      · intro hle
        split at hle
        · rename_i hx
          obtain ⟨t, ht⟩ := ih.mp (Nat.le_of_succ_le_succ hle)
          exact ⟨t, by rw [← List.append_assoc, ht, hx]⟩
        · cases hle
      · rintro ⟨t, ht⟩
        rw [← List.append_assoc] at ht
        obtain ⟨hl, hx⟩ := List.append_inj' ht rfl
        cases hx
        rw [if_pos rfl]
        exact Nat.succ_le_succ (ih.mpr ⟨t, hl⟩)

/-- A value stands so often in a row somewhere in a list exactly if such a streak ends at some point of it. -/
theorem replicate_infix_iff {n : Nat} {b : α} {l : List α} :
    List.replicate n b <:+: l ↔ ∃ before, before <+: l ∧ n ≤ streak b before := by
  rw [List.infix_iff_suffix_prefix]
  refine exists_congr fun before => ?_
  rw [le_streak_iff, and_comm]

/-- A list of one value is a streak as long as it is. -/
theorem streak_replicate (b : α) (n : Nat) : streak b (List.replicate n b) = n := by
  induction n with
  | zero => rfl
  | succ n ih => rw [List.replicate_succ', streak_snoc, if_pos rfl, ih]

end Streak
