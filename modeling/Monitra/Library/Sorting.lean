import Mathlib.Data.List.Sort
import Mathlib.Order.Defs.LinearOrder

/-!
# Sorting

The `k`-th smallest of a list, counted from 1 and with repetitions, is said without sorting: fewer than `k` entries are below it,
and at least `k` are not above it. Sorting the list is one way to find it.

A stable sort leaves entries that tie in the order they came in. So what it makes of a list is the same for every order of the
list if only equal entries tie, and the order of two different ones that tie shows.
-/

namespace Sorting

/-! ## Order statistics -/

section

variable {α : Type} [LinearOrder α] {xs ys : List α} {k : Nat} {v : α}

/-- `v` is the `k`-th smallest entry of the list. -/
structure IsKthSmallest (xs : List α) (k : Nat) (v : α) : Prop where
  mem : v ∈ xs
  below : xs.countP (fun x => decide (x < v)) < k
  upTo : k ≤ xs.countP fun x => decide (x ≤ v)

/-- The order of the list does not matter. -/
theorem IsKthSmallest.perm (hp : xs.Perm ys) (h : IsKthSmallest xs k v) : IsKthSmallest ys k v := by
  refine ⟨hp.mem_iff.mp h.mem, ?_, ?_⟩
  · rw [← hp.countP_eq]
    exact h.below
  · rw [← hp.countP_eq]
    exact h.upTo

/-- In a list in order it is the one at place `k`. -/
theorem isKthSmallest_getElem (hs : xs.Pairwise (· ≤ ·)) {i : Nat} (hi : i < xs.length) : IsKthSmallest xs (i + 1) xs[i] := by
  have hle : ∀ j (hj : j < xs.length), j ≤ i → xs[j] ≤ xs[i] := by
    intro j hj hji
    rcases hji.lt_or_eq with hlt | rfl
    · exact List.pairwise_iff_getElem.mp hs j i hj hi hlt
    · exact le_rfl
  have hge : ∀ x ∈ xs.drop i, xs[i] ≤ x := by
    intro x hx
    obtain ⟨j, hj, rfl⟩ := List.mem_iff_getElem.mp hx
    rw [List.length_drop] at hj
    rw [List.getElem_drop]
    rcases Nat.eq_zero_or_pos j with rfl | hpos
    · exact le_rfl
    · exact List.pairwise_iff_getElem.mp hs i (i + j) hi (by omega) (by omega)
  refine ⟨List.getElem_mem hi, ?_, ?_⟩
  · have hdrop : (xs.drop i).countP (fun x => decide (x < xs[i])) = 0 := by
      rw [List.countP_eq_zero]
      exact fun x hx hlt => absurd (of_decide_eq_true hlt) (hge x hx).not_gt
    have htake : (xs.take i).countP (fun x => decide (x < xs[i])) ≤ i :=
      List.countP_le_length.trans (List.length_take_le i xs)
    have hsplit : xs.countP (fun x => decide (x < xs[i])) =
        (xs.take i).countP (fun x => decide (x < xs[i])) + (xs.drop i).countP fun x => decide (x < xs[i]) := by
      rw [← List.countP_append, List.take_append_drop]
    omega
  · have htake : (xs.take (i + 1)).countP (fun x => decide (x ≤ xs[i])) = i + 1 := by
      rw [List.countP_eq_length.mpr, List.length_take_of_le hi]
      intro x hx
      obtain ⟨j, hj, rfl⟩ := List.mem_iff_getElem.mp hx
      rw [List.length_take] at hj
      rw [List.getElem_take]
      exact decide_eq_true (hle j (by omega) (by omega))
    calc i + 1 = (xs.take (i + 1)).countP fun x => decide (x ≤ xs[i]) := htake.symm
      _ ≤ xs.countP fun x => decide (x ≤ xs[i]) := (List.take_sublist _ _).countP_le

/-- So it can be found by sorting. -/
theorem isKthSmallest_insertionSort {i : Nat} (h : (xs.insertionSort (· ≤ ·))[i]? = some v) : IsKthSmallest xs (i + 1) v := by
  obtain ⟨hi, rfl⟩ := List.getElem?_eq_some_iff.mp h
  exact (isKthSmallest_getElem (List.pairwise_insertionSort _ _) hi).perm (List.perm_insertionSort _ _)

end

/-! ## Ties -/

section

variable {α : Type} {r : α → α → Prop} [DecidableRel r] {a b : α} {l l' : List α}

/-- Inserting an entry into a list leaves it before those it ties with. -/
theorem filter_orderedInsert {p : α → Bool} (htie : ∀ x y, p x = true → p y = true → r x y) (x : α) :
    ∀ l : List α, (l.orderedInsert r x).filter p = (x :: l).filter p
  | [] => rfl
  | y :: l => by
    rw [List.orderedInsert_cons]
    split
    · rfl
    · rename_i hnot
      rw [List.filter_cons, filter_orderedInsert htie x l, List.filter_cons, List.filter_cons, List.filter_cons]
      cases hx : p x
      · rfl
      · cases hy : p y
        · rfl
        · exact absurd (htie x y hx hy) hnot

/-- Sorting leaves entries that tie in the order they came in. -/
theorem filter_insertionSort {p : α → Bool} (htie : ∀ x y, p x = true → p y = true → r x y) :
    (l.insertionSort r).filter p = l.filter p := by
  induction l with
  | nil => rfl
  | cons x l ih => rw [List.insertionSort_cons, filter_orderedInsert htie, List.filter_cons, List.filter_cons, ih]

variable [IsTrans α r]

/-- If only equal entries tie, the order of the list does not matter. -/
theorem insertionSort_eq_of_perm [Std.Total r] (hties : ∀ x ∈ l, ∀ y ∈ l, r x y → r y x → x = y) (hp : l.Perm l') :
    l.insertionSort r = l'.insertionSort r := by
  refine List.Perm.eq_of_pairwise (fun x y hx hy => ?_) (List.pairwise_insertionSort r l) (List.pairwise_insertionSort r l') ?_
  · exact hties x ((List.mem_insertionSort r).mp hx) y (hp.mem_iff.mpr ((List.mem_insertionSort r).mp hy))
  · exact ((List.perm_insertionSort r l).trans hp).trans (List.perm_insertionSort r l').symm

/-- If the order of two entries that tie does not matter, they are equal. -/
theorem eq_of_insertionSort_eq (hab : r a b) (hba : r b a)
    (h : (a :: b :: l).insertionSort r = (b :: a :: l).insertionSort r) : a = b := by
  let p : α → Bool := fun x => decide (r a x ∧ r x a)
  have htie : ∀ x y, p x = true → p y = true → r x y := by
    intro x y hx hy
    exact IsTrans.trans _ _ _ (of_decide_eq_true hx).2 (of_decide_eq_true hy).1
  have hself : r a a := IsTrans.trans _ _ _ hab hba
  have hfilter := congrArg (List.filter p) h
  rw [filter_insertionSort htie, filter_insertionSort htie] at hfilter
  have ha : p a = true := decide_eq_true ⟨hself, hself⟩
  have hb : p b = true := decide_eq_true ⟨hab, hba⟩
  rw [List.filter_cons_of_pos ha, List.filter_cons_of_pos (a := b) (l := a :: l) hb] at hfilter
  exact (List.cons.inj hfilter).1

end

end Sorting
