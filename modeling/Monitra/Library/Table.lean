import Mathlib.Algebra.Order.Group.Nat
import Mathlib.Order.Lattice
import Mathlib.Order.Defs.LinearOrder
import Mathlib.Data.List.Basic

/-!
# Tables with a primary key

A table is the list of its rows in the order of their keys, which is the order a scan of a rowid table returns them in. That
the keys increase strictly is a field of the table, so no two rows have the same key and an insert must show that its key is
free. The operations are the ones SQL has: insert a row, update the rows that satisfy a condition by a function that keeps the
key, delete the rows that satisfy a condition, and read the row of a key.

The last part is the choice of a rowid for an insert that names none.
-/

/-- Rows in the strict order of their keys. -/
structure Table {ρ κ : Type} [LinearOrder κ] (key : ρ → κ) where
  rows : List ρ
  sorted : rows.Pairwise (fun a b => key a < key b)
  deriving DecidableEq

namespace Table

variable {ρ κ : Type} [LinearOrder κ] {key : ρ → κ}

/-- The table with no rows. -/
def empty : Table key := ⟨[], List.Pairwise.nil⟩

/-- The keys in use, in order. -/
def keys (t : Table key) : List κ := t.rows.map key

/-- The row of a key. -/
def get? (t : Table key) (k : κ) : Option ρ := t.rows.find? (fun r => decide (key r = k))

/-- Insert a row before the first row with a larger key. -/
def place (key : ρ → κ) (r : ρ) : List ρ → List ρ
  | [] => [r]
  | x :: xs => if key r < key x then r :: x :: xs else x :: place key r xs

/-- The rows after an insert, in some order: the new one and the rows before it. -/
theorem perm_place {r : ρ} : ∀ {l : List ρ}, (place key r l).Perm (r :: l)
  | [] => List.Perm.refl _
  | y :: ys => by
    unfold place
    split
    · exact List.Perm.refl _
    · exact (perm_place.cons y).trans (List.Perm.swap r y ys)

theorem mem_place {r x : ρ} {l : List ρ} : x ∈ place key r l ↔ x = r ∨ x ∈ l := by
  rw [perm_place.mem_iff, List.mem_cons]

/-- The rows that satisfy a condition that the new row does not are as before. -/
theorem filter_place {r : ρ} {p : ρ → Bool} (h : p r = false) : ∀ {l : List ρ}, (place key r l).filter p = l.filter p
  | [] => by simp [place, h]
  | y :: ys => by
    unfold place
    split
    · rw [List.filter_cons_of_neg (by simp [h])]
    · rw [List.filter_cons, List.filter_cons, filter_place h]

/-- Inserting a row whose key is free keeps the order strict. -/
theorem sorted_place {r : ρ} : ∀ {l : List ρ}, l.Pairwise (fun a b => key a < key b) → (∀ x ∈ l, key x ≠ key r) →
    (place key r l).Pairwise (fun a b => key a < key b)
  | [], _, _ => by simp [place]
  | y :: ys, h, hr => by
    rw [List.pairwise_cons] at h
    unfold place
    split
    · rename_i hlt
      refine List.pairwise_cons.mpr ⟨?_, List.pairwise_cons.mpr h⟩
      intro x hx
      rcases List.mem_cons.mp hx with rfl | hx
      · exact hlt
      · exact hlt.trans (h.1 x hx)
    · rename_i hge
      have hy : key y < key r := lt_of_le_of_ne (not_lt.mp hge) (hr y (by simp))
      refine List.pairwise_cons.mpr ⟨?_, sorted_place h.2 fun x hx => hr x (by simp [hx])⟩
      intro x hx
      rcases mem_place.mp hx with rfl | hx
      · exact hy
      · exact h.1 x hx

/-- Insert a row whose key is free. -/
def put (t : Table key) (r : ρ) (h : ∀ x ∈ t.rows, key x ≠ key r) : Table key :=
  ⟨place key r t.rows, sorted_place t.sorted h⟩

/-- Update the rows that satisfy `p` by `f`, which keeps their keys. -/
def update (t : Table key) (p : ρ → Bool) (f : ρ → ρ) (hf : ∀ r, key (f r) = key r) : Table key :=
  ⟨t.rows.map (fun r => if p r then f r else r), by
    refine List.pairwise_map.mpr (t.sorted.imp ?_)
    intro a b hab
    have e : ∀ r, key (if p r then f r else r) = key r := by intro r; split <;> simp [hf]
    simpa only [e] using hab⟩

/-- Delete the rows that satisfy `p`. -/
def delete (t : Table key) (p : ρ → Bool) : Table key :=
  ⟨t.rows.filter (fun r => !p r), t.sorted.filter _⟩

/-- No key is there twice. -/
theorem nodup_keys (t : Table key) : (t.rows.map key).Nodup :=
  (List.pairwise_map.mpr t.sorted).imp fun hlt => hlt.ne

/-- No row is there twice. -/
theorem nodup_rows (t : Table key) : t.rows.Nodup :=
  (List.pairwise_map.mp t.nodup_keys).imp fun hne heq => hne (congrArg key heq)

/-- A row is the row of its key, and of no other: the keys of a table are distinct. -/
theorem get?_eq_some_iff {t : Table key} {k : κ} {r : ρ} : t.get? k = some r ↔ r ∈ t.rows ∧ key r = k := by
  unfold get?
  have hs := t.sorted
  revert hs
  induction t.rows with
  | nil => simp
  | cons x xs ih =>
    intro hs
    rw [List.pairwise_cons] at hs
    have hne : ∀ y ∈ xs, key y ≠ key x := fun y hy => (hs.1 y hy).ne'
    by_cases hx : key x = k
    · simp only [List.find?_cons, hx, decide_true, List.mem_cons, Option.some.injEq]
      constructor
      · rintro rfl
        exact ⟨Or.inl rfl, hx⟩
      · rintro ⟨rfl | hr, hk⟩
        · rfl
        · exact absurd (hk.trans hx.symm) (hne r hr)
    · simp only [List.find?_cons, hx, decide_false, List.mem_cons, ih hs.2]
      constructor
      · exact fun ⟨hr, hk⟩ => ⟨Or.inr hr, hk⟩
      · rintro ⟨rfl | hr, hk⟩
        · exact absurd hk hx
        · exact ⟨hr, hk⟩

theorem get?_eq_none_iff {t : Table key} {k : κ} : t.get? k = none ↔ ∀ r ∈ t.rows, key r ≠ k := by
  unfold get?
  simp

/-- The row of a row's key is the row. -/
theorem get?_of_mem {t : Table key} {r : ρ} (h : r ∈ t.rows) : t.get? (key r) = some r :=
  get?_eq_some_iff.mpr ⟨h, rfl⟩

theorem mem_of_get? {t : Table key} {k : κ} {r : ρ} (h : t.get? k = some r) : r ∈ t.rows :=
  (get?_eq_some_iff.mp h).1

theorem key_of_get? {t : Table key} {k : κ} {r : ρ} (h : t.get? k = some r) : key r = k :=
  (get?_eq_some_iff.mp h).2

@[simp] theorem mem_rows_put {t : Table key} {r x : ρ} {h : ∀ x ∈ t.rows, key x ≠ key r} :
    x ∈ (t.put r h).rows ↔ x = r ∨ x ∈ t.rows :=
  mem_place

@[simp] theorem mem_rows_delete {t : Table key} {p : ρ → Bool} {x : ρ} :
    x ∈ (t.delete p).rows ↔ x ∈ t.rows ∧ p x = false := by
  simp [delete]

theorem mem_rows_update {t : Table key} {p : ρ → Bool} {f : ρ → ρ} {hf : ∀ r, key (f r) = key r} {x : ρ} :
    x ∈ (t.update p f hf).rows ↔ ∃ r ∈ t.rows, (if p r then f r else r) = x := by
  simp [update]

/-- Reading after an insert: the new row at its key, every other key as before. -/
theorem get?_put {t : Table key} {r : ρ} {h : ∀ x ∈ t.rows, key x ≠ key r} (k : κ) :
    (t.put r h).get? k = if key r = k then some r else t.get? k := by
  split
  · rename_i hk
    exact get?_eq_some_iff.mpr ⟨mem_rows_put.mpr (Or.inl rfl), hk⟩
  · rename_i hk
    refine Option.ext fun x => ?_
    rw [get?_eq_some_iff, get?_eq_some_iff, mem_rows_put]
    constructor
    · rintro ⟨rfl | hx, hxk⟩
      · exact absurd hxk hk
      · exact ⟨hx, hxk⟩
    · exact fun ⟨hx, hxk⟩ => ⟨Or.inr hx, hxk⟩

/-- Reading after an update: the row of the key, updated if it satisfies the condition. -/
theorem get?_update {t : Table key} {p : ρ → Bool} {f : ρ → ρ} {hf : ∀ r, key (f r) = key r} (k : κ) :
    (t.update p f hf).get? k = (t.get? k).map (fun r => if p r then f r else r) := by
  have e : ∀ r, key (if p r then f r else r) = key r := by intro r; split <;> simp [hf]
  cases h : t.get? k with
  | none =>
    rw [Option.map_none, get?_eq_none_iff]
    intro x hx
    obtain ⟨r, hr, rfl⟩ := mem_rows_update.mp hx
    rw [e]
    exact get?_eq_none_iff.mp h r hr
  | some r =>
    rw [Option.map_some, get?_eq_some_iff]
    exact ⟨mem_rows_update.mpr ⟨r, mem_of_get? h, rfl⟩, (e r).trans (key_of_get? h)⟩

/-- An update leaves the keys in use. -/
theorem isSome_get?_update {t : Table key} {p : ρ → Bool} {f : ρ → ρ} (hf : ∀ r, key (f r) = key r) (k : κ) :
    ((t.update p f hf).get? k).isSome = (t.get? k).isSome := by
  rw [get?_update, Option.isSome_map]

/-- Reading after a delete: the row of the key, unless it satisfied the condition. -/
theorem get?_delete {t : Table key} {p : ρ → Bool} (k : κ) :
    (t.delete p).get? k = (t.get? k).filter (fun r => !p r) := by
  refine Option.ext fun x => ?_
  simp only [get?_eq_some_iff, mem_rows_delete, Option.filter_eq_some_iff, Bool.not_eq_true', and_right_comm]

/-- Reading after an update of the row of one key. -/
theorem get?_update_key {t : Table key} {k₀ : κ} {f : ρ → ρ} {hf : ∀ r, key (f r) = key r} (k : κ) :
    (t.update (fun r => decide (key r = k₀)) f hf).get? k = (t.get? k).map (fun r => if k = k₀ then f r else r) := by
  rw [get?_update]
  refine Option.map_congr fun r hr => ?_
  simp only [key_of_get? hr, decide_eq_true_eq]

/-- An update that changes no row again is done once. -/
theorem update_update {t : Table key} {p : ρ → Bool} {f : ρ → ρ} {hf : ∀ r, key (f r) = key r}
    (h : ∀ r ∈ t.rows, p r = true → f (f r) = f r) : (t.update p f hf).update p f hf = t.update p f hf := by
  have hrows : ((t.update p f hf).update p f hf).rows = (t.update p f hf).rows := by
    simp only [update, List.map_map]
    refine List.map_congr_left fun r hr => ?_
    simp only [Function.comp_apply]
    by_cases hp : p r = true
    · simp only [hp, if_true, h r hr hp, ite_self]
    · simp only [hp, if_false, Bool.false_eq_true]
  cases h₁ : (t.update p f hf).update p f hf
  cases h₂ : t.update p f hf
  rw [h₁, h₂] at hrows
  cases hrows
  rfl

/-- Reading after a delete of the row of one key. -/
theorem get?_delete_key {t : Table key} {k₀ : κ} (k : κ) :
    (t.delete (fun r => decide (key r = k₀))).get? k = if k = k₀ then none else t.get? k := by
  rw [get?_delete]
  cases h : t.get? k with
  | none => simp
  | some r =>
    split
    · rename_i hk
      simp [key_of_get? h, hk]
    · rename_i hk
      simp [key_of_get? h, hk]

theorem mem_keys {t : Table key} {k : κ} : k ∈ t.keys ↔ ∃ r ∈ t.rows, key r = k := by
  simp [keys]

theorem mem_keys_iff_get? {t : Table key} {k : κ} : k ∈ t.keys ↔ (t.get? k).isSome := by
  rw [mem_keys, Option.isSome_iff_exists]
  simp only [get?_eq_some_iff]

/-- Insert a row if its key is free. -/
def putNew (t : Table key) (r : ρ) : Table key :=
  if h : t.get? (key r) = none then t.put r (get?_eq_none_iff.mp h) else t

/-- The table of some rows. Of two rows with one key the first is taken. -/
def ofRows (key : ρ → κ) (rows : List ρ) : Table key := rows.foldl putNew empty

/-- A row of a new key joins the table. -/
theorem mem_rows_putNew {t : Table key} {r x : ρ} (h : key r ∉ t.keys) :
    x ∈ (t.putNew r).rows ↔ x = r ∨ x ∈ t.rows := by
  have hnone : t.get? (key r) = none := by
    rw [← Option.not_isSome_iff_eq_none, ← mem_keys_iff_get?]
    exact h
  unfold putNew
  rw [dif_pos hnone, mem_rows_put]

/-- Rows of distinct new keys join the table. -/
theorem mem_rows_foldl_putNew {x : ρ} : ∀ {rows : List ρ} {t : Table key}, (rows.map key).Nodup →
    (∀ r ∈ rows, key r ∉ t.keys) → (x ∈ (rows.foldl putNew t).rows ↔ x ∈ rows ∨ x ∈ t.rows)
  | [], t, _, _ => by simp
  | r :: rows, t, hnodup, hnew => by
    rw [List.map_cons, List.nodup_cons] at hnodup
    have hr := hnew r List.mem_cons_self
    have hnew' : ∀ r' ∈ rows, key r' ∉ (t.putNew r).keys := by
      intro r' hr' hk
      obtain ⟨y, hy, hyk⟩ := mem_keys.mp hk
      rcases (mem_rows_putNew hr).mp hy with rfl | hy
      · exact hnodup.1 (List.mem_map.mpr ⟨r', hr', hyk.symm⟩)
      · exact hnew r' (List.mem_cons_of_mem r hr') (mem_keys.mpr ⟨y, hy, hyk⟩)
    rw [List.foldl_cons, mem_rows_foldl_putNew hnodup.2 hnew', mem_rows_putNew hr, List.mem_cons]
    tauto

/-- The table of rows with distinct keys has these rows. -/
theorem mem_rows_ofRows {rows : List ρ} {x : ρ} (h : (rows.map key).Nodup) : x ∈ (ofRows key rows).rows ↔ x ∈ rows := by
  unfold ofRows
  rw [mem_rows_foldl_putNew h (by simp [keys, empty])]
  simp [empty]

/-- The largest key in use: the key of the last row. -/
def lastKey? (t : Table key) : Option κ := t.rows.getLast?.map key

/-- Every key in use is at most the last one. -/
theorem le_lastKey {t : Table key} {m : κ} (h : t.lastKey? = some m) : ∀ r ∈ t.rows, key r ≤ m := by
  unfold lastKey? at h
  have hs := t.sorted
  intro r hr
  obtain ⟨x, hx, rfl⟩ := Option.map_eq_some_iff.mp h
  obtain ⟨l, hl⟩ := List.getLast?_eq_some_iff.mp hx
  rw [hl] at hs hr
  rcases List.mem_append.mp hr with hr | hr
  · exact (List.pairwise_append.mp hs |>.2.2 r hr x (by simp)).le
  · rw [List.mem_singleton.mp hr]

end Table

/-! ## Masks -/

/-- A mask forgets part of some rows, but not their keys. -/
structure Mask {ρ κ : Type} (key : ρ → κ) where
  apply : ρ → ρ
  key_apply : ∀ r, key (apply r) = key r
  apply_apply : ∀ r, apply (apply r) = apply r

namespace Table

variable {ρ κ : Type} [LinearOrder κ] {key : ρ → κ}

/-- The table of what a mask leaves of the rows. -/
def mask (m : Mask key) (t : Table key) : Table key :=
  ⟨t.rows.map m.apply, by
    refine List.pairwise_map.mpr (t.sorted.imp ?_)
    intro a b hab
    simpa only [m.key_apply] using hab⟩

theorem eq_of_rows {t t' : Table key} (h : t.rows = t'.rows) : t = t' := by
  cases t
  cases t'
  cases h
  rfl

@[simp] theorem keys_mask (m : Mask key) (t : Table key) : (t.mask m).keys = t.keys := by
  simp [keys, mask, m.key_apply]

@[simp] theorem mask_mask (m : Mask key) (t : Table key) : (t.mask m).mask m = t.mask m :=
  eq_of_rows (by simp [mask, m.apply_apply])

/-- Reading through a mask. -/
theorem get?_mask (m : Mask key) (t : Table key) (k : κ) : (t.mask m).get? k = (t.get? k).map m.apply := by
  unfold get? mask
  simp only [List.find?_map, Function.comp_def, m.key_apply]

theorem isSome_get?_mask (m : Mask key) (t : Table key) (k : κ) : ((t.mask m).get? k).isSome = (t.get? k).isSome := by
  rw [get?_mask, Option.isSome_map]

/-- An update that neither reads nor writes what the mask forgets. -/
theorem update_mask (m : Mask key) (t : Table key) {p : ρ → Bool} {f : ρ → ρ} (hf : ∀ r, key (f r) = key r)
    (hp : ∀ r, p (m.apply r) = p r) (hm : ∀ r, f (m.apply r) = m.apply (f r)) :
    (t.mask m).update p f hf = (t.update p f hf).mask m := by
  refine eq_of_rows ?_
  simp only [mask, update, List.map_map]
  refine List.map_congr_left fun r _ => ?_
  simp only [Function.comp_apply, hp]
  split
  · exact hm r
  · rfl

/-- An update under a mask that hides what it reads of what the mask forgets. -/
theorem mask_update_mask (m : Mask key) (t : Table key) {p : ρ → Bool} {f : ρ → ρ} (hf : ∀ r, key (f r) = key r)
    (hp : ∀ r, p (m.apply r) = p r) (hm : ∀ r, m.apply (f (m.apply r)) = m.apply (f r)) :
    ((t.mask m).update p f hf).mask m = (t.update p f hf).mask m := by
  refine eq_of_rows ?_
  simp only [mask, update, List.map_map]
  refine List.map_congr_left fun r _ => ?_
  simp only [Function.comp_apply, hp]
  split
  · exact hm r
  · exact m.apply_apply r

/-- An update of what a mask forgets is not seen. -/
theorem mask_update (m : Mask key) (t : Table key) {p : ρ → Bool} {f : ρ → ρ} (hf : ∀ r, key (f r) = key r)
    (hm : ∀ r, p r = true → m.apply (f r) = m.apply r) : (t.update p f hf).mask m = t.mask m := by
  refine eq_of_rows ?_
  simp only [mask, update, List.map_map]
  refine List.map_congr_left fun r _ => ?_
  simp only [Function.comp_apply]
  split
  · rename_i hr
    exact hm r hr
  · rfl

theorem delete_mask (m : Mask key) (t : Table key) {p : ρ → Bool} (hp : ∀ r, p (m.apply r) = p r) :
    (t.mask m).delete p = (t.delete p).mask m := by
  refine eq_of_rows ?_
  simp only [mask, delete, List.filter_map, Function.comp_def, hp]

/-- Placing a row among others that are all seen through a mask. -/
theorem map_place (m : Mask key) (r : ρ) :
    ∀ l : List ρ, (place key r l).map m.apply = place key (m.apply r) (l.map m.apply)
  | [] => rfl
  | x :: xs => by
    have ih := map_place m r xs
    unfold place
    simp only [List.map_cons, m.key_apply]
    split
    · rfl
    · rw [List.map_cons, ih]

end Table

/-! ## Rowids -/

/-- The signed 64-bit integers in their order. -/
instance Int64.instLinearOrder : LinearOrder Int64 where
  le_refl := Int64.le_refl
  le_trans _ _ _ := Int64.le_trans
  le_antisymm _ _ := Int64.le_antisymm
  le_total := Int64.le_total
  lt_iff_le_not_ge a b := by
    rw [Int64.lt_iff_toInt_lt, Int64.le_iff_toInt_le, Int64.le_iff_toInt_le]
    omega
  toDecidableLE := inferInstance
  toDecidableEq := inferInstance
  toDecidableLT := inferInstance

namespace Table

variable {ρ : Type} {key : ρ → Int64}

/-- The rowid an insert that names none is given: 1 in an empty table, else one more than the largest in use; when that is
the largest there is, a positive one not in use, found by a random search (`pick`, which sees the ones in use). -/
def nextRowid (t : Table key) (pick : List Int64 → Int64) : Option Int64 :=
  match t.lastKey? with
  | none => some 1
  | some m =>
    if m < Int64.maxValue then some (m + 1)
    else if 0 < pick t.keys ∧ pick t.keys ∉ t.keys then some (pick t.keys) else none

/-- A rowid that has a larger one is smaller than its successor. -/
theorem lt_succ_of_lt_max {m : Int64} (h : m < Int64.maxValue) : m < m + 1 := by
  have hmax : Int64.maxValue.toInt = 2 ^ 63 - 1 := rfl
  have hone : (1 : Int64).toInt = 1 := rfl
  have hlt := Int64.lt_iff_toInt_lt.mp h
  have hge := Int64.le_toInt m
  rw [Int64.lt_iff_toInt_lt, Int64.toInt_add, hone, Int.bmod_eq_of_le (by omega) (by omega)]
  omega

/-- The rowid chosen is not in use. -/
theorem nextRowid_fresh {t : Table key} {pick : List Int64 → Int64} {k : Int64} (h : t.nextRowid pick = some k) :
    ∀ r ∈ t.rows, key r ≠ k := by
  unfold nextRowid at h
  intro r hr hk
  cases hl : t.lastKey? with
  | none =>
    unfold lastKey? at hl
    rw [Option.map_eq_none_iff, List.getLast?_eq_none_iff] at hl
    rw [hl] at hr
    cases hr
  | some m =>
    simp only [hl] at h
    split at h
    · rename_i hm
      have hle := le_lastKey hl r hr
      have hk' : key r = m + 1 := hk.trans (Option.some.inj h).symm
      exact absurd (lt_succ_of_lt_max hm) (not_lt.mpr (hk' ▸ hle))
    · split at h
      · rename_i hp
        refine hp.2 ?_
        rw [Option.some.inj h]
        exact mem_keys.mpr ⟨r, hr, hk⟩
      · cases h

/-- The rowid chosen is at most one more than what bounds those in use. -/
theorem nextRowid_le {t : Table key} {pick : List Int64 → Int64} {k : Int64} {n : Nat}
    (hn : ∀ r ∈ t.rows, (key r).toInt ≤ n) (h : t.nextRowid pick = some k) : k.toInt ≤ n + 1 := by
  have hone : (1 : Int64).toInt = 1 := rfl
  unfold nextRowid at h
  split at h
  · cases h
    rw [hone]
    omega
  · rename_i m hm
    obtain ⟨r, hr, rfl⟩ := Option.map_eq_some_iff.mp hm
    have hr := hn r (List.mem_of_getLast? hr)
    split at h
    · cases h
      refine le_trans ?_ (Int.add_le_add_right hr 1)
      rw [Int64.toInt_add, hone]
      have hlo := Int64.le_toInt (key r)
      have hhi := Int64.toInt_lt (key r)
      by_cases hmax : (key r).toInt + 1 < 2 ^ 63
      · rw [Int.bmod_eq_of_le (by omega) (by omega)]
      · have hbmod := @Int.bmod_le ((key r).toInt + 1) (2 ^ 64) (by decide)
        omega
    · rename_i hmax
      have hlast : (key r).toInt = 2 ^ 63 - 1 := by
        have hm' : Int64.maxValue.toInt = 2 ^ 63 - 1 := rfl
        have hge := Int64.le_iff_toInt_le.mp (Int64.not_lt.mp hmax)
        have hhi := Int64.toInt_lt (key r)
        omega
      have hhi := Int64.toInt_lt k
      omega

/-- No rowid is found only when the largest one is in use. -/
theorem le_of_nextRowid_none {t : Table key} {pick : List Int64 → Int64} {n : Nat}
    (hn : ∀ r ∈ t.rows, (key r).toInt ≤ n) (h : t.nextRowid pick = none) : 2 ^ 63 ≤ n + 1 := by
  unfold nextRowid at h
  split at h
  · cases h
  · rename_i m hm
    obtain ⟨r, hr, rfl⟩ := Option.map_eq_some_iff.mp hm
    have hr := hn r (List.mem_of_getLast? hr)
    split at h
    · cases h
    · rename_i hmax
      have hm' : Int64.maxValue.toInt = 2 ^ 63 - 1 := rfl
      have hge := Int64.le_iff_toInt_le.mp (Int64.not_lt.mp hmax)
      omega

/-- Insert the row `mk` makes of the rowid chosen for it. None when the search finds no rowid. -/
def insertRow (t : Table key) (mk : Int64 → ρ) (hmk : ∀ k, key (mk k) = k) (pick : List Int64 → Int64) :
    Option (Table key × Int64) :=
  match h : t.nextRowid pick with
  | none => none
  | some k => some (t.put (mk k) (by rw [hmk]; exact nextRowid_fresh h), k)

/-- What an insert does: the new row joins the table at a rowid that was not in use. -/
theorem insertRow_eq_some {t t' : Table key} {mk : Int64 → ρ} {hmk : ∀ k, key (mk k) = k} {pick : List Int64 → Int64}
    {k : Int64} (h : t.insertRow mk hmk pick = some (t', k)) :
    t.nextRowid pick = some k ∧ t.get? k = none ∧ t'.rows.Perm (mk k :: t.rows) ∧
      ∀ j, t'.get? j = if k = j then some (mk k) else t.get? j := by
  unfold insertRow at h
  split at h
  · cases h
  · rename_i k' hk'
    simp only [Option.some.injEq, Prod.mk.injEq] at h
    obtain ⟨rfl, rfl⟩ := h
    refine ⟨hk', get?_eq_none_iff.mpr (nextRowid_fresh hk'), perm_place, fun j => ?_⟩
    rw [get?_put, hmk]

/-- After an insert the rowids are at most one more than what bounded them before. -/
theorem insertRow_le {t t' : Table key} {mk : Int64 → ρ} {hmk : ∀ k, key (mk k) = k} {pick : List Int64 → Int64} {k : Int64}
    {n : Nat} (hn : ∀ r ∈ t.rows, (key r).toInt ≤ n) (h : t.insertRow mk hmk pick = some (t', k)) :
    ∀ r ∈ t'.rows, (key r).toInt ≤ (n + 1 : Nat) := by
  obtain ⟨hnext, -, hperm, -⟩ := insertRow_eq_some h
  intro r hr
  rcases List.mem_cons.mp (hperm.mem_iff.mp hr) with rfl | hr
  · rw [hmk]
    exact nextRowid_le hn hnext
  · have hle := hn r hr
    omega

/-- An update leaves the rowids. -/
theorem update_le {t : Table key} {p : ρ → Bool} {f : ρ → ρ} {n : Nat} (hn : ∀ r ∈ t.rows, (key r).toInt ≤ n)
    (hf : ∀ r, key (f r) = key r) {r : ρ} (hr : r ∈ (t.update p f hf).rows) : (key r).toInt ≤ n := by
  obtain ⟨r₀, hr₀, rfl⟩ := mem_rows_update.mp hr
  split
  · rw [hf]
    exact hn r₀ hr₀
  · exact hn r₀ hr₀

/-- An insert finds no rowid only when the largest one is in use. -/
theorem le_of_insertRow_none {t : Table key} {mk : Int64 → ρ} {hmk : ∀ k, key (mk k) = k} {pick : List Int64 → Int64}
    {n : Nat} (hn : ∀ r ∈ t.rows, (key r).toInt ≤ n) (h : t.insertRow mk hmk pick = none) : 2 ^ 63 ≤ n + 1 := by
  unfold insertRow at h
  split at h
  · rename_i hnone
    exact le_of_nextRowid_none hn hnone
  · cases h

/-- The rowid chosen depends on the ones in use. -/
theorem nextRowid_congr {t t' : Table key} (h : t.keys = t'.keys) (pick : List Int64 → Int64) :
    t.nextRowid pick = t'.nextRowid pick := by
  have hlast : t.lastKey? = t'.lastKey? := by
    unfold keys at h
    rw [lastKey?, lastKey?, ← List.getLast?_map, ← List.getLast?_map, h]
  unfold nextRowid
  rw [hlast, h]

/-- An insert through a mask takes the same rowid. -/
theorem insertRow_mask (m : Mask key) {t t' : Table key} {mk : Int64 → ρ} {hmk : ∀ k, key (mk k) = k}
    {pick : List Int64 → Int64} {k : Int64} (h : t.insertRow mk hmk pick = some (t', k)) :
    ∃ t'', (t.mask m).insertRow mk hmk pick = some (t'', k) ∧ t''.mask m = t'.mask m := by
  have hnext : (t.mask m).nextRowid pick = some k := by
    rw [nextRowid_congr (keys_mask m t), (insertRow_eq_some h).1]
  unfold insertRow at h ⊢
  split at h
  · cases h
  · cases h
    split
    · rename_i hnone
      cases hnone.symm.trans hnext
    · rename_i k' hk'
      cases hk'.symm.trans hnext
      refine ⟨_, rfl, eq_of_rows ?_⟩
      simp only [mask, put, map_place, List.map_map]
      congr 1
      exact List.map_congr_left fun r _ => m.apply_apply r

/-- An insert through a mask finds no rowid where there is none. -/
theorem insertRow_mask_none (m : Mask key) {t : Table key} {mk : Int64 → ρ} {hmk : ∀ k, key (mk k) = k}
    {pick : List Int64 → Int64} (h : t.insertRow mk hmk pick = none) : (t.mask m).insertRow mk hmk pick = none := by
  cases hm : (t.mask m).insertRow mk hmk pick with
  | none => rfl
  | some x =>
    have hnext : t.nextRowid pick = some x.2 := by
      rw [← nextRowid_congr (keys_mask m t), (insertRow_eq_some hm).1]
    unfold insertRow at h
    split at h
    · rename_i hnone
      cases hnone.symm.trans hnext
    · cases h

/-- An insert leaves the rows that satisfy a condition that the new row does not. -/
theorem filter_insertRow {t t' : Table key} {mk : Int64 → ρ} {hmk : ∀ k, key (mk k) = k} {pick : List Int64 → Int64}
    {k : Int64} {p : ρ → Bool} (h : t.insertRow mk hmk pick = some (t', k)) (hp : p (mk k) = false) :
    t'.rows.filter p = t.rows.filter p := by
  unfold insertRow at h
  split at h
  · cases h
  · cases h
    exact filter_place hp

end Table
