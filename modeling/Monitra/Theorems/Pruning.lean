import Monitra.Engine.Pruner
import Monitra.Theorems.Retention

/-!
# What a pass of the pruner does

A batch that is not full says that nothing is left, and one that is says nothing; so a pass counts what is left exactly when its
last batch was full, and reports what there is however it ended.
-/

namespace Monitra

open Runs Pruner

/-- The moment that results are kept from on: the time less the retention, and no earlier than the epoch. -/
def pruneCutoff (clock : Int64) (retentionSecs : UInt64) : Nat := clock.toNatClampNeg - retentionSecs.toNat

/-- The stored time of a result is before a moment. -/
def CheckResultRow.olderThan (moment : Nat) (row : CheckResultRow) : Bool := decide (row.checkedAt.toInt < moment)

/-- The stored results from before a moment. -/
def Db.olderThan (db : Db) (moment : Nat) : List CheckResultRow := db.checkResults.rows.filter (·.olderThan moment)

/-- Nobody else adds or takes away results that are to be pruned. -/
def oldLeft (s : Pruning) (a : PrunerAction) : Bool :=
  match a with
  | .store _ _ => (s.step a).all fun x => decide (x.1.db.prunable s.cutoff = s.db.prunable s.cutoff)
  | _ => true

namespace PruningAux

/-! ## Integers -/

theorem toNat_saturatingAdd {a b : UInt64} (h : a.toNat + b.toNat < 2 ^ 64) : (saturatingAdd a b).toNat = a.toNat + b.toNat := by
  rw [saturatingAdd, Nat.min_eq_left (by omega), UInt64.toNat_ofNat_of_lt' h]

theorem toNat_toUInt64 {n : Nat} (h : n < 2 ^ 64) : n.toUInt64.toNat = n := UInt64.toNat_ofNat_of_lt' h

theorem toNat_nowUnixSecs (clock : Int64) : (nowUnixSecs clock).toNat = clock.toNatClampNeg := by
  unfold nowUnixSecs
  split
  · rename_i hneg
    have hle : clock.toInt ≤ 0 := (Int64.lt_iff_toInt_lt.mp hneg).le
    exact (Int.toNat_of_nonpos hle).symm
  · rename_i hpos
    exact Int64.toNat_toUInt64_of_le (Int64.not_lt.mp hpos)

/-- The cutoff is a moment that a column can hold. -/
theorem toInt_cutoff (clock : Int64) (retentionSecs : UInt64) :
    (Service.saturatingSub (nowUnixSecs clock) retentionSecs).toInt64.toInt = pruneCutoff clock retentionSecs := by
  have hnat : (Service.saturatingSub (nowUnixSecs clock) retentionSecs).toNat = pruneCutoff clock retentionSecs := by
    rw [RetentionAux.toNat_saturatingSub, toNat_nowUnixSecs, pruneCutoff]
  have hlt := Int64.toNatClampNeg_lt clock
  rw [Word.toInt_toInt64_of_lt (by rw [hnat, pruneCutoff]; omega), hnat]

/-- What the statements of the pruner select are the results from before the cutoff. -/
theorem prunable_eq (db : Db) (clock : Int64) (retentionSecs : UInt64) :
    db.prunable (Service.saturatingSub (nowUnixSecs clock) retentionSecs) = db.olderThan (pruneCutoff clock retentionSecs) := by
  unfold Db.prunable Db.olderThan CheckResultRow.olderThan
  simp only [Int64.lt_iff_toInt_lt, toInt_cutoff]

/-! ## One batch -/

/-- Among the rows of a table, those with the id of some of them are these. -/
theorem contains_id_iff {t : Table CheckResultRow.id} {rows : List CheckResultRow} (hsub : ∀ r ∈ rows, r ∈ t.rows)
    {row : CheckResultRow} (hrow : row ∈ t.rows) : (rows.map (·.id)).contains row.id = true ↔ row ∈ rows := by
  rw [List.contains_iff_mem, List.mem_map]
  constructor
  · rintro ⟨r, hr, hid⟩
    have hget := Table.get?_of_mem (hsub r hr)
    rw [hid, Table.get?_of_mem hrow] at hget
    rwa [Option.some.inj hget]
  · intro h
    exact ⟨row, h, rfl⟩

/-- A batch deletes the first of the old rows, and the others are the old rows that are left. -/
theorem perm_pruneInOrder {db : Db} {cutoff : UInt64} {old : List CheckResultRow} (hold : old.Perm (db.prunable cutoff)) :
    (db.checkResults.rows.filter fun row =>
        !(db.pruneInOrder old BATCH_SIZE).1.checkResults.rows.contains row).Perm (old.take 10000) ∧
      ((db.pruneInOrder old BATCH_SIZE).1.prunable cutoff).Perm (old.drop 10000) := by
  have hmem : ∀ row, row ∈ old ↔ row ∈ db.checkResults.rows ∧ row.checkedAt < cutoff.toInt64 := by
    intro row
    rw [hold.mem_iff, Db.prunable, List.mem_filter, decide_eq_true_iff]
  have hnodup : (old.take 10000 ++ old.drop 10000).Nodup := by
    rw [List.take_append_drop, hold.nodup_iff]
    exact db.checkResults.nodup_rows.filter _
  have hsub : ∀ r ∈ old.take 10000, r ∈ db.checkResults.rows := fun r hr => ((hmem r).mp (List.mem_of_mem_take hr)).1
  have hstays : ∀ row, row ∈ (db.pruneInOrder old BATCH_SIZE).1.checkResults.rows ↔
      row ∈ db.checkResults.rows ∧ row ∉ old.take 10000 := by
    intro row
    have hrows : row ∈ (db.pruneInOrder old BATCH_SIZE).1.checkResults.rows ↔
        row ∈ db.checkResults.rows ∧ ((old.take 10000).map (·.id)).contains row.id = false := Table.mem_rows_delete
    rw [hrows]
    refine and_congr_right fun hrow => ?_
    rw [← contains_id_iff hsub hrow, Bool.not_eq_true]
  constructor
  · refine (List.perm_ext_iff_of_nodup (db.checkResults.nodup_rows.filter _) (List.nodup_append.mp hnodup).1).mpr fun row => ?_
    rw [List.mem_filter, Bool.not_eq_true', ← Bool.not_eq_true, List.contains_iff_mem, hstays]
    constructor
    · rintro ⟨hrow, hnot⟩
      by_contra htake
      exact hnot ⟨hrow, htake⟩
    · intro htake
      exact ⟨hsub row htake, fun h => h.2 htake⟩
  · refine (List.perm_ext_iff_of_nodup ((Table.nodup_rows _).filter _) (List.nodup_append.mp hnodup).2.1).mpr fun row => ?_
    rw [List.mem_filter, hstays, decide_eq_true_iff]
    constructor
    · rintro ⟨⟨hrow, hnot⟩, hlt⟩
      have hmem' : row ∈ old.take 10000 ++ old.drop 10000 := by
        rw [List.take_append_drop]
        exact (hmem row).mpr ⟨hrow, hlt⟩
      exact (List.mem_append.mp hmem').resolve_left hnot
    · intro hdrop
      obtain ⟨hrow, hlt⟩ := (hmem row).mp (List.mem_of_mem_drop hdrop)
      exact ⟨⟨hrow, fun htake => (List.nodup_append.mp hnodup).2.2 row htake row hdrop rfl⟩, hlt⟩

/-- The count of a batch is the number of rows it deletes. -/
theorem toNat_count (db : Db) (old : List CheckResultRow) :
    (db.pruneInOrder old BATCH_SIZE).2.toNat = min 10000 old.length := by
  change (old.take 10000).length.toUInt64.toNat = _
  rw [List.length_take, toNat_toUInt64 (by omega)]

/-! ## A pass -/

/-- The rows counted so far, if the pass has not failed. -/
def counted : PrunerPc → Option UInt64
  | .batch _ rows _ | .counting rows => some rows
  | .done (.ok result) => some result.rows
  | .done (.error _) => none

/-- What a pass has done: the old rows are those deleted and those left, it has counted those deleted, and before it counts what is
left it knows that nothing is unless the last batch was full. -/
structure Inv (db₀ : Db) (cutoff : UInt64) (maxBatches : Nat) (s : Pruning) (log : List (List CheckResultRow)) : Prop where
  same : s.cutoff = cutoff
  perm : (db₀.prunable cutoff).Perm (log.flatten ++ s.db.prunable cutoff)
  short : log.flatten.length ≤ log.length * 10000
  turns : log.length ≤ maxBatches ∧ ∀ turns rows lastFull, s.pc = .batch turns rows lastFull → log.length + turns ≤ maxBatches
  rows : ∀ rows, counted s.pc = some rows → rows.toNat = log.flatten.length
  first : ∀ turns rows, s.pc = .batch turns rows false → log = []
  backlog : ∀ result, s.pc = .done (.ok result) → log ≠ [] →
    result.backlog.toNat = min 1000000 (s.db.prunable cutoff).length

variable {db₀ : Db} {cutoff : UInt64} {maxBatches : Nat} {s s' : Pruning} {log : List (List CheckResultRow)}

/-- The loop ends with its head. -/
theorem Inv.leave (hI : Inv db₀ cutoff maxBatches s log) {turns : Nat} {rows : UInt64} {lastFull : Bool}
    (hpc : s.pc = .batch turns rows lastFull) : Inv db₀ cutoff maxBatches { s with pc := Pruning.leave rows lastFull } log := by
  have hrows := hI.rows rows (by rw [hpc]; rfl)
  cases lastFull with
  | true =>
    refine ⟨hI.same, hI.perm, hI.short, ⟨hI.turns.1, ?_⟩, ?_, ?_, ?_⟩
    · intro turns' rows' lastFull' h
      cases h
    · intro rows' h
      cases h
      exact hrows
    · intro turns' rows' h
      cases h
    · intro result h
      cases h
  | false =>
    refine ⟨hI.same, hI.perm, hI.short, ⟨hI.turns.1, ?_⟩, ?_, ?_, ?_⟩
    · intro turns' rows' lastFull' h
      cases h
    · intro rows' h
      cases h
      exact hrows
    · intro turns' rows' h
      cases h
    · intro result _ hlog
      exact absurd (hI.first turns rows hpc) hlog

/-- A pass that fails keeps what it had done. -/
theorem Inv.fail (hI : Inv db₀ cutoff maxBatches s log) (source : StorageError) :
    Inv db₀ cutoff maxBatches { s with pc := .done (.error source) } log where
  same := hI.same
  perm := hI.perm
  short := hI.short
  turns := ⟨hI.turns.1, fun _ _ _ h => by cases h⟩
  rows _ h := by cases h
  first _ _ h := by cases h
  backlog _ h := by cases h

/-- A batch that the store carries out. -/
theorem Inv.batch (hI : Inv db₀ cutoff maxBatches s log) (hsize : (db₀.prunable cutoff).length < 2 ^ 64) {turns : Nat}
    {rows : UInt64} {lastFull : Bool} (hpc : s.pc = .batch (turns + 1) rows lastFull) {old : List CheckResultRow}
    (hold : old.Perm (s.db.prunable s.cutoff)) :
    Inv db₀ cutoff maxBatches
      { s with
        db := (s.db.pruneInOrder old BATCH_SIZE).1
        pc := if (s.db.pruneInOrder old BATCH_SIZE).2 = BATCH_SIZE then
            .batch turns (saturatingAdd rows (s.db.pruneInOrder old BATCH_SIZE).2) true
          else Pruning.leave (saturatingAdd rows (s.db.pruneInOrder old BATCH_SIZE).2) false }
      (log ++ [s.db.checkResults.rows.filter fun row =>
        !(s.db.pruneInOrder old BATCH_SIZE).1.checkResults.rows.contains row]) := by
  rw [hI.same] at hold
  obtain ⟨hdeleted, hleft⟩ := perm_pruneInOrder hold
  have hcount := toNat_count s.db old
  generalize (s.db.checkResults.rows.filter fun row =>
    !(s.db.pruneInOrder old BATCH_SIZE).1.checkResults.rows.contains row) = deleted at hdeleted
  generalize s.db.pruneInOrder old BATCH_SIZE = x at hleft hcount
  obtain ⟨db, count⟩ := x
  simp only at hleft hcount ⊢
  have hlength : deleted.length = min 10000 old.length := by rw [hdeleted.length_eq, List.length_take]
  have hflatten : (log ++ [deleted]).flatten = log.flatten ++ deleted := by
    rw [List.flatten_append, List.flatten_cons, List.flatten_nil, List.append_nil]
  have hperm : (db₀.prunable cutoff).Perm ((log ++ [deleted]).flatten ++ db.prunable cutoff) := by
    rw [hflatten, List.append_assoc]
    refine hI.perm.trans (List.Perm.append_left _ ?_)
    exact (hold.symm.trans (by rw [List.take_append_drop])).trans (hdeleted.append hleft).symm
  have hrows : (saturatingAdd rows count).toNat = (log ++ [deleted]).flatten.length := by
    have hbefore := hI.rows rows (by rw [hpc]; rfl)
    have hle := hperm.length_eq
    rw [List.length_append, hflatten, List.length_append] at hle
    rw [toNat_saturatingAdd (by omega), hflatten, List.length_append]
    omega
  have hturns := hI.turns.2 _ _ _ hpc
  have hlog : (log ++ [deleted]).length = log.length + 1 := by rw [List.length_append, List.length_singleton]
  have hshort : (log ++ [deleted]).flatten.length ≤ (log ++ [deleted]).length * 10000 := by
    have hbefore := hI.short
    rw [hflatten, hlog, List.length_append]
    omega
  by_cases hfull : count = BATCH_SIZE
  · rw [if_pos hfull]
    refine ⟨hI.same, hperm, hshort, ⟨by omega, ?_⟩, ?_, ?_, ?_⟩
    · intro turns' rows' lastFull' h
      cases h
      omega
    · intro rows' h
      cases h
      exact hrows
    · intro turns' rows' h
      cases h
    · intro result h
      cases h
  · -- a batch that is not full has come to the end of the old rows
    have hnone : db.prunable cutoff = [] := by
      have hne : count.toNat ≠ 10000 := fun h => hfull (UInt64.toNat_inj.mp h)
      rw [List.drop_eq_nil_of_le (by omega)] at hleft
      exact List.perm_nil.mp hleft
    rw [if_neg hfull]
    refine ⟨hI.same, hperm, hshort, ⟨by omega, ?_⟩, ?_, ?_, ?_⟩
    · intro turns' rows' lastFull' h
      cases h
    · intro rows' h
      cases h
      exact hrows
    · intro turns' rows' h
      cases h
    · intro result h _
      cases h
      simp only [hnone, List.length_nil]
      rfl

/-- The count of what is left. -/
theorem Inv.count (hI : Inv db₀ cutoff maxBatches s log) {rows backlog : UInt64} (hpc : s.pc = .counting rows)
    (hbacklog : backlog.toNat = min 1000000 (s.db.prunable cutoff).length) :
    Inv db₀ cutoff maxBatches { s with pc := .done (.ok ⟨rows, backlog⟩) } log where
  same := hI.same
  perm := hI.perm
  short := hI.short
  turns := ⟨hI.turns.1, fun _ _ _ h => by cases h⟩
  rows rows' h := by
    cases h
    exact hI.rows rows (by rw [hpc]; rfl)
  first _ _ h := by cases h
  backlog result h _ := by
    cases h
    exact hbacklog

/-- What others do leaves the old rows. -/
theorem Inv.others (hI : Inv db₀ cutoff maxBatches s log) {db : Db} (hold : db.prunable cutoff = s.db.prunable cutoff) :
    Inv db₀ cutoff maxBatches { s with db } log where
  same := hI.same
  perm := by
    rw [hold]
    exact hI.perm
  short := hI.short
  turns := hI.turns
  rows := hI.rows
  first := hI.first
  backlog result h hlog := by
    rw [hold]
    exact hI.backlog result h hlog

theorem inv_step (hsize : (db₀.prunable cutoff).length < 2 ^ 64) {a : PrunerAction} {ev : List (List CheckResultRow)}
    (hI : Inv db₀ cutoff maxBatches s log) (hok : oldLeft s a = true) (h : s.step a = some (s', ev)) :
    Inv db₀ cutoff maxBatches s' (log ++ ev) := by
  cases a with
  | batch timeUp fault old =>
    simp only [Pruning.step] at h
    split at h
    · rename_i rows lastFull hpc
      cases h
      rw [List.append_nil]
      exact hI.leave hpc
    · rename_i turns rows lastFull hpc
      split at h
      · cases h
        rw [List.append_nil]
        exact hI.leave hpc
      · obtain ⟨pruned, hprune, h⟩ := Option.map_eq_some_iff.mp h
        obtain ⟨hold, rfl⟩ := Db.pruneCheckResultsOlderThan_eq_some hprune
        cases fault with
        | true =>
          cases h
          rw [List.append_nil]
          exact hI.fail _
        | false =>
          cases h
          exact hI.batch hsize hpc hold
    · cases h
  | count fault =>
    simp only [Pruning.step] at h
    split at h
    · rename_i rows hpc
      cases fault with
      | true =>
        cases h
        rw [List.append_nil]
        exact hI.fail _
      | false =>
        cases h
        rw [List.append_nil]
        refine hI.count hpc ?_
        change ((s.db.prunable s.cutoff).take 1000000).length.toUInt64.toNat = _
        rw [List.length_take, toNat_toUInt64 (by omega), hI.same]
    · cases h
  | store op pick =>
    simp only [oldLeft, h, Option.all_some, decide_eq_true_eq] at hok
    simp only [Pruning.step] at h
    split at h
    · cases h
      rw [List.append_nil]
      rw [hI.same] at hok
      exact hI.others hok
    · cases h

end PruningAux

/-- A pass that ends well after at least one batch, with nobody else at the old rows: what it has deleted are rows from before the
cutoff, no more than its batches may hold; it reports as many as it has deleted, and as backlog as many as are left from before
the cutoff, up to the cap; so it reports none exactly when none is left. (A table has fewer than 2^64 rows.) -/
theorem pass_exact {db : Db} {clock : Int64} {retentionSecs maxBatches : UInt64} {s : Pruning} {log : List (List CheckResultRow)}
    {result : PassResult} (hsize : db.checkResults.rows.length < 2 ^ 64)
    (h : Run Pruning.step (fun s a => oldLeft s a = true) (Pruning.start db clock retentionSecs maxBatches) s log)
    (hdone : s.pc = .done (.ok result)) (hbatch : log ≠ []) :
    (∀ row ∈ log.flatten, row ∈ db.checkResults.rows ∧ row.olderThan (pruneCutoff clock retentionSecs) = true) ∧
      log.flatten.length ≤ maxBatches.toNat * 10000 ∧ result.rows.toNat = log.flatten.length ∧
      result.backlog.toNat = min 1000000 (s.db.olderThan (pruneCutoff clock retentionSecs)).length ∧
      (result.backlog = 0 ↔ s.db.olderThan (pruneCutoff clock retentionSecs) = []) := by
  have hold := fun db => PruningAux.prunable_eq db clock retentionSecs
  have hsize' : (db.prunable (Service.saturatingSub (nowUnixSecs clock) retentionSecs)).length < 2 ^ 64 :=
    (List.length_filter_le _ _).trans_lt hsize
  have hI : PruningAux.Inv db (Service.saturatingSub (nowUnixSecs clock) retentionSecs) maxBatches.toNat s log := by
    refine h.invariant (I := PruningAux.Inv db _ maxBatches.toNat) ?_ fun s s' log ev a hI hok hs =>
      PruningAux.inv_step hsize' hI hok hs
    refine ⟨rfl, List.Perm.refl _, Nat.le_refl _, ⟨Nat.zero_le _, ?_⟩, ?_, fun _ _ _ => rfl, ?_⟩
    · intro turns rows lastFull hpc
      cases hpc
      exact (Nat.zero_add _).le
    · intro rows hrows
      cases hrows
      rfl
    · intro result hpc
      cases hpc
  have hbacklog := hI.backlog result hdone hbatch
  rw [hold] at hbacklog
  have hperm := hI.perm
  rw [hold, hold] at hperm
  refine ⟨fun row hrow => ?_, hI.short.trans (Nat.mul_le_mul_right _ hI.turns.1), hI.rows _ (by rw [hdone]; rfl), hbacklog, ?_⟩
  · have hmem := hperm.mem_iff.mpr (List.mem_append_left _ hrow)
    exact List.mem_filter.mp hmem
  · rw [← UInt64.toNat_inj, hbacklog, UInt64.toNat_zero, ← List.length_eq_zero_iff]
    omega

/-- Three results, one of them from after time 500, and one with a negative time. -/
def threeResults : List CheckResultRow :=
  [⟨1, 1, 1, 100, true, 5, none⟩, ⟨2, 1, 1, 900, true, 5, none⟩, ⟨3, 1, 1, -1, true, 5, none⟩]

/-- A store with them. -/
def threeResultsDb : Db := { Db.empty with checkResults := Table.ofRows CheckResultRow.id threeResults }

/-- At time 1000 with a retention of 500 seconds, a pass whose batch comes to the third first. -/
def onePass : List PrunerAction :=
  [.batch false false [⟨3, 1, 1, -1, true, 5, none⟩, ⟨1, 1, 1, 100, true, 5, none⟩]]

/-- It reports the two old ones, and no backlog. -/
theorem pass_exact_one :
    ∃ (s : Pruning) (log : List (List CheckResultRow)), s.pc = .done (.ok ⟨2, 0⟩) ∧ log.flatten.length = 2 ∧
      s.db.olderThan (pruneCutoff 1000 500) = [] := by
  let x := after Pruning.step oldLeft (Pruning.start threeResultsDb 1000 500 30) onePass
  have h : Run Pruning.step (fun s a => oldLeft s a = true) (Pruning.start threeResultsDb 1000 500 30) x.1 x.2 :=
    run_after (by decide +kernel)
  have hdone : x.1.pc = .done (.ok ⟨2, 0⟩) := by decide +kernel
  have hbatch : x.2 ≠ [] := by decide +kernel
  obtain ⟨-, -, hrows, -, hbacklog⟩ := pass_exact (by decide) h hdone hbatch
  exact ⟨x.1, x.2, hdone, hrows.symm, hbacklog.mp rfl⟩

end Monitra
