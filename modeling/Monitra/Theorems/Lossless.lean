import Monitra.Theorems.Transient

/-!
# Batches

What the writer task has inserted by the time it returns, when the store takes every insert. The batch is flushed when it is full,
with a tick and at the end, in whatever order these come.
-/

namespace Monitra

open Runs

/-- The batches that the store took, in order. -/
def insertedBatches (log : List WritingEvent) : List (List CheckResult) :=
  log.filterMap fun
    | .inserted batch => some batch
    | _ => none

/-- The store takes the insert. -/
def insertsTaken (s : Writing) : WritingAction → Bool
  | .task (.flush fault pick) => (answer fault (s.db.insertCheckResults pick s.writer.batch)).isOk
  | _ => true

namespace LosslessAux

theorem insertedBatches_append (log log' : List WritingEvent) :
    insertedBatches (log ++ log') = insertedBatches log ++ insertedBatches log' := List.filterMap_append

theorem flatten_insertedBatches (log : List WritingEvent) : (insertedBatches log).flatten = insertedResults log := by
  induction log with
  | nil => rfl
  | cons e log ih =>
    rw [← List.singleton_append, insertedBatches_append, insertedResults_append, List.flatten_append, ih]
    cases e <;> simp [insertedBatches, insertedResults]

/-- The batch is short of its size while the task waits for more, and has something in it when it is flushed. -/
structure Fits (batchSize : Nat) (w : Writer) : Prop where
  select : w.pc = .select → w.batch.length < max batchSize 1
  flushing : ∀ exit, w.pc = .flushing exit → w.batch ≠ [] ∧ w.batch.length ≤ max batchSize 1

theorem fits_startFlush {batchSize : Nat} {w : Writer} (h : w.batch.length ≤ max batchSize 1) (exit : Bool) :
    Fits batchSize (w.startFlush exit) := by
  unfold Writer.startFlush
  by_cases hb : w.batch = []
  · constructor
    · intro _
      simp only [hb, List.length_nil]
      omega
    · intro exit' hpc
      cases exit <;> simp [hb] at hpc
  · constructor
    · intro hpc
      simp [hb] at hpc
    · exact fun _ _ => ⟨hb, h⟩

theorem fits_recv {batchSize : Nat} {closed : Bool} {w w' : Writer} (hf : Fits batchSize w)
    (h : w.recv batchSize closed = some w') : Fits batchSize w' := by
  unfold Writer.recv at h
  split at h
  · rename_i result queue hpc hq
    cases h
    have hlt := hf.select hpc
    split
    · refine fits_startFlush ?_ false
      simp only [List.length_append, List.length_singleton]
      omega
    · rename_i hsize
      exact ⟨fun _ => by omega, fun exit hpc' => by cases hpc.symm.trans hpc'⟩
  · rename_i hpc hq
    split at h
    · cases h
      exact fits_startFlush (hf.select hpc).le true
    · cases h
  · cases h

theorem fits_tick {batchSize : Nat} {w w' : Writer} (hf : Fits batchSize w) (h : w.tick = some w') : Fits batchSize w' := by
  unfold Writer.tick at h
  split at h
  · rename_i hpc
    cases h
    exact fits_startFlush (hf.select hpc).le false
  · cases h

theorem fits_flush {batchSize : Nat} {w w' : Writer} {db db' : Db} {fault : Bool} {pick : List Int64 → Int64}
    (h : w.flush db fault pick = some (w', db')) : Fits batchSize w' := by
  obtain ⟨hb, -, -⟩ := flush_eq_some h
  obtain ⟨exit, -, hpc⟩ := TransientAux.pc_of_flush h
  constructor
  · intro _
    rw [hb, List.length_nil]
    omega
  · intro exit' hpc'
    rw [hpc] at hpc'
    cases exit <;> cases hpc'

/-- No insert has failed, and every batch inserted was one of a flush. -/
structure Inv (batchSize : Nat) (s : Writing) (log : List WritingEvent) : Prop where
  fits : Fits batchSize s.writer
  failed : failedBatches log = []
  inserted : ∀ batch ∈ insertedBatches log, batch ≠ [] ∧ batch.length ≤ max batchSize 1

theorem Inv.of_quiet {batchSize : Nat} {s s' : Writing} {log : List WritingEvent} {ev : List WritingEvent}
    (hI : Inv batchSize s log) (hfits : Fits batchSize s'.writer) (hfailed : failedBatches ev = [])
    (hinserted : insertedBatches ev = []) : Inv batchSize s' (log ++ ev) where
  fits := hfits
  failed := by rw [failedBatches_append, hI.failed, hfailed, List.append_nil]
  inserted := by rw [insertedBatches_append, hinserted, List.append_nil]; exact hI.inserted

theorem inv_step {cfg : EngineConfig} {s s' : Writing} {log ev : List WritingEvent} {a : WritingAction}
    (hI : Inv cfg.writerBatchSize s log) (hok : insertsTaken s a = true) (h : s.step cfg a = some (s', ev)) :
    Inv cfg.writerBatchSize s' (log ++ ev) := by
  cases a with
  | submit result =>
    simp only [Writing.step] at h
    split at h
    · cases h
    · cases h
      refine hI.of_quiet ⟨hI.fits.select, hI.fits.flushing⟩ ?_ ?_ <;> split <;> rfl
  | close =>
    simp only [Writing.step] at h
    split at h
    · cases h
    · cases h
      exact hI.of_quiet hI.fits rfl rfl
  | task b =>
    cases b with
    | recv =>
      obtain ⟨w', hw, he⟩ := Option.map_eq_some_iff.mp h
      cases he
      exact hI.of_quiet (fits_recv hI.fits hw) rfl rfl
    | tick =>
      obtain ⟨w', hw, he⟩ := Option.map_eq_some_iff.mp h
      cases he
      exact hI.of_quiet (fits_tick hI.fits hw) rfl rfl
    | flush fault pick =>
      obtain ⟨⟨w', db'⟩, hw, he⟩ := Option.map_eq_some_iff.mp h
      obtain ⟨exit, hpc, -⟩ := TransientAux.pc_of_flush hw
      cases ha : answer fault (s.db.insertCheckResults pick s.writer.batch) with
      | error e => simp [insertsTaken, ha, Except.isOk, Except.toBool] at hok
      | ok db =>
        rw [ha] at he
        cases he
        refine ⟨fits_flush hw, by rw [failedBatches_append, hI.failed]; rfl, fun batch hbatch => ?_⟩
        rw [insertedBatches_append] at hbatch
        rcases List.mem_append.mp hbatch with hbatch | hbatch
        · exact hI.inserted batch hbatch
        · rw [List.mem_singleton.mp hbatch]
          exact hI.fits.flushing exit hpc
  | store op pick =>
    simp only [Writing.step] at h
    split at h
    · cases h
      exact hI.of_quiet hI.fits rfl rfl
    · cases h

end LosslessAux

/-- In every run of the writer in which the store takes every insert, once the task has returned the batches inserted are, one
after the other, the results accepted, each once and in order; and no batch is empty or longer than the batch size. -/
theorem inserted_eq_accepted {cfg : EngineConfig} {db : Db} {s : Writing} {log : List WritingEvent}
    (h : Run (Writing.step cfg) (fun s a => insertsTaken s a = true) (Writing.start db) s log) (hexit : s.writer.pc = .exited) :
    (insertedBatches log).flatten = acceptedResults log ∧
      ∀ batch ∈ insertedBatches log, batch ≠ [] ∧ batch.length ≤ max cfg.writerBatchSize 1 := by
  have hI : LosslessAux.Inv cfg.writerBatchSize s log := by
    refine h.invariant (I := LosslessAux.Inv cfg.writerBatchSize) ⟨⟨fun _ => ?_, fun exit hpc => by cases hpc⟩, rfl, ?_⟩
      fun s s' log ev a hI hok hs => LosslessAux.inv_step hI hok hs
    · simp only [Writing.start, Writer.spawn, List.length_nil]
      omega
    · exact fun batch hbatch => absurd hbatch List.not_mem_nil
  have hall : TransientAux.Inv s log := TransientAux.inv_of_run (h.mono fun _ _ _ => rfl)
  have hkept := hall.kept hI.failed
  rw [(hall.placed.exited hexit).1, List.append_nil] at hkept
  exact ⟨(LosslessAux.flatten_insertedBatches log).trans hkept.symm, hI.inserted⟩

/-- Three results with batches of two: one batch is full, and the last one goes with the end. -/
def closedWriter : List WritingAction :=
  [.submit (resultAt 10), .submit (resultAt 20), .task .recv, .submit (resultAt 30), .task .recv,
    .task (.flush false fun _ => 0), .close, .task .recv, .task .recv, .task (.flush false fun _ => 0)]

/-- Then the three are inserted. -/
theorem closed_writer_inserted :
    ∃ log, acceptedResults log = [resultAt 10, resultAt 20, resultAt 30] ∧
      (insertedBatches log).flatten = [resultAt 10, resultAt 20, resultAt 30] ∧
      ∀ batch ∈ insertedBatches log, batch ≠ [] ∧ batch.length ≤ 2 := by
  let cfg : EngineConfig := { EngineConfig.default with writerBatchSize := 2 }
  let x := after (Writing.step cfg) insertsTaken (Writing.start oneMonitor) closedWriter
  have hr : Run (Writing.step cfg) (fun s a => insertsTaken s a = true) (Writing.start oneMonitor) x.1 x.2 :=
    run_after (by decide +kernel)
  have hacc : acceptedResults x.2 = [resultAt 10, resultAt 20, resultAt 30] := by decide +kernel
  obtain ⟨hall, hbatches⟩ := inserted_eq_accepted hr (by decide +kernel)
  exact ⟨x.2, hacc, hall.trans hacc, hbatches⟩

end Monitra
