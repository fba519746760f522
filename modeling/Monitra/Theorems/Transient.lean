import Monitra.Engine.Writing
import Monitra.Theorems.Batch

/-!
# Writes that fail

`flush` clears the batch whatever the store answers, so a write that fails takes its results with it, however soon the store
answers again. Without such a write every result that is accepted is inserted, once and in its turn.
-/

namespace Monitra

open Runs

/-- The results that found room in the queue, in order. -/
def acceptedResults (log : List WritingEvent) : List CheckResult :=
  log.filterMap fun
    | .accepted result => some result
    | _ => none

/-- The results of the inserts that the store took, in order. -/
def insertedResults (log : List WritingEvent) : List CheckResult :=
  log.flatMap fun
    | .inserted batch => batch
    | _ => []

/-- The batches of the inserts that failed. -/
def failedBatches (log : List WritingEvent) : List (List CheckResult) :=
  log.filterMap fun
    | .failed batch => some batch
    | _ => none

@[simp] theorem acceptedResults_append (log log' : List WritingEvent) :
    acceptedResults (log ++ log') = acceptedResults log ++ acceptedResults log' := List.filterMap_append

@[simp] theorem insertedResults_append (log log' : List WritingEvent) :
    insertedResults (log ++ log') = insertedResults log ++ insertedResults log' := List.flatMap_append

@[simp] theorem failedBatches_append (log log' : List WritingEvent) :
    failedBatches (log ++ log') = failedBatches log ++ failedBatches log' := List.filterMap_append

/-- The steps of the task itself, with a store that answers. -/
def taskAlone (_ : Writing) : WritingAction → Bool
  | .task (.flush fault _) => !fault
  | .task _ => true
  | _ => false

namespace TransientAux

/-- Where the task is says what it holds: in a flush it has a batch, before its return there is nothing in the queue, and when it
has returned it holds nothing. -/
structure Placed (s : Writing) : Prop where
  flushing : ∀ exit, s.writer.pc = .flushing exit → s.writer.batch ≠ []
  closing : s.writer.pc = .flushing true → s.writer.queue = [] ∧ s.closed = true
  exited : s.writer.pc = .exited → s.writer.held = [] ∧ s.closed = true

/-- What was accepted is inserted or held, if no insert failed; else there is less. -/
structure Inv (s : Writing) (log : List WritingEvent) : Prop where
  placed : Placed s
  kept : failedBatches log = [] → acceptedResults log = insertedResults log ++ s.writer.held
  lost : failedBatches log ≠ [] → (insertedResults log).length + s.writer.held.length < (acceptedResults log).length

theorem placed_startFlush {w : Writer} {db : Db} {closed exit : Bool} (he : exit = true → w.queue = [] ∧ closed = true) :
    Placed ⟨w.startFlush exit, db, closed⟩ := by
  unfold Writer.startFlush
  by_cases hb : w.batch.isEmpty = true
  · cases exit with
    | false => constructor <;> simp [hb]
    | true => constructor <;> simp_all [Writer.held]
  · constructor
    · intro exit' _ hnil
      exact hb (by simpa using hnil)
    · intro hpc
      refine he ?_
      simpa [hb] using hpc
    · intro hpc
      simp [hb] at hpc

theorem placed_recv {w w' : Writer} {db : Db} {batchSize : Nat} {closed : Bool} (h : w.recv batchSize closed = some w') :
    Placed ⟨w', db, closed⟩ := by
  unfold Writer.recv at h
  split at h
  · cases h
    split
    · exact placed_startFlush (by simp)
    · rename_i hpc _ _
      constructor <;> simp [hpc]
  · rename_i hpc hq
    split at h
    · rename_i hclosed
      cases h
      exact placed_startFlush fun _ => ⟨hq, hclosed⟩
    · cases h
  · cases h

theorem placed_tick {w w' : Writer} {db : Db} {closed : Bool} (h : w.tick = some w') : Placed ⟨w', db, closed⟩ := by
  unfold Writer.tick at h
  split at h
  · cases h
    exact placed_startFlush (by simp)
  · cases h

/-- A flush takes place where the task waits for the store, and says whether the task returns. -/
theorem pc_of_flush {w w' : Writer} {db db' : Db} {fault : Bool} {pick : List Int64 → Int64}
    (h : w.flush db fault pick = some (w', db')) :
    ∃ exit, w.pc = .flushing exit ∧ w'.pc = if exit then .exited else .select := by
  unfold Writer.flush at h
  split at h
  · rename_i exit hpc
    refine ⟨exit, hpc, ?_⟩
    cases ha : answer fault (db.insertCheckResults pick w.batch) with
    | ok => rw [ha] at h; cases h; rfl
    | error => rw [ha] at h; cases h; rfl
  · cases h

theorem placed_flush {s : Writing} {w' : Writer} {db' : Db} {fault : Bool} {pick : List Int64 → Int64} (hp : Placed s)
    (h : s.writer.flush s.db fault pick = some (w', db')) : Placed { s with writer := w', db := db' } := by
  obtain ⟨hb, hq, -⟩ := flush_eq_some h
  obtain ⟨exit, hpc, hw'⟩ := pc_of_flush h
  cases exit with
  | false => constructor <;> simp [hw']
  | true =>
    obtain ⟨hqueue, hclosed⟩ := hp.closing hpc
    constructor <;> simp [hw', Writer.held, hb, hq, hqueue, hclosed]

/-- What a step does: a result comes in, a batch goes out, or what was accepted stays where it was. -/
theorem step_cases {cfg : EngineConfig} {s s' : Writing} {a : WritingAction} {ev : List WritingEvent}
    (h : s.step cfg a = some (s', ev)) :
    (∃ result, ev = [.accepted result] ∧ s'.writer.held = s.writer.held ++ [result]) ∨
      (s.writer.held = s.writer.batch ++ s'.writer.held ∧ (ev = [.inserted s.writer.batch] ∨
        ev = [.failed s.writer.batch] ∧ ∃ exit, s.writer.pc = .flushing exit)) ∨
      (acceptedResults ev = [] ∧ insertedResults ev = [] ∧ failedBatches ev = [] ∧ s'.writer.held = s.writer.held) := by
  cases a with
  | submit result =>
    simp only [Writing.step] at h
    split at h
    · cases h
    · cases h
      by_cases hroom : s.writer.queue.length < cfg.writerCapacity
      · refine Or.inl ⟨result, by rw [if_pos hroom], ?_⟩
        simp [Writer.held, Writer.submit, Channel.trySend, hroom]
      · refine Or.inr (Or.inr ?_)
        simp [acceptedResults, insertedResults, failedBatches, Writer.held, Writer.submit, Channel.trySend, hroom]
  | close =>
    simp only [Writing.step] at h
    split at h
    · cases h
    · cases h
      exact Or.inr (Or.inr ⟨rfl, rfl, rfl, rfl⟩)
  | task b =>
    cases b with
    | recv =>
      obtain ⟨w', hw, he⟩ := Option.map_eq_some_iff.mp h
      cases he
      exact Or.inr (Or.inr ⟨rfl, rfl, rfl, BatchAux.held_recv hw⟩)
    | tick =>
      obtain ⟨w', hw, he⟩ := Option.map_eq_some_iff.mp h
      cases he
      exact Or.inr (Or.inr ⟨rfl, rfl, rfl, BatchAux.held_tick hw⟩)
    | flush fault pick =>
      obtain ⟨⟨w', db'⟩, hw, he⟩ := Option.map_eq_some_iff.mp h
      cases he
      obtain ⟨hb, hq, -⟩ := flush_eq_some hw
      refine Or.inr (Or.inl ⟨by simp only [Writer.held, hb, hq, List.nil_append], ?_⟩)
      obtain ⟨exit, hpc, -⟩ := pc_of_flush hw
      cases answer fault (s.db.insertCheckResults pick s.writer.batch) with
      | ok => exact Or.inl rfl
      | error => exact Or.inr ⟨rfl, exit, hpc⟩
  | store op pick =>
    simp only [Writing.step] at h
    split at h
    · cases h
      exact Or.inr (Or.inr ⟨rfl, rfl, rfl, rfl⟩)
    · cases h

theorem placed_step {cfg : EngineConfig} {s s' : Writing} {a : WritingAction} {ev : List WritingEvent} (hp : Placed s)
    (h : s.step cfg a = some (s', ev)) : Placed s' := by
  cases a with
  | submit result =>
    simp only [Writing.step] at h
    split at h
    · cases h
    · rename_i hopen
      cases h
      -- The task has not seen the end of the channel while a sender is left.
      refine ⟨hp.flushing, fun hpc => ?_, fun hpc => ?_⟩
      · exact absurd (hp.closing hpc).2 hopen
      · exact absurd (hp.exited hpc).2 hopen
  | close =>
    simp only [Writing.step] at h
    split at h
    · cases h
    · cases h
      exact ⟨hp.flushing, fun hpc => ⟨(hp.closing hpc).1, rfl⟩, fun hpc => ⟨(hp.exited hpc).1, rfl⟩⟩
  | task b =>
    cases b with
    | recv =>
      obtain ⟨w', hw, he⟩ := Option.map_eq_some_iff.mp h
      cases he
      exact placed_recv hw
    | tick =>
      obtain ⟨w', hw, he⟩ := Option.map_eq_some_iff.mp h
      cases he
      exact placed_tick hw
    | flush fault pick =>
      obtain ⟨⟨w', db'⟩, hw, he⟩ := Option.map_eq_some_iff.mp h
      cases he
      exact placed_flush hp hw
  | store op pick =>
    simp only [Writing.step] at h
    split at h
    · cases h
      exact ⟨hp.flushing, hp.closing, hp.exited⟩
    · cases h

theorem inv_step {cfg : EngineConfig} {s s' : Writing} {log ev : List WritingEvent} {a : WritingAction} (hI : Inv s log)
    (h : s.step cfg a = some (s', ev)) : Inv s' (log ++ ev) := by
  refine ⟨placed_step hI.placed h, ?_, ?_⟩
  · intro hnone
    rw [failedBatches_append, List.append_eq_nil_iff] at hnone
    have hkept := hI.kept hnone.1
    rw [acceptedResults_append, insertedResults_append, hkept]
    rcases step_cases h with ⟨result, rfl, hheld⟩ | ⟨hheld, rfl | ⟨rfl, -⟩⟩ | ⟨hacc, hins, -, hheld⟩
    · rw [hheld]
      simp [acceptedResults, insertedResults]
    · rw [hheld]
      simp [acceptedResults, insertedResults]
    · exact absurd hnone.2 (by simp [failedBatches])
    · rw [hheld, hacc, hins, List.append_nil, List.append_nil]
  · intro hsome
    -- Less is inserted or held already before the step, or it is the step that fails.
    by_cases hnone : failedBatches log = []
    · have hkept := congrArg List.length (hI.kept hnone)
      rw [failedBatches_append, hnone, List.nil_append] at hsome
      rcases step_cases h with ⟨result, rfl, -⟩ | ⟨hheld, rfl | ⟨rfl, exit, hpc⟩⟩ | ⟨-, -, hfail, -⟩
      · exact absurd rfl hsome
      · exact absurd rfl hsome
      · have hpos := List.length_pos_iff.mpr (hI.placed.flushing exit hpc)
        simp only [hheld, List.length_append, acceptedResults_append, insertedResults_append] at hkept ⊢
        simp only [acceptedResults, insertedResults, List.filterMap_cons, List.filterMap_nil, List.flatMap_cons,
          List.flatMap_nil, List.length_nil, List.append_nil] at hkept ⊢
        omega
      · exact absurd hfail hsome
    · have hlost := hI.lost hnone
      rcases step_cases h with ⟨result, rfl, hheld⟩ | ⟨hheld, rfl | ⟨rfl, -⟩⟩ | ⟨hacc, hins, -, hheld⟩
      · rw [hheld]
        simp [acceptedResults, insertedResults] at hlost ⊢
        omega
      · rw [hheld] at hlost
        simp [acceptedResults, insertedResults] at hlost ⊢
        omega
      · rw [hheld] at hlost
        simp [acceptedResults, insertedResults] at hlost ⊢
        omega
      · rw [hheld, acceptedResults_append, insertedResults_append, hacc, hins, List.append_nil, List.append_nil]
        exact hlost

theorem inv_of_run {cfg : EngineConfig} {db : Db} {s : Writing} {log : List WritingEvent}
    (h : Run (Writing.step cfg) (fun s a => always s a = true) (Writing.start db) s log) : Inv s log := by
  refine h.invariant (I := Inv) ⟨?_, fun _ => rfl, fun hsome => absurd rfl hsome⟩ fun s s' log ev a hI _ hs => inv_step hI hs
  constructor <;> simp [Writing.start, Writer.spawn]

theorem placed_of_task {cfg : EngineConfig} {s s' : Writing} {log : List WritingEvent} (hp : Placed s)
    (h : Run (Writing.step cfg) (fun s a => taskAlone s a = true) s s' log) : Placed s' :=
  h.stateInvariant hp fun _ _ _ _ hp _ hs => placed_step hp hs

/-- Waiting for the store ends with an empty batch. -/
theorem flushes {cfg : EngineConfig} {s : Writing} {exit : Bool} (hpc : s.writer.pc = .flushing exit) :
    ∃ s' log, Run (Writing.step cfg) (fun s a => taskAlone s a = true) s s' log ∧ s'.writer.batch = [] ∧
      s'.writer.queue = s.writer.queue ∧ ∀ exit, s'.writer.pc ≠ .flushing exit := by
  have hflush : ∃ w' db', s.writer.flush s.db false (fun _ => 0) = some (w', db') := by
    unfold Writer.flush
    rw [hpc]
    cases answer false (s.db.insertCheckResults (fun _ => 0) s.writer.batch) with
    | ok => exact ⟨_, _, rfl⟩
    | error => exact ⟨_, _, rfl⟩
  obtain ⟨w', db', hw⟩ := hflush
  obtain ⟨exit', -, hpc'⟩ := pc_of_flush hw
  have hstep : ∃ ev, s.step cfg (.task (.flush false fun _ => 0)) = some ({ s with writer := w', db := db' }, ev) := by
    simp only [Writing.step, hw, Option.map_some]
    exact ⟨_, rfl⟩
  obtain ⟨ev, hstep⟩ := hstep
  refine ⟨_, ev, Run.single rfl hstep, (flush_eq_some hw).1, (flush_eq_some hw).2.1, fun exit h => ?_⟩
  rw [hpc'] at h
  split at h <;> cases h

/-- The batch goes out, at the latest with the next tick. -/
theorem batch_goes {cfg : EngineConfig} {s : Writing} (hp : Placed s) :
    ∃ s' log, Run (Writing.step cfg) (fun s a => taskAlone s a = true) s s' log ∧ s'.writer.batch = [] ∧
      s'.writer.queue = s.writer.queue ∧ ∀ exit, s'.writer.pc ≠ .flushing exit := by
  cases hpc : s.writer.pc with
  | flushing exit => exact flushes hpc
  | exited =>
    have hheld := (hp.exited hpc).1
    rw [Writer.held, List.append_eq_nil_iff] at hheld
    exact ⟨s, [], Run.nil, hheld.1, rfl, fun exit h => by rw [hpc] at h; cases h⟩
  | select =>
    by_cases hb : s.writer.batch = []
    · exact ⟨s, [], Run.nil, hb, rfl, fun exit h => by rw [hpc] at h; cases h⟩
    · have hstep : s.step cfg (.task .tick) = some ({ s with writer := s.writer.startFlush false }, []) := by
        simp only [Writing.step, Writer.tick, hpc, Option.map_some]
      have hflushing : (s.writer.startFlush false).pc = .flushing false := by
        simp [Writer.startFlush, hb]
      obtain ⟨s', log, hr, hb', hq', hpc'⟩ := @flushes cfg { s with writer := s.writer.startFlush false } _ hflushing
      have htick : Run (Writing.step cfg) (fun s a => taskAlone s a = true) s _ [] := Run.single rfl hstep
      exact ⟨s', [] ++ log, htick.trans hr, hb', hq', hpc'⟩

/-- Result by result, the task takes in the queue and hands it to the store. -/
theorem queue_goes (cfg : EngineConfig) (queue : List CheckResult) :
    ∀ s : Writing, Placed s → s.writer.queue = queue →
      ∃ s' log, Run (Writing.step cfg) (fun s a => taskAlone s a = true) s s' log ∧ s'.writer.held = [] := by
  induction queue with
  | nil =>
    intro s hp hq
    obtain ⟨s', log, hr, hb, hq', -⟩ := @batch_goes cfg s hp
    exact ⟨s', log, hr, by rw [Writer.held, hb, hq', hq, List.append_nil]⟩
  | cons result queue ih =>
    intro s hp hq
    obtain ⟨s₁, log₁, hr₁, hb₁, hq₁, hpc₁⟩ := @batch_goes cfg s hp
    rw [hq] at hq₁
    have hp₁ := placed_of_task hp hr₁
    cases hpc : s₁.writer.pc with
    | flushing exit => exact absurd hpc (hpc₁ exit)
    | exited =>
      have hheld := (hp₁.exited hpc).1
      rw [Writer.held, hq₁, List.append_eq_nil_iff] at hheld
      cases hheld.2
    | select =>
      have hrecv : ∃ w', s₁.writer.recv cfg.writerBatchSize s₁.closed = some w' ∧ w'.queue = queue := by
        simp only [Writer.recv, hpc, hq₁]
        refine ⟨_, rfl, ?_⟩
        split <;> rfl
      obtain ⟨w', hw, hqueue⟩ := hrecv
      have hstep : s₁.step cfg (.task .recv) = some ({ s₁ with writer := w' }, []) := by
        simp only [Writing.step, hw, Option.map_some]
      have hok : taskAlone s₁ (.task .recv) = true := rfl
      have hr₂ := hr₁.trans (Run.single hok hstep)
      obtain ⟨s', log, hr, hheld⟩ := ih _ (placed_step hp₁ hstep) hqueue
      exact ⟨s', _, hr₂.trans hr, hheld⟩

end TransientAux

/-- In every run of the writer what was accepted is, once each and in order, what was inserted and what the writer still holds,
exactly when no insert failed. What the writer holds it hands to the store, from every state, by steps of its own. -/
theorem results_inserted_iff {cfg : EngineConfig} {db : Db} {s : Writing} {log : List WritingEvent}
    (h : Run (Writing.step cfg) (fun s a => always s a = true) (Writing.start db) s log) :
    (acceptedResults log = insertedResults log ++ s.writer.held ↔ failedBatches log = []) ∧
      ∃ s' log', Run (Writing.step cfg) (fun s a => taskAlone s a = true) s s' log' ∧ s'.writer.held = [] := by
  have hI := TransientAux.inv_of_run h
  refine ⟨⟨fun hkept => ?_, hI.kept⟩, TransientAux.queue_goes cfg _ s hI.placed rfl⟩
  by_contra hsome
  have hlost := hI.lost hsome
  rw [hkept, List.length_append] at hlost
  omega

/-! ## Two runs -/

/-- A store with one monitor, and one result of it. -/
def oneMonitor : Db :=
  match Db.empty.insertMonitor ⟨⟨0, 0⟩, "a", "http://a", .http, 60, .pending, none⟩ fun _ => 0 with
  | .ok (db, _) => db
  | .error _ => Db.empty

/-- A result at a moment. -/
def resultAt (checkedAt : UInt64) : CheckResult := ⟨⟨1, 0⟩, checkedAt, true, 3, none⟩

/-- Two results, each flushed with a tick. The first flush fails or it does not. -/
def twoFlushes (fault : Bool) : List WritingAction :=
  [.submit (resultAt 10), .task .recv, .task .tick, .task (.flush fault fun _ => 0),
    .submit (resultAt 20), .task .recv, .task .tick, .task (.flush false fun _ => 0)]

/-- One write that fails loses a result for good, though the store takes the next. -/
theorem failed_batch_lost :
    ¬∀ (cfg : EngineConfig) (db : Db) (s : Writing) (log : List WritingEvent),
      Run (Writing.step cfg) (fun s a => always s a = true) (Writing.start db) s log → s.writer.held = [] →
      insertedResults log = acceptedResults log := by
  intro h
  let x := after (Writing.step EngineConfig.default) always (Writing.start oneMonitor) (twoFlushes true)
  have hr : Run (Writing.step EngineConfig.default) (fun s a => always s a = true) (Writing.start oneMonitor) x.1 x.2 :=
    run_after (by decide +kernel)
  have hall := h _ _ x.1 x.2 hr (by decide +kernel)
  have hins : insertedResults x.2 = [resultAt 20] := by decide +kernel
  have hacc : acceptedResults x.2 = [resultAt 10, resultAt 20] := by decide +kernel
  rw [hins, hacc] at hall
  cases hall

/-- With a store that takes both, both are inserted. -/
theorem flushed_batches_kept :
    ∃ log, acceptedResults log = [resultAt 10, resultAt 20] ∧ insertedResults log = [resultAt 10, resultAt 20] := by
  let x := after (Writing.step EngineConfig.default) always (Writing.start oneMonitor) (twoFlushes false)
  have hr : Run (Writing.step EngineConfig.default) (fun s a => always s a = true) (Writing.start oneMonitor) x.1 x.2 :=
    run_after (by decide +kernel)
  have hheld : x.1.writer.held = [] := by decide +kernel
  have hacc : acceptedResults x.2 = [resultAt 10, resultAt 20] := by decide +kernel
  have hkept := (results_inserted_iff hr).1.mpr (by decide +kernel)
  rw [hheld, List.append_nil, hacc] at hkept
  exact ⟨x.2, hacc, hkept.symm⟩

end Monitra
