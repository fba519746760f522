import Monitra.Theorems.Pruning

/-!
# The pruner over its passes

The warning that the pruner is behind is about two passes in a row, and a pass that fails stands between them. What the task deletes is
from before the cutoff of the pass that deletes it, and with nobody else at the store it is all that goes.
-/

namespace Monitra

open Runs Pruner

/-- What a pass came to: the backlog of one that completed. -/
def PrunerEvent.outcome? : PrunerEvent → Option (Option UInt64)
  | .completed result => some (some result.backlog)
  | .failed _ => some none
  | _ => none

def PrunerEvent.warning? : PrunerEvent → Option UInt64
  | .behind remainingAtLeast => some remainingAtLeast
  | _ => none

def PrunerEvent.removed : PrunerEvent → List CheckResultRow
  | .deleted _ rows => rows
  | _ => []

/-- The warning after a pass, by what the pass before it came to. -/
def backlogWarning : Option UInt64 → Option UInt64 → List UInt64
  | some last, some backlog => if 0 < last ∧ 0 < backlog then [backlog] else []
  | _, _ => []

/-- The warnings over a sequence of passes, by what the pass before them came to. -/
def backlogWarnings : Option UInt64 → List (Option UInt64) → List UInt64
  | _, [] => []
  | last, pass :: passes => backlogWarning last pass ++ backlogWarnings pass passes

/-- Whether an action is the task's own, or a signal to it. -/
def PrunerTaskAction.alone : PrunerTaskAction → Bool
  | .store _ _ => false
  | _ => true

namespace PassesAux

theorem backlogWarnings_concat (pass : Option UInt64) :
    ∀ (last : Option UInt64) (passes : List (Option UInt64)),
      backlogWarnings last (passes ++ [pass]) = backlogWarnings last passes ++ backlogWarning (passes.getLast?.getD last) pass
  | last, [] => by simp [backlogWarnings]
  | last, p :: passes => by
    rw [List.cons_append, backlogWarnings, backlogWarnings_concat pass p passes, backlogWarnings, List.append_assoc,
      List.getLast?_cons, Option.getD_some]

/-! ## A step of a pass -/

section

variable {p p' : Pruning} {a : PrunerAction} {deleted : List (List CheckResultRow)}

/-- What a batch deletes, and what it leaves, is what there was. -/
theorem perm_batch (db : Db) (old : List CheckResultRow) :
    ((db.pruneInOrder old BATCH_SIZE).1.checkResults.rows ++ db.checkResults.rows.filter fun row =>
      !(db.pruneInOrder old BATCH_SIZE).1.checkResults.rows.contains row).Perm db.checkResults.rows := by
  have hrows : (db.pruneInOrder old BATCH_SIZE).1.checkResults.rows =
      db.checkResults.rows.filter fun row => !((old.take 10000).map (·.id)).contains row.id := rfl
  have hgone : (db.checkResults.rows.filter fun row => !(db.pruneInOrder old BATCH_SIZE).1.checkResults.rows.contains row) =
      db.checkResults.rows.filter fun row => !!((old.take 10000).map (·.id)).contains row.id := by
    refine List.filter_congr fun row hrow => ?_
    rw [hrows]
    simp [hrow]
  rw [hgone, hrows]
  exact List.filter_append_perm _ _

/-- A step of a pass that is the pass's own. -/
theorem pass_step (ha : ∀ op pick, a ≠ .store op pick) (h : p.step a = some (p', deleted)) :
    (∀ rows ∈ deleted, ∀ row ∈ rows, row ∈ p.db.prunable p.cutoff) ∧
      p'.db = { p.db with checkResults := p'.db.checkResults } ∧
      (p'.db.checkResults.rows ++ deleted.flatten).Perm p.db.checkResults.rows := by
  cases a with
  | batch timeUp fault old =>
    simp only [Pruning.step] at h
    split at h
    · cases h
      simp
    · split at h
      · cases h
        simp
      · obtain ⟨pruned, hprune, h⟩ := Option.map_eq_some_iff.mp h
        obtain ⟨hold, rfl⟩ := Db.pruneCheckResultsOlderThan_eq_some hprune
        cases fault with
        | true =>
          cases h
          simp
        | false =>
          cases h
          refine ⟨?_, rfl, ?_⟩
          · intro rows hrows row hrow
            cases List.mem_singleton.mp hrows
            have htake := (PruningAux.perm_pruneInOrder hold).1.mem_iff.mp hrow
            exact hold.mem_iff.mp (List.mem_of_mem_take htake)
          · rw [List.flatten_singleton]
            exact perm_batch p.db old
    · cases h
  | count fault =>
    simp only [Pruning.step] at h
    split at h
    · cases fault with
      | true =>
        cases h
        simp
      | false =>
        cases h
        simp
    · cases h
  | store op pick => exact absurd rfl (ha op pick)

end

/-! ## A step of the task -/

section

variable {retentionSecs : UInt64} {s s' : PrunerTask} {a : PrunerTaskAction} {ev : List PrunerEvent}

/-- What a step of the task can do: a step of its pass, the beginning of one, or nothing of which anything is told but that the daemon is
ready. -/
theorem step_cases (h : s.step retentionSecs a = some (s', ev)) :
    (∃ clock pc b pass deleted, s.pc = .passing clock pc ∧ (∀ op pick, b ≠ .store op pick) ∧
      (Pruning.mk s.db (PrunerTask.cutoff retentionSecs clock) pc).step b = some (pass, deleted) ∧
      s' = (s.after clock pass).1 ∧ ev = deleted.map (.deleted clock) ++ (s.after clock pass).2) ∨
    (∃ clock pc, a = .tick clock ∧ s.pc = .select ∧ s' = { s with pc := .passing clock pc } ∧ ev = [.began clock]) ∨
    (a = .markReady ∧ s' = { s with ready := true } ∧ ev = [.ready]) ∨
    (ev = [] ∧ s'.ready = s.ready ∧ s'.behind = s.behind ∧ (a.alone = true → s'.db = s.db) ∧
      (s'.pc = s.pc ∨ s.pc = .waiting ∧ s.ready = true ∧ s'.pc = .select ∨ s'.pc = .returned)) := by
  have hpass : ∀ b, (∀ op pick, b ≠ .store op pick) → s.inPass retentionSecs b = some (s', ev) →
      ∃ clock pc b pass deleted, s.pc = .passing clock pc ∧ (∀ op pick, b ≠ .store op pick) ∧
        (Pruning.mk s.db (PrunerTask.cutoff retentionSecs clock) pc).step b = some (pass, deleted) ∧
        s' = (s.after clock pass).1 ∧ ev = deleted.map (.deleted clock) ++ (s.after clock pass).2 := by
    intro b hb h
    simp only [PrunerTask.inPass] at h
    split at h
    · rename_i clock pc hpc
      split at h
      · rename_i pass deleted hstep
        cases h
        exact ⟨clock, pc, b, pass, deleted, hpc, hb, hstep, rfl, rfl⟩
      · cases h
    · cases h
  cases a with
  | batch timeUp fault old => exact Or.inl (hpass _ (fun _ _ h => by cases h) h)
  | count fault => exact Or.inl (hpass _ (fun _ _ h => by cases h) h)
  | tick clock =>
    simp only [PrunerTask.step] at h
    split at h
    · rename_i hpc
      cases h
      exact Or.inr (Or.inl ⟨clock, _, rfl, hpc, rfl, rfl⟩)
    · cases h
  | markReady =>
    cases h
    exact Or.inr (Or.inr (Or.inl ⟨rfl, rfl, rfl⟩))
  | signal =>
    cases h
    exact Or.inr (Or.inr (Or.inr ⟨rfl, rfl, rfl, fun _ => rfl, Or.inl rfl⟩))
  | proceed =>
    simp only [PrunerTask.step] at h
    split at h
    · rename_i hpc
      split at h
      · rename_i hready
        cases h
        exact Or.inr (Or.inr (Or.inr ⟨rfl, rfl, rfl, fun _ => rfl, Or.inr (Or.inl ⟨hpc, hready, rfl⟩)⟩))
      · cases h
    · cases h
  | stop =>
    simp only [PrunerTask.step] at h
    split at h
    · split at h
      · cases h
        exact Or.inr (Or.inr (Or.inr ⟨rfl, rfl, rfl, fun _ => rfl, Or.inr (Or.inr rfl)⟩))
      · cases h
    · split at h
      · cases h
        exact Or.inr (Or.inr (Or.inr ⟨rfl, rfl, rfl, fun _ => rfl, Or.inr (Or.inr rfl)⟩))
      · cases h
    · cases h
  | store op pick =>
    simp only [PrunerTask.step] at h
    split at h
    · cases h
      exact Or.inr (Or.inr (Or.inr ⟨rfl, rfl, rfl, (fun h => by cases h), Or.inl rfl⟩))
    · cases h

/-- What the task makes of a step of its pass: the pass goes on, has completed, or has failed. -/
theorem after_cases (s : PrunerTask) (clock : Int64) (pass : Pruning) :
    (s.after clock pass).1.db = pass.db ∧ (s.after clock pass).1.ready = s.ready ∧
      ((∃ pc, (s.after clock pass).1.pc = .passing clock pc ∧ (s.after clock pass).1.behind = s.behind ∧ (s.after clock pass).2 = []) ∨
      (∃ result, (s.after clock pass).1.pc = .select ∧ (s.after clock pass).1.behind = ⟨decide (0 < result.backlog)⟩ ∧
        (s.after clock pass).2 = .completed result ::
          if decide (0 < result.backlog) && s.behind.lastPassBehind then [.behind result.backlog] else []) ∨
      ∃ error, (s.after clock pass).1.pc = .select ∧ (s.after clock pass).1.behind = BehindTracker.default ∧
        (s.after clock pass).2 = [.failed error]) := by
  unfold PrunerTask.after
  split
  · rename_i result _
    exact ⟨rfl, rfl, Or.inr (Or.inl ⟨result, rfl, rfl, rfl⟩)⟩
  · rename_i error _
    exact ⟨rfl, rfl, Or.inr (Or.inr ⟨error, rfl, rfl, rfl⟩)⟩
  · rename_i pc _ _
    exact ⟨rfl, rfl, Or.inl ⟨pass.pc, rfl, rfl, rfl⟩⟩

end

/-! ## A run of the task -/

/-- What the passes of a log came to. -/
def passes (log : List PrunerEvent) : List (Option UInt64) := log.filterMap PrunerEvent.outcome?

/-- Whether the last pass left a backlog. -/
def lastBehind (log : List PrunerEvent) : Bool := (passes log).getLast?.join.any fun backlog => decide (0 < backlog)

structure Inv (retentionSecs : UInt64) (s : PrunerTask) (log : List PrunerEvent) : Prop where
  warned : log.filterMap PrunerEvent.warning? = backlogWarnings none (passes log)
  behind : s.behind.lastPassBehind = lastBehind log
  old : ∀ clock rows, .deleted clock rows ∈ log →
    .began clock ∈ log ∧ ∀ row ∈ rows, row.olderThan (pruneCutoff clock retentionSecs) = true
  began : ∀ clock pc, s.pc = .passing clock pc → .began clock ∈ log
  idle : (s.ready = true ∧ ∃ rest, log = .ready :: rest) ∨ (s.ready = false ∧ log = [] ∧ (s.pc = .waiting ∨ s.pc = .returned))

section

variable {retentionSecs : UInt64} {s s' : PrunerTask} {a : PrunerTaskAction} {log ev : List PrunerEvent}

theorem passes_append (log ev : List PrunerEvent) : passes (log ++ ev) = passes log ++ passes ev := List.filterMap_append

/-- Of the events of a step of a pass, those of the batches say nothing about what the pass came to. -/
theorem filterMap_deleted {α : Type} {f : PrunerEvent → Option α} (clock : Int64) (deleted : List (List CheckResultRow))
    (hf : ∀ rows, f (.deleted clock rows) = none) : (deleted.map (PrunerEvent.deleted clock)).filterMap f = [] := by
  rw [List.filterMap_map]
  exact List.filterMap_eq_nil_iff.mpr fun rows _ => hf rows

/-- A pass that comes to something. -/
theorem warned_pass {outcome : Option UInt64} (hw : log.filterMap PrunerEvent.warning? = backlogWarnings none (passes log))
    (ho : passes ev = [outcome])
    (he : ev.filterMap PrunerEvent.warning? =
      if (outcome.any fun backlog => decide (0 < backlog)) && lastBehind log then outcome.toList else []) :
    (log ++ ev).filterMap PrunerEvent.warning? = backlogWarnings none (passes (log ++ ev)) ∧
      lastBehind (log ++ ev) = outcome.any fun backlog => decide (0 < backlog) := by
  have hlast : (passes log).getLast?.getD none = (passes log).getLast?.join := by
    cases (passes log).getLast? <;> rfl
  constructor
  · rw [List.filterMap_append, passes_append, ho, backlogWarnings_concat, hw, he, hlast, lastBehind]
    congr 1
    cases (passes log).getLast?.join with
    | none => cases outcome <;> simp [backlogWarning]
    | some last =>
      cases outcome with
      | none => simp [backlogWarning]
      | some backlog => simp [backlogWarning, and_comm]
  · rw [lastBehind, passes_append, ho, List.getLast?_append]
    rfl

/-- Events that say nothing about a pass. -/
theorem warned_quiet (hw : log.filterMap PrunerEvent.warning? = backlogWarnings none (passes log)) (ho : passes ev = [])
    (he : ev.filterMap PrunerEvent.warning? = []) :
    (log ++ ev).filterMap PrunerEvent.warning? = backlogWarnings none (passes (log ++ ev)) ∧ lastBehind (log ++ ev) = lastBehind log := by
  rw [lastBehind, lastBehind, List.filterMap_append, passes_append, ho, he, List.append_nil, List.append_nil]
  exact ⟨hw, rfl⟩

/-- A batch deletes rows from before the cutoff of its pass. -/
theorem deleted_of_step {clock : Int64} {rows : List CheckResultRow} (h : s.step retentionSecs a = some (s', ev))
    (hmem : .deleted clock rows ∈ ev) :
    (∃ pc, s.pc = .passing clock pc) ∧ ∀ row ∈ rows, row.olderThan (pruneCutoff clock retentionSecs) = true := by
  rcases step_cases h with ⟨clock', pc, b, pass, deleted, hpc, hb, hstep, -, rfl⟩ | ⟨_, _, -, -, -, rfl⟩ | ⟨-, -, rfl⟩ | ⟨rfl, -⟩
  · rcases List.mem_append.mp hmem with hmem | hmem
    · obtain ⟨rows', hrows, heq⟩ := List.mem_map.mp hmem
      cases heq
      refine ⟨⟨pc, hpc⟩, fun row hrow => ?_⟩
      have hold : row ∈ s.db.prunable (PrunerTask.cutoff retentionSecs clock) := (pass_step hb hstep).1 rows hrows row hrow
      rw [PrunerTask.cutoff, PruningAux.prunable_eq] at hold
      exact (List.mem_filter.mp hold).2
    · obtain ⟨-, -, ⟨_, -, -, hev⟩ | ⟨result, -, -, hev⟩ | ⟨error, -, -, hev⟩⟩ := after_cases s clock' pass
      · simp [hev] at hmem
      · rw [hev] at hmem
        split at hmem <;> simp at hmem
      · simp [hev] at hmem
  · simp at hmem
  · simp at hmem
  · cases hmem

theorem Inv.warned_step (hI : Inv retentionSecs s log) (h : s.step retentionSecs a = some (s', ev)) :
    (log ++ ev).filterMap PrunerEvent.warning? = backlogWarnings none (passes (log ++ ev)) ∧
      s'.behind.lastPassBehind = lastBehind (log ++ ev) := by
  rcases step_cases h with ⟨clock, pc, b, pass, deleted, -, -, -, rfl, rfl⟩ | ⟨clock, _, -, -, rfl, rfl⟩ | ⟨-, rfl, rfl⟩ |
    ⟨rfl, -, hbehind, -⟩
  · have hpasses : passes (deleted.map (PrunerEvent.deleted clock) ++ (s.after clock pass).2) = passes (s.after clock pass).2 := by
      rw [passes_append, passes, filterMap_deleted clock deleted fun _ => rfl, List.nil_append]
    have hwarnings : (deleted.map (PrunerEvent.deleted clock) ++ (s.after clock pass).2).filterMap PrunerEvent.warning? =
        (s.after clock pass).2.filterMap PrunerEvent.warning? := by
      rw [List.filterMap_append, filterMap_deleted clock deleted fun _ => rfl, List.nil_append]
    obtain ⟨-, -, ⟨_, -, hbehind, hev⟩ | ⟨result, -, hbehind, hev⟩ | ⟨error, -, hbehind, hev⟩⟩ := after_cases s clock pass
    · rw [hev] at hpasses hwarnings
      obtain ⟨hw, hlast⟩ := warned_quiet hI.warned hpasses hwarnings
      rw [hev]
      exact ⟨hw, by rw [hbehind, hlast, hI.behind]⟩
    · have hone : passes (s.after clock pass).2 = [some result.backlog] := by
        rw [hev]
        split <;> rfl
      have hwarn : (s.after clock pass).2.filterMap PrunerEvent.warning? =
          if ((some result.backlog).any fun backlog => decide (0 < backlog)) && lastBehind log then [result.backlog] else [] := by
        rw [hev, hI.behind, Option.any_some]
        split <;> rfl
      obtain ⟨hw, hlast⟩ := warned_pass hI.warned (hpasses.trans hone) (hwarnings.trans hwarn)
      exact ⟨hw, by rw [hbehind, hlast]; rfl⟩
    · rw [hev] at hpasses hwarnings
      obtain ⟨hw, hlast⟩ := warned_pass hI.warned hpasses hwarnings
      rw [hev]
      exact ⟨hw, by rw [hbehind, hlast]; rfl⟩
  · have hnone : passes [.began clock] = [] := rfl
    obtain ⟨hw, hlast⟩ := warned_quiet hI.warned hnone rfl
    exact ⟨hw, hI.behind.trans hlast.symm⟩
  · have hnone : passes [.ready] = [] := rfl
    obtain ⟨hw, hlast⟩ := warned_quiet hI.warned hnone rfl
    exact ⟨hw, hI.behind.trans hlast.symm⟩
  · rw [List.append_nil, hbehind]
    exact ⟨hI.warned, hI.behind⟩

/-- A pass that the task is in has begun. -/
theorem Inv.began_step (hI : Inv retentionSecs s log) (h : s.step retentionSecs a = some (s', ev)) (clock : Int64) (pc : PrunerPc)
    (hpc' : s'.pc = .passing clock pc) : .began clock ∈ log ++ ev := by
  rcases step_cases h with ⟨clock', pc', b, pass, deleted, hpc, -, -, rfl, -⟩ | ⟨clock', _, -, -, rfl, rfl⟩ | ⟨-, rfl, -⟩ |
    ⟨-, -, -, -, hpc | ⟨-, -, hpc⟩ | hpc⟩
  · refine List.mem_append_left _ (hI.began clock pc' ?_)
    obtain ⟨-, -, ⟨_, hafter, -, -⟩ | ⟨_, hafter, -, -⟩ | ⟨_, hafter, -, -⟩⟩ := after_cases s clock' pass
    · cases hafter.symm.trans hpc'
      exact hpc
    · cases hafter.symm.trans hpc'
    · cases hafter.symm.trans hpc'
  · cases hpc'
    exact List.mem_append_right _ (List.mem_singleton.mpr rfl)
  · exact List.mem_append_left _ (hI.began clock pc hpc')
  · exact List.mem_append_left _ (hI.began clock pc (hpc.symm.trans hpc'))
  · cases hpc.symm.trans hpc'
  · cases hpc.symm.trans hpc'

/-- Until the daemon is ready, the task waits. -/
theorem Inv.idle_step (hI : Inv retentionSecs s log) (h : s.step retentionSecs a = some (s', ev)) :
    (s'.ready = true ∧ ∃ rest, log ++ ev = .ready :: rest) ∨
      (s'.ready = false ∧ log ++ ev = [] ∧ (s'.pc = .waiting ∨ s'.pc = .returned)) := by
  rcases hI.idle with ⟨hready, rest, hlog⟩ | ⟨hready, hlog, hpc⟩
  · refine Or.inl ⟨?_, rest ++ ev, by rw [hlog, List.cons_append]⟩
    rcases step_cases h with ⟨clock, pc, b, pass, deleted, -, -, -, rfl, -⟩ | ⟨_, _, -, -, rfl, -⟩ | ⟨-, rfl, -⟩ | ⟨-, hsame, -⟩
    · exact (after_cases s clock pass).2.1.trans hready
    · exact hready
    · rfl
    · exact hsame.trans hready
  · rcases step_cases h with ⟨clock, pc, b, pass, deleted, hpass, -⟩ | ⟨_, _, -, hselect, -⟩ | ⟨-, rfl, rfl⟩ |
      ⟨rfl, hsame, -, -, hpc' | ⟨-, hready', -⟩ | hpc'⟩
    · rcases hpc with hpc | hpc <;> cases hpc.symm.trans hpass
    · rcases hpc with hpc | hpc <;> cases hpc.symm.trans hselect
    · exact Or.inl ⟨rfl, [], by rw [hlog]; rfl⟩
    · exact Or.inr ⟨hsame.trans hready, by rw [hlog]; rfl, hpc' ▸ hpc⟩
    · cases hready.symm.trans hready'
    · exact Or.inr ⟨hsame.trans hready, by rw [hlog]; rfl, Or.inr hpc'⟩

theorem inv_step (hI : Inv retentionSecs s log) (h : s.step retentionSecs a = some (s', ev)) : Inv retentionSecs s' (log ++ ev) where
  warned := (hI.warned_step h).1
  behind := (hI.warned_step h).2
  old clock rows hmem := by
    rcases List.mem_append.mp hmem with hmem | hmem
    · exact ⟨List.mem_append_left _ (hI.old clock rows hmem).1, (hI.old clock rows hmem).2⟩
    · obtain ⟨⟨pc, hpc⟩, hold⟩ := deleted_of_step h hmem
      exact ⟨List.mem_append_left _ (hI.began clock pc hpc), hold⟩
  began := hI.began_step h
  idle := hI.idle_step h

/-- What a step of the task takes from the store. -/
theorem step_removed (h : s.step retentionSecs a = some (s', ev)) (ha : a.alone = true) :
    s'.db = { s.db with checkResults := s'.db.checkResults } ∧
      (s'.db.checkResults.rows ++ ev.flatMap PrunerEvent.removed).Perm s.db.checkResults.rows := by
  rcases step_cases h with ⟨clock, pc, b, pass, deleted, -, hb, hstep, rfl, rfl⟩ | ⟨_, _, -, -, rfl, rfl⟩ | ⟨-, rfl, rfl⟩ |
    ⟨rfl, -, -, hdb, -⟩
  · have hremoved : (deleted.map (PrunerEvent.deleted clock) ++ (s.after clock pass).2).flatMap PrunerEvent.removed =
        deleted.flatten := by
      have hafter : (s.after clock pass).2.flatMap PrunerEvent.removed = [] := by
        obtain ⟨-, -, ⟨_, -, -, hev⟩ | ⟨result, -, -, hev⟩ | ⟨error, -, -, hev⟩⟩ := after_cases s clock pass
        · rw [hev]
          rfl
        · rw [hev]
          split <;> rfl
        · rw [hev]
          rfl
      rw [List.flatMap_append, hafter, List.append_nil, List.flatMap_map]
      exact List.flatMap_id'
    rw [hremoved, (after_cases s clock pass).1]
    exact (pass_step hb hstep).2
  · exact ⟨rfl, by simp [PrunerEvent.removed]⟩
  · exact ⟨rfl, by simp [PrunerEvent.removed]⟩
  · rw [hdb ha]
    exact ⟨rfl, by simp⟩

end

end PassesAux

open PassesAux

/-- The pruner over its passes. In every run of the task, with anything the others do to the store in between: it warns that it is behind
once for each pass that completes with a backlog right after a pass that completed with one, and names that backlog; what a batch
deletes is from before the cutoff of its pass, which has begun; and before the daemon is ready nothing happens. With nobody else at
the store, the results that are gone in the end are those that the batches deleted, and nothing else is different. -/
theorem the_pruner_over_its_passes {retentionSecs : UInt64} {ok : PrunerTask → PrunerTaskAction → Prop} {db : Db} {s : PrunerTask}
    {log : List PrunerEvent} (h : Run (PrunerTask.step retentionSecs) ok (PrunerTask.start db) s log) :
    log.filterMap PrunerEvent.warning? = backlogWarnings none (log.filterMap PrunerEvent.outcome?) ∧
      (∀ clock rows, .deleted clock rows ∈ log →
        .began clock ∈ log ∧ ∀ row ∈ rows, row.olderThan (pruneCutoff clock retentionSecs) = true) ∧
      (log = [] ∨ ∃ rest, log = .ready :: rest) ∧
      ((∀ s a, ok s a → a.alone = true) → s.db = { db with checkResults := s.db.checkResults } ∧
        (s.db.checkResults.rows ++ log.flatMap PrunerEvent.removed).Perm db.checkResults.rows) := by
  have hI : Inv retentionSecs s log := by
    refine h.invariant (I := Inv retentionSecs) ?_ fun s s' log ev a hI _ hs => inv_step hI hs
    exact ⟨rfl, rfl, (fun _ _ hmem => by cases hmem), (fun _ _ hpc => by cases hpc), Or.inr ⟨rfl, rfl, Or.inl rfl⟩⟩
  refine ⟨hI.warned, hI.old, ?_, fun halone => ?_⟩
  · rcases hI.idle with ⟨-, hready⟩ | ⟨-, hlog, -⟩
    · exact Or.inr hready
    · exact Or.inl hlog
  · refine h.invariant (I := fun s log => s.db = { db with checkResults := s.db.checkResults } ∧
      (s.db.checkResults.rows ++ log.flatMap PrunerEvent.removed).Perm db.checkResults.rows) ⟨rfl, by simp [PrunerTask.start]⟩ ?_
    intro s s' log ev a hI hok hs
    obtain ⟨hdb, hperm⟩ := step_removed hs (halone s a hok)
    refine ⟨hdb.trans (by rw [hI.1]), ?_⟩
    rw [List.flatMap_append]
    refine List.Perm.trans ?_ hI.2
    have hswap : (s'.db.checkResults.rows ++ (log.flatMap PrunerEvent.removed ++ ev.flatMap PrunerEvent.removed)).Perm
        ((s'.db.checkResults.rows ++ ev.flatMap PrunerEvent.removed) ++ log.flatMap PrunerEvent.removed) := by
      rw [List.append_assoc]
      exact List.Perm.append_left _ List.perm_append_comm
    exact hswap.trans (hperm.append_right _)

/-! ## Two passes that are left behind -/

/-- So many results from time 100. -/
def oldResults (n : Nat) : List CheckResultRow := (List.range n).map fun i => ⟨Int64.ofNat (i + 1), 1, 1, 100, true, 5, none⟩

namespace PassesAux

theorem sorted_oldResults {n : Nat} (hn : n < 2 ^ 63) : (oldResults n).Pairwise fun a b => a.id < b.id := by
  refine List.pairwise_map.mpr (List.Pairwise.imp_of_mem ?_ List.pairwise_lt_range)
  intro i j hi hj hij
  have hj' := List.mem_range.mp hj
  rw [Int64.lt_iff_toInt_lt, Int64.toInt_ofNat_of_lt (by omega), Int64.toInt_ofNat_of_lt (by omega)]
  omega

end PassesAux

/-- A store with them. -/
def oldResultsDb (n : Nat) (hn : n < 2 ^ 63) : Db :=
  { Db.empty with checkResults := ⟨oldResults n, sorted_oldResults hn⟩ }

namespace PassesAux

theorem length_oldResultsDb {n : Nat} (hn : n < 2 ^ 63) : (oldResultsDb n hn).checkResults.rows.length = n := by
  change (oldResults n).length = n
  rw [oldResults, List.length_map, List.length_range]

theorem prunable_oldResultsDb {n : Nat} (hn : n < 2 ^ 63) :
    (oldResultsDb n hn).prunable 500 = (oldResultsDb n hn).checkResults.rows := by
  refine List.filter_eq_self.mpr fun row hrow => ?_
  obtain ⟨i, -, rfl⟩ := List.mem_map.mp hrow
  exact decide_eq_true (by decide : (100 : Int64) < (500 : UInt64).toInt64)

/-- A pass that has time for one full batch: it leaves the other old results, counts them as its backlog, and warns if the pass before
it has left some. -/
theorem run_short_pass {retentionSecs : UInt64} {s : PrunerTask} {clock : Int64} {backlog : UInt64} (hpc : s.pc = .select)
    (hlen : (s.db.prunable (PrunerTask.cutoff retentionSecs clock)).length = 10000 + backlog.toNat)
    (hcap : backlog.toNat ≤ 1000000) :
    ∃ s' rows, Run (PrunerTask.step retentionSecs) (fun _ a => a.alone = true) s s'
        (.began clock :: .deleted clock rows :: .completed ⟨10000, backlog⟩ ::
          if decide (0 < backlog) && s.behind.lastPassBehind then [.behind backlog] else []) ∧
      rows.length = 10000 ∧ s'.pc = .select ∧ s'.behind = ⟨decide (0 < backlog)⟩ ∧
      (s'.db.prunable (PrunerTask.cutoff retentionSecs clock)).length = backlog.toNat := by
  generalize hc : PrunerTask.cutoff retentionSecs clock = cutoff at hlen
  obtain ⟨hdeleted, hleft⟩ := PruningAux.perm_pruneInOrder (List.Perm.refl (s.db.prunable cutoff))
  have hfull : (s.db.pruneInOrder (s.db.prunable cutoff) BATCH_SIZE).2 = 10000 := by
    rw [← UInt64.toNat_inj, PruningAux.toNat_count, hlen]
    change min 10000 _ = 10000
    omega
  have hprune : s.db.pruneCheckResultsOlderThan cutoff BATCH_SIZE (s.db.prunable cutoff) =
      some (s.db.pruneInOrder (s.db.prunable cutoff) BATCH_SIZE) := if_pos (List.Perm.refl _)
  generalize s.db.pruneInOrder (s.db.prunable cutoff) BATCH_SIZE = pruned at hdeleted hleft hfull hprune
  obtain ⟨db, count⟩ := pruned
  cases hfull
  have hrest : (db.prunable cutoff).length = backlog.toNat := by
    rw [hleft.length_eq, List.length_drop, hlen]
    omega
  have hbacklog : db.countPrunableCheckResults cutoff BACKLOG_ESTIMATE_CAP = .ok backlog := by
    refine congrArg Except.ok (UInt64.toNat_inj.mp ?_)
    change ((db.prunable cutoff).take 1000000).length.toUInt64.toNat = _
    rw [List.length_take, PruningAux.toNat_toUInt64 (by omega), hrest]
    omega
  have htick : s.step retentionSecs (.tick clock) =
      some ({ s with pc := .passing clock (.batch 30 0 false) }, [.began clock]) := by
    simp only [PrunerTask.step, hpc]
    rfl
  have hbatch : PrunerTask.step retentionSecs { s with pc := .passing clock (.batch 30 0 false) }
      (.batch false false (s.db.prunable cutoff)) = some ({ s with db, pc := .passing clock (.batch 29 10000 true) },
        [.deleted clock (s.db.checkResults.rows.filter fun row => !db.checkResults.rows.contains row)]) := by
    simp only [PrunerTask.step, PrunerTask.inPass, Pruning.step, hc, hprune, Bool.false_eq_true, if_false, Option.map_some]
    rfl
  have hout : PrunerTask.step retentionSecs { s with db, pc := .passing clock (.batch 29 10000 true) } (.batch true false []) =
      some ({ s with db, pc := .passing clock (.counting 10000) }, []) := rfl
  have hdone : PrunerTask.step retentionSecs { s with db, pc := .passing clock (.counting 10000) } (.count false) =
      some ({ s with db, pc := .select, behind := ⟨decide (0 < backlog)⟩ }, .completed ⟨10000, backlog⟩ ::
        if decide (0 < backlog) && s.behind.lastPassBehind then [.behind backlog] else []) := by
    simp only [PrunerTask.step, PrunerTask.inPass, Pruning.step, hc, hbacklog]
    rfl
  have hstarted : Run (PrunerTask.step retentionSecs) (fun _ a => a.alone = true) s _ _ := Run.single rfl htick
  have hrun := ((hstarted.trans (.single rfl hbatch)).trans (.single rfl hout)).trans (.single rfl hdone)
  refine ⟨_, _, hrun, ?_, rfl, rfl, hrest⟩
  rw [hdeleted.length_eq, List.length_take, hlen]
  omega

end PassesAux

/-- Over 20001 old results, two passes at time 1000 that have time for one full batch each: the first has a backlog of 10001, the
second one of 1, and it warns that it is behind. -/
theorem the_pruner_over_its_passes_behind :
    ∃ s log, Run (PrunerTask.step 500) (fun _ a => a.alone = true) (PrunerTask.start (oldResultsDb 20001 (by decide))) s log ∧
      log.filterMap PrunerEvent.outcome? = [some 10001, some 1] ∧ log.filterMap PrunerEvent.warning? = [1] ∧
      s.db.checkResults.rows.length = 1 := by
  have hrows : (oldResultsDb 20001 (by decide)).checkResults.rows.length = 20001 := length_oldResultsDb _
  have hcutoff : PrunerTask.cutoff 500 1000 = 500 := by decide
  have hold : ((oldResultsDb 20001 (by decide)).prunable (PrunerTask.cutoff 500 1000)).length = 10000 + (10001 : UInt64).toNat := by
    rw [hcutoff, prunable_oldResultsDb, hrows]
    rfl
  generalize oldResultsDb 20001 (by decide) = db at hrows hold
  have hmark : PrunerTask.step 500 (PrunerTask.start db) .markReady =
      some ({ PrunerTask.start db with ready := true }, [.ready]) := rfl
  have hproceed : PrunerTask.step 500 { PrunerTask.start db with ready := true } .proceed =
      some (⟨db, true, false, .select, BehindTracker.default⟩, []) := rfl
  have hready : Run (PrunerTask.step 500) (fun _ a => a.alone = true) (PrunerTask.start db) _ _ := Run.single rfl hmark
  obtain ⟨s₁, rows₁, hrun₁, hrows₁, hpc₁, hbehind₁, hleft₁⟩ := run_short_pass
    (s := ⟨db, true, false, .select, BehindTracker.default⟩) rfl hold (by decide)
  have hleft₁ : (s₁.db.prunable (PrunerTask.cutoff 500 1000)).length = 10000 + (1 : UInt64).toNat := hleft₁
  obtain ⟨s₂, rows₂, hrun₂, hrows₂, -, -, -⟩ := run_short_pass hpc₁ hleft₁ (by decide)
  have h := ((hready.trans (.single rfl hproceed)).trans hrun₁).trans hrun₂
  rw [hbehind₁] at h
  obtain ⟨hwarned, -, -, hpruned⟩ := the_pruner_over_its_passes h
  refine ⟨s₂, _, h, rfl, hwarned.trans rfl, ?_⟩
  have hlength : (s₂.db.checkResults.rows ++ (rows₁ ++ (rows₂ ++ []))).length = db.checkResults.rows.length :=
    (hpruned fun _ _ h => h).2.length_eq
  simp only [List.length_append, List.length_nil, hrows₁, hrows₂, hrows] at hlength
  omega

end Monitra
