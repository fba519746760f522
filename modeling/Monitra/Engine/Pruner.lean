import Monitra.Backend.History
import Monitra.Engine.Writer
import Monitra.Storage.Ops

/-!
# The retention pruner (`crates/engine/src/pruner.rs`)

One pass of the pruner, with whatever else uses the store between its batches. How long a pass has been running is asked before
each batch, and whether the time is up then is part of the action.

The task (`PrunerTask`) makes such passes, one after the other, from when the daemon is ready. Its interval is left out: a pass may
begin at any time. What is told of a step is what is logged, the rows that a batch deletes, and when the daemon is ready.
-/

namespace Monitra

namespace Pruner

def BATCH_SIZE : UInt64 := 10000
def BACKLOG_ESTIMATE_CAP : UInt64 := 1000000

/-- `u64::saturating_add`. -/
def saturatingAdd (a b : UInt64) : UInt64 := UInt64.ofNat (min (a.toNat + b.toNat) (2 ^ 64 - 1))

/-- The seconds of `SystemTime::now()` since the epoch; a clock before it counts as the epoch. -/
def nowUnixSecs (clock : Int64) : UInt64 := if clock < 0 then 0 else clock.toUInt64

/-- What a pass reports. -/
structure PassResult where
  rows : UInt64
  backlog : UInt64
  deriving DecidableEq, Repr

end Pruner

/-- Where a pass is. -/
inductive PrunerPc where
  /-- At the head of its loop, with so many turns to come. -/
  | batch (turns : Nat) (rows : UInt64) (lastFull : Bool)
  /-- Waiting for the count of the backlog. -/
  | counting (rows : UInt64)
  | done (result : Except StorageError Pruner.PassResult)
  deriving DecidableEq

/-- A pass and the store. -/
structure Pruning where
  db : Db
  cutoff : UInt64
  pc : PrunerPc

inductive PrunerAction where
  /-- A turn of the loop: whether the time is up, whether the store fails, and the old rows as the store comes to them. -/
  | batch (timeUp fault : Bool) (old : List CheckResultRow)
  | count (fault : Bool)
  /-- Another party's operation on the store. -/
  | store (op : StoreOp) (pick : List Int64 → Int64)

namespace Pruning

open Pruner

/-- `run_pass` up to its loop. -/
def start (db : Db) (clock : Int64) (retentionSecs maxBatches : UInt64) : Pruning where
  db := db
  cutoff := Service.saturatingSub (nowUnixSecs clock) retentionSecs
  pc := .batch maxBatches.toNat 0 false

/-- After the loop: the backlog is counted if the last batch was full. -/
def leave (rows : UInt64) (lastFull : Bool) : PrunerPc := if lastFull then .counting rows else .done (.ok ⟨rows, 0⟩)

/-- A step, and the rows that a batch deleted: those that the table had and has no more. -/
def step (s : Pruning) : PrunerAction → Option (Pruning × List (List CheckResultRow))
  | .batch timeUp fault old =>
    match s.pc with
    | .batch 0 rows lastFull => some ({ s with pc := leave rows lastFull }, [])
    | .batch (turns + 1) rows lastFull =>
      if timeUp then some ({ s with pc := leave rows lastFull }, [])
      else
        (s.db.pruneCheckResultsOlderThan s.cutoff BATCH_SIZE old).map fun pruned =>
          match answer fault (.ok pruned) with
          | .error source => ({ s with pc := .done (.error source) }, [])
          | .ok (db, count) =>
            let rows := saturatingAdd rows count
            let pc := if count = BATCH_SIZE then .batch turns rows true else leave rows false
            ({ s with db, pc }, [s.db.checkResults.rows.filter fun row => !db.checkResults.rows.contains row])
    | _ => none
  | .count fault =>
    match s.pc with
    | .counting rows =>
      match answer fault (s.db.countPrunableCheckResults s.cutoff BACKLOG_ESTIMATE_CAP) with
      | .error source => some ({ s with pc := .done (.error source) }, [])
      | .ok backlog => some ({ s with pc := .done (.ok ⟨rows, backlog⟩) }, [])
    | _ => none
  | .store op pick =>
    match s.db.perform pick op with
    | .ok (db, _) => some ({ s with db }, [])
    | .error _ => none

end Pruning

/-! ## The task -/

namespace Pruner

def MAX_BATCHES : UInt64 := 30

end Pruner

structure BehindTracker where
  lastPassBehind : Bool
  deriving DecidableEq, Repr

/-- `BehindTracker::default()`. -/
def BehindTracker.default : BehindTracker := ⟨false⟩

def BehindTracker.consecutiveBacklog (behind : BehindTracker) (backlog : UInt64) : BehindTracker × Bool :=
  (⟨decide (0 < backlog)⟩, decide (0 < backlog) && behind.lastPassBehind)

/-- Where the task is. -/
inductive PrunerTaskPc where
  /-- Waiting until the daemon is ready. -/
  | waiting
  /-- In the `select!` of its loop. -/
  | select
  /-- In the pass that began at a time. -/
  | passing (clock : Int64) (pc : PrunerPc)
  | returned
  deriving DecidableEq

structure PrunerTask where
  db : Db
  ready : Bool
  shutdown : Bool
  pc : PrunerTaskPc
  behind : BehindTracker

inductive PrunerTaskAction where
  /-- `EngineHandle::mark_ready`. -/
  | markReady
  /-- The shutdown signal is sent, or its sender is dropped. -/
  | signal
  /-- The task sees that the daemon is ready. -/
  | proceed
  /-- The task sees the shutdown signal. -/
  | stop
  /-- `ticker.tick()`, at a time. -/
  | tick (clock : Int64)
  /-- A turn of the loop of a pass, as in `PrunerAction`. -/
  | batch (timeUp fault : Bool) (old : List CheckResultRow)
  | count (fault : Bool)
  /-- Another party's operation on the store. -/
  | store (op : StoreOp) (pick : List Int64 → Int64)

inductive PrunerEvent where
  | ready
  | began (clock : Int64)
  /-- A batch of the pass that began at a time deleted rows. -/
  | deleted (clock : Int64) (rows : List CheckResultRow)
  /-- "engine: result pruning pass completed" -/
  | completed (result : Pruner.PassResult)
  /-- "engine: result pruner is behind on consecutive passes" -/
  | behind (remainingAtLeast : UInt64)
  /-- "engine: result pruning pass failed" -/
  | failed (error : StorageError)
  deriving DecidableEq

namespace PrunerTask

open Pruner

def start (db : Db) : PrunerTask := ⟨db, false, false, .waiting, BehindTracker.default⟩

/-- The moment that a pass keeps results from on. -/
def cutoff (retentionSecs : UInt64) (clock : Int64) : UInt64 := Service.saturatingSub (nowUnixSecs clock) retentionSecs

/-- What the task does after a step of its pass: it goes on with the pass, or deals with what the pass came to. -/
def after (s : PrunerTask) (clock : Int64) (pass : Pruning) : PrunerTask × List PrunerEvent :=
  let s := { s with db := pass.db }
  match pass.pc with
  | .done (.ok result) =>
    let (behind, warn) := s.behind.consecutiveBacklog result.backlog
    ({ s with pc := .select, behind }, .completed result :: if warn then [.behind result.backlog] else [])
  | .done (.error error) => ({ s with pc := .select, behind := BehindTracker.default }, [.failed error])
  | pc => ({ s with pc := .passing clock pc }, [])

/-- A step of the pass that the task is in. -/
def inPass (retentionSecs : UInt64) (s : PrunerTask) (a : PrunerAction) : Option (PrunerTask × List PrunerEvent) :=
  match s.pc with
  | .passing clock pc =>
    match (Pruning.mk s.db (cutoff retentionSecs clock) pc).step a with
    | some (pass, deleted) =>
      let (s, events) := s.after clock pass
      some (s, deleted.map (.deleted clock) ++ events)
    | none => none
  | _ => none

def step (retentionSecs : UInt64) (s : PrunerTask) : PrunerTaskAction → Option (PrunerTask × List PrunerEvent)
  | .markReady => some ({ s with ready := true }, [.ready])
  | .signal => some ({ s with shutdown := true }, [])
  | .proceed =>
    match s.pc with
    | .waiting => if s.ready then some ({ s with pc := .select }, []) else none
    | _ => none
  | .stop =>
    match s.pc with
    | .waiting | .select => if s.shutdown then some ({ s with pc := .returned }, []) else none
    | _ => none
  | .tick clock =>
    match s.pc with
    | .select => some ({ s with pc := .passing clock (Pruning.start s.db clock retentionSecs MAX_BATCHES).pc }, [.began clock])
    | _ => none
  | .batch timeUp fault old => s.inPass retentionSecs (.batch timeUp fault old)
  | .count fault => s.inPass retentionSecs (.count fault)
  | .store op pick =>
    match s.db.perform pick op with
    | .ok (db, _) => some ({ s with db }, [])
    | .error _ => none

end PrunerTask

end Monitra
