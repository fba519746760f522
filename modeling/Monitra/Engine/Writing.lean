import Monitra.Engine.System
import Monitra.Storage.Ops

/-!
# A run of the writer

The writer task by itself, with whoever submits results and whatever else uses the store. The senders submit until the last of
them is dropped.
-/

namespace Monitra

structure Writing where
  writer : Writer
  db : Db
  /-- Every `Writer` handle has been dropped. -/
  closed : Bool

inductive WritingAction where
  | submit (result : CheckResult)
  | close
  /-- The task goes on. -/
  | task (a : WriterAction)
  /-- Another party's operation on the store. -/
  | store (op : StoreOp) (pick : List Int64 → Int64)

inductive WritingEvent where
  | accepted (result : CheckResult)
  | dropped (result : CheckResult)
  | inserted (batch : List CheckResult)
  /-- "batched check-result write failed, results lost" -/
  | failed (batch : List CheckResult)
  deriving DecidableEq, Repr

namespace Writing

def start (db : Db) : Writing := ⟨Writer.spawn, db, false⟩

def step (cfg : EngineConfig) (s : Writing) : WritingAction → Option (Writing × List WritingEvent)
  | .submit result =>
    if s.closed then none
    else
      some ({ s with writer := s.writer.submit cfg.writerCapacity [result] },
        [if s.writer.queue.length < cfg.writerCapacity then .accepted result else .dropped result])
  | .close => if s.closed then none else some ({ s with closed := true }, [])
  | .task .recv => (s.writer.recv cfg.writerBatchSize s.closed).map fun writer => ({ s with writer }, [])
  | .task .tick => s.writer.tick.map fun writer => ({ s with writer }, [])
  | .task (.flush fault pick) =>
    (s.writer.flush s.db fault pick).map fun (writer, db) =>
      ({ s with writer, db },
        [match answer fault (s.db.insertCheckResults pick s.writer.batch) with
          | .ok _ => .inserted s.writer.batch
          | .error _ => .failed s.writer.batch])
  | .store op pick =>
    match s.db.perform pick op with
    | .ok (db, _) => some ({ s with db }, [])
    | .error _ => none

end Writing

end Monitra
