import Monitra.Library.Channel
import Monitra.Storage.Store

/-!
# The batched writer (`crates/engine/src/writer.rs`)

One task owns the batch. Results arrive through a bounded channel whose senders never wait; the batch is flushed when it is
full, on a tick, and when the channel closes. A flush waits for the store, so the task can be found there by a step of
another party (`WriterPc.flushing`).
-/

namespace Monitra

/-- The answer of the store: its own, or an error when it fails. -/
def answer {α : Type} (fault : Bool) (r : Except StorageError α) : Except StorageError α :=
  if fault then .error (.queryFailed (.other "fault")) else r

/-- Where the writer task is: in its `select!`, waiting for the store in `flush` (and whether it returns after that), or done. -/
inductive WriterPc where
  | select
  | flushing (exit : Bool)
  | exited
  deriving DecidableEq, Repr

structure Writer where
  queue : List CheckResult
  batch : List CheckResult
  pc : WriterPc
  deriving DecidableEq, Repr

namespace Writer

def spawn : Writer := ⟨[], [], .select⟩

/-- `submit` for each result: dropped when the channel is full. -/
def submit (capacity : Nat) (w : Writer) (results : List CheckResult) : Writer :=
  { w with queue := Channel.sendAll capacity w.queue results }

/-- `flush` up to its await: with an empty batch there is nothing to wait for. -/
def startFlush (w : Writer) (exit : Bool) : Writer :=
  { w with pc := if w.batch.isEmpty then (if exit then .exited else .select) else .flushing exit }

/-- `rx.recv()`: a result joins the batch; a closed and empty channel makes the task flush and return. -/
def recv (batchSize : Nat) (closed : Bool) (w : Writer) : Option Writer :=
  match w.pc, w.queue with
  | .select, result :: queue =>
    let w := { w with queue, batch := w.batch ++ [result] }
    some (if batchSize ≤ w.batch.length then w.startFlush false else w)
  | .select, [] => if closed then some (w.startFlush true) else none
  | _, _ => none

/-- The flush tick. -/
def tick (w : Writer) : Option Writer :=
  match w.pc with
  | .select => some (w.startFlush false)
  | _ => none

/-- The store answers `insert_check_results`: the batch is cleared whatever the answer. -/
def flush (w : Writer) (db : Db) (fault : Bool) (pick : List Int64 → Int64) : Option (Writer × Db) :=
  match w.pc with
  | .flushing exit =>
    let w' : Writer := { w with batch := [], pc := if exit then .exited else .select }
    match answer fault (db.insertCheckResults pick w.batch) with
    | .ok db' => some (w', db')
    | .error _ => some (w', db)
  | _ => none

end Writer

end Monitra
