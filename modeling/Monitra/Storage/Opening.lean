import Monitra.Storage.Migrations

/-!
# Processes that open one database file

Any number of processes run the migrations on one file, a statement at a time, and each can crash between any two. What one of
them has not committed the others do not see, and one writes at a time. A transaction is deferred: it begins to write with its
first statement, and waits there while another process writes. An error or a crash in a transaction rolls it back.
-/

namespace Monitra

namespace Migrations

open Sql

/-- Where a process that runs the migrations is. -/
inductive MigratorPc where
  /-- About to create the table of records. -/
  | creating
  /-- About to ask whether the first of the migrations that are left is recorded; with none left, about to return. -/
  | testing (rest : List (String × List Statement))
  /-- In the transaction of a migration, and about to begin to write. -/
  | beginning (version : String) (statements : List Statement) (rest : List (String × List Statement))
  /-- With the statements of the migration that are still to come; with none left, about to record it. -/
  | executing (version : String) (todo : List Statement) (rest : List (String × List Statement))
  | committing (version : String) (rest : List (String × List Statement))
  | returned (result : Except StorageError Unit)
  | crashed
  deriving DecidableEq

/-- A process that will do no more. -/
def MigratorPc.isDone : MigratorPc → Bool
  | .returned _ | .crashed => true
  | _ => false

inductive MigratorAction where
  /-- The next statement of the process, at a time. -/
  | statement (now : Int64)
  | crash
  deriving DecidableEq

/-- The file, the process that is writing to it, with what it has made of it, and the processes. -/
structure Opening (ι : Type) where
  db : Database
  writer : Option (ι × Database)
  pc : ι → MigratorPc

namespace Opening

variable {ι : Type} [DecidableEq ι]

/-- No process has done anything yet. -/
def start (db : Database) : Opening ι := ⟨db, none, fun _ => .creating⟩

def goto (x : Opening ι) (p : ι) (pc : MigratorPc) : Opening ι := { x with pc := Function.update x.pc p pc }

/-- What a process has made of the database in its transaction. -/
def copy? (x : Opening ι) (p : ι) : Option Database := x.writer.bind fun w => if w.1 = p then some w.2 else none

/-- A process does no more, and its transaction, if it is in one, is rolled back. -/
def leave (x : Opening ι) (p : ι) (pc : MigratorPc) : Opening ι :=
  { x.goto p pc with writer := if (x.copy? p).isSome then none else x.writer }

def fail (x : Opening ι) (p : ι) (version e : String) : Opening ι :=
  x.leave p (.returned (.error (.migrationFailed version (.other e))))

/-- The next statement of a process. -/
def statement (x : Opening ι) (p : ι) (now : Int64) : Option (Opening ι × List String) :=
  match x.pc p with
  | .creating =>
    -- with the table there the statement writes nothing, and does not wait
    if (x.db.columns? "schema_migrations").isNone ∧ x.writer.isSome then none
    else
      match x.db.createTableIfNotExists "schema_migrations" recordColumns with
      | .error e => some (x.fail p "schema_migrations" e, [])
      | .ok db => some ({ x.goto p (.testing MIGRATIONS) with db }, [])
  | .testing [] => some (x.goto p (.returned (.ok ())), [])
  | .testing ((version, statements) :: rest) =>
    match x.db.existsWhere "schema_migrations" "version" (.text version) with
    | .error e => some (x.fail p version e, [])
    | .ok true => some (x.goto p (.testing rest), [])
    | .ok false => some (x.goto p (.beginning version statements rest), [])
  | .beginning version statements rest =>
    match x.writer with
    | some _ => none
    | none => some ({ x.goto p (.executing version statements rest) with writer := some (p, x.db) }, [])
  | .executing version (s :: todo) rest =>
    (x.copy? p).map fun copy =>
      match copy.exec s with
      | .error e => (x.fail p version e, [])
      | .ok copy => ({ x.goto p (.executing version todo rest) with writer := some (p, copy) }, [])
  | .executing version [] rest =>
    (x.copy? p).map fun copy =>
      match copy.insert "schema_migrations" [.text version, .integer now] with
      | .error e => (x.fail p version e, [])
      | .ok copy => ({ x.goto p (.committing version rest) with writer := some (p, copy) }, [])
  | .committing version rest =>
    (x.copy? p).map fun copy => ({ x.goto p (.testing rest) with db := copy, writer := none }, [version])
  | .returned _ | .crashed => none

/-- One step of one process. What it tells is the version it commits. -/
def step (x : Opening ι) : ι × MigratorAction → Option (Opening ι × List String)
  | (p, .statement now) => x.statement p now
  | (p, .crash) => if (x.pc p).isDone then none else some (x.leave p .crashed, [])

end Opening

end Migrations

end Monitra
