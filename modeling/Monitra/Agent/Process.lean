import Monitra.Library.Str
import Monitra.Models

/-!
# The process check of the agent (`crates/agent/src/checks/process.rs`)

The check lists a directory, `/proc`, and compares the `comm` file of each process with the name it looks for. What the directory
has is an argument.
-/

namespace Monitra

namespace Agents

/-- An entry of the directory: its name if it is text, and its `comm` file if it can be read as text. -/
structure ProcEntry where
  fileName : Option String
  comm : Option String
  deriving DecidableEq, Repr

/-- The loop over the entries. One that is not named by a number, or whose `comm` cannot be read, is passed over. -/
def scan (name : String) (elapsedMs : UInt64) : List ProcEntry → ProbeOutcome
  | [] => .failure ("no running process named '" ++ name ++ "'")
  | entry :: rest =>
    match entry.fileName with
    | none => scan name elapsedMs rest
    | some pidStr =>
      match Str.parseU32 pidStr with
      | .error _ => scan name elapsedMs rest
      | .ok _ =>
        match entry.comm with
        | none => scan name elapsedMs rest
        | some comm => if Str.trim comm = name then .success elapsedMs else scan name elapsedMs rest

/-- `check_process_in`. An entry that the listing fails at is none. -/
def checkProcessIn (procDir : String) (entries : Except String (List (Option ProcEntry))) (name : String) (elapsedMs : UInt64) :
    ProbeOutcome :=
  match entries with
  | .error err => .unavailable ("agent: failed to read " ++ procDir ++ ": " ++ err)
  | .ok entries => scan name elapsedMs (entries.filterMap id)

def checkProcess (entries : Except String (List (Option ProcEntry))) (name : String) (elapsedMs : UInt64) : ProbeOutcome :=
  checkProcessIn "/proc" entries name elapsedMs

/-- Whether an entry is one that the loop ends at. -/
def ProcEntry.found (name : String) (entry : ProcEntry) : Bool :=
  entry.fileName.any (fun pidStr => (Str.parseU32 pidStr).isOk) && entry.comm.any fun comm => decide (Str.trim comm = name)

/-- The loop ends at an entry found, wherever it is, and fails without one. -/
theorem scan_eq (name : String) (elapsedMs : UInt64) (entries : List ProcEntry) :
    scan name elapsedMs entries =
      if entries.any (·.found name) then .success elapsedMs
      else .failure ("no running process named '" ++ name ++ "'") := by
  induction entries with
  | nil => rfl
  | cons entry rest ih =>
    obtain ⟨fileName, comm⟩ := entry
    rw [scan, List.any_cons, ih]
    cases fileName with
    | none => simp [ProcEntry.found]
    | some pidStr =>
      cases hpid : Str.parseU32 pidStr with
      | error e => simp [ProcEntry.found, hpid, Except.isOk, Except.toBool]
      | ok pid =>
        cases comm with
        | none => simp [ProcEntry.found, hpid]
        | some comm =>
          by_cases hname : Str.trim comm = name
          · simp [ProcEntry.found, hpid, hname, Except.isOk, Except.toBool]
          · simp [ProcEntry.found, hpid, hname]

end Agents

end Monitra
