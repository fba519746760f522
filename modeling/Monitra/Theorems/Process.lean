import Monitra.Agent.Process

/-!
# Finding a process by its name

The kernel keeps the first 15 bytes of an executable's name in `comm`, with a newline behind. The check trims what it reads and
compares it with the whole name it looks for, so that a name of more than 15 bytes is never found.
-/

namespace Monitra

namespace Agents

/-- What the process directory lists: a process, by its number and the name of its executable; something else, with a name that is
no number; or an entry that the listing fails at. -/
inductive Listed where
  | process (pid exe : String)
  | other (fileName comm : Option String)
  | failed
  deriving DecidableEq, Repr

/-- The first 15 bytes of an ASCII name, which are its first 15 characters. -/
def truncated (exe : String) : String := String.ofList (exe.toList.take 15)

/-- The entry: `comm` has the truncated name and a newline. -/
def Listed.entry : Listed → Option ProcEntry
  | .process pid exe => some ⟨some pid, some (truncated exe ++ "\n")⟩
  | .other fileName comm => some ⟨fileName, comm⟩
  | .failed => none

/-- The process has a number and an ASCII name, and what is no process is not named by a number. -/
def Listed.Valid : Listed → Prop
  | .process pid exe => (Str.parseU32 pid).isOk = true ∧ ∀ c ∈ exe.toList, c.toNat < 128
  | .other fileName _ => ∀ name ∈ fileName, (Str.parseU32 name).isOk = false
  | .failed => True

instance : DecidablePred Listed.Valid
  -- not by the instance that goes through every character there is
  | .process _ exe => @instDecidableAnd _ (∀ c ∈ exe.toList, c.toNat < 128) inferInstance (List.decidableBAll _ _)
  | .other fileName _ => inferInstanceAs (Decidable (∀ name ∈ fileName, (Str.parseU32 name).isOk = false))
  | .failed => inferInstanceAs (Decidable True)

/-- A process whose executable's name agrees with a name on the first 15 bytes. -/
def Listed.agrees (name : String) : Listed → Bool
  | .process _ exe => (Str.asBytes exe).take 15 = (Str.asBytes name).take 15
  | _ => false

/-- A process whose executable's name has white space at an end of its first 15 bytes, which are a name apart from it. -/
def Listed.padded (name : String) : Listed → Bool
  | .process _ exe => truncated exe ≠ name ∧ Str.trim (truncated exe) = name
  | _ => false

/-- What the check is to find: success exactly if a process agrees with the name, and failure otherwise. -/
def FindsProcess (listed : List Listed) (name : String) (elapsedMs : UInt64) : Prop :=
  ((∃ latencyMs, checkProcess (.ok (listed.map Listed.entry)) name elapsedMs = .success latencyMs) ↔
      ∃ e ∈ listed, e.agrees name = true) ∧
    ((¬∃ e ∈ listed, e.agrees name = true) →
      ∃ message, checkProcess (.ok (listed.map Listed.entry)) name elapsedMs = .failure message)

namespace ProcessAux

/-- The bytes of the truncated name are the first 15 bytes of the name. -/
theorem asBytes_truncated {exe : String} (h : ∀ c ∈ exe.toList, c.toNat < 128) :
    Str.asBytes (truncated exe) = (Str.asBytes exe).take 15 := by
  have hexe := Str.asBytes_of_ascii h
  rw [String.ofList_toList] at hexe
  rw [truncated, Str.asBytes_of_ascii fun c hc => h c (List.mem_of_mem_take hc), List.map_take, hexe]

/-- An entry is found exactly if it is one of a process whose truncated name, trimmed, is the name. -/
theorem found_iff {e : Listed} (hvalid : e.Valid) (name : String) :
    (∃ entry ∈ e.entry, entry.found name = true) ↔ ∃ pid exe, e = .process pid exe ∧ Str.trim (truncated exe) = name := by
  cases e with
  | process pid exe =>
    have htrim : Str.trim (truncated exe ++ "\n") = Str.trim (truncated exe) := by
      have hnewline : truncated exe ++ "\n" = String.ofList (exe.toList.take 15 ++ ['\n']) := by
        rw [← String.toList_inj]
        simp [truncated]
      rw [hnewline, Str.trim_append (by decide)]
      rfl
    simp [Listed.entry, ProcEntry.found, hvalid.1, htrim]
  | other fileName comm =>
    cases fileName with
    | none => simp [Listed.entry, ProcEntry.found]
    | some file =>
      have hfile := hvalid file rfl
      simp [Listed.entry, ProcEntry.found, hfile]
  | failed => simp [Listed.entry]

/-- A process agrees with a name of at most 15 bytes exactly if its truncated name is the name. -/
theorem agrees_iff {pid exe name : String} (hascii : ∀ c ∈ exe.toList, c.toNat < 128) (hshort : (Str.asBytes name).length ≤ 15) :
    (Listed.process pid exe).agrees name = true ↔ truncated exe = name := by
  rw [Listed.agrees, decide_eq_true_eq, ← asBytes_truncated hascii, List.take_of_length_le hshort, Str.asBytes_inj]

/-- What is left of a truncated name has at most 15 bytes. -/
theorem length_le_of_trim {exe name : String} (hascii : ∀ c ∈ exe.toList, c.toNat < 128)
    (htrim : Str.trim (truncated exe) = name) : (Str.asBytes name).length ≤ 15 := by
  have hsub : name.toList.Sublist (exe.toList.take 15) := by
    have hsub := Str.sublist_trim (truncated exe)
    rwa [htrim, truncated, String.toList_ofList] at hsub
  have hbytes : Str.asBytes name = name.toList.map fun c => c.val.toUInt8 := by
    have hbytes := Str.asBytes_of_ascii (l := name.toList) fun c hc => hascii c (List.mem_of_mem_take (hsub.subset hc))
    rwa [String.ofList_toList] at hbytes
  rw [hbytes, List.length_map]
  exact Nat.le_trans hsub.length_le (List.length_take_le 15 _)

variable {listed : List Listed}

/-- The check succeeds exactly if the truncated name of some process, trimmed, is the name, and fails otherwise. -/
theorem checkProcess_eq (name : String) (elapsedMs : UInt64) (hvalid : ∀ e ∈ listed, e.Valid) :
    ((∃ latencyMs, checkProcess (.ok (listed.map Listed.entry)) name elapsedMs = .success latencyMs) ↔
        ∃ pid exe, .process pid exe ∈ listed ∧ Str.trim (truncated exe) = name) ∧
      ((∃ latencyMs, checkProcess (.ok (listed.map Listed.entry)) name elapsedMs = .success latencyMs) ∨
        ∃ message, checkProcess (.ok (listed.map Listed.entry)) name elapsedMs = .failure message) := by
  have hany : ((listed.map Listed.entry).filterMap id).any (·.found name) = true ↔
      ∃ pid exe, .process pid exe ∈ listed ∧ Str.trim (truncated exe) = name := by
    simp only [List.any_eq_true, List.mem_filterMap, List.mem_map, id_eq]
    constructor
    · rintro ⟨entry, ⟨_, ⟨e, he, rfl⟩, hentry⟩, hfound⟩
      obtain ⟨pid, exe, rfl, htrim⟩ := (found_iff (hvalid e he) name).mp ⟨entry, hentry, hfound⟩
      exact ⟨pid, exe, he, htrim⟩
    · rintro ⟨pid, exe, he, htrim⟩
      obtain ⟨entry, hentry, hfound⟩ := (found_iff (hvalid _ he) name).mpr ⟨pid, exe, rfl, htrim⟩
      exact ⟨entry, ⟨_, ⟨_, he, rfl⟩, hentry⟩, hfound⟩
  rw [← hany, checkProcess, checkProcessIn, scan_eq]
  split
  · rename_i hfound
    exact ⟨⟨fun _ => hfound, fun _ => ⟨elapsedMs, rfl⟩⟩, Or.inl ⟨elapsedMs, rfl⟩⟩
  · rename_i hfound
    refine ⟨⟨?_, fun h => absurd h hfound⟩, Or.inr ⟨_, rfl⟩⟩
    rintro ⟨latencyMs, h⟩
    cases h

end ProcessAux

open ProcessAux in
/-- For every directory and every name without white space at its ends, the check finds the process as it should exactly if no
process agrees with a name of more than 15 bytes, and a process agrees if one has the name with white space around it. -/
theorem finds_process_iff {listed : List Listed} {name : String} (elapsedMs : UInt64) (hvalid : ∀ e ∈ listed, e.Valid)
    (hname : Str.trim name = name) :
    FindsProcess listed name elapsedMs ↔
      ((∃ e ∈ listed, e.agrees name = true) → (Str.asBytes name).length ≤ 15) ∧
        ((∃ e ∈ listed, e.padded name = true) → ∃ e ∈ listed, e.agrees name = true) := by
  obtain ⟨hsuccess, hor⟩ := checkProcess_eq name elapsedMs hvalid
  have hfails : FindsProcess listed name elapsedMs ↔
      ((∃ pid exe, .process pid exe ∈ listed ∧ Str.trim (truncated exe) = name) ↔ ∃ e ∈ listed, e.agrees name = true) := by
    constructor
    · exact fun h => hsuccess.symm.trans h.1
    · refine fun h => ⟨hsuccess.trans h, fun hnone => hor.resolve_left fun hs => hnone (h.mp (hsuccess.mp hs))⟩
  rw [hfails]
  constructor
  · intro h
    constructor
    · intro hagrees
      obtain ⟨pid, exe, he, htrim⟩ := h.mpr hagrees
      exact length_le_of_trim (hvalid _ he).2 htrim
    · rintro ⟨e, he, hpadded⟩
      cases e with
      | process pid exe =>
        rw [Listed.padded, decide_eq_true_eq] at hpadded
        exact h.mp ⟨pid, exe, he, hpadded.2⟩
      | other | failed => cases hpadded
  · rintro ⟨hshort, hpadded⟩
    constructor
    · rintro ⟨pid, exe, he, htrim⟩
      by_cases heq : truncated exe = name
      · exact ⟨_, he, (agrees_iff (hvalid _ he).2 (length_le_of_trim (hvalid _ he).2 htrim)).mpr heq⟩
      · exact hpadded ⟨_, he, decide_eq_true ⟨heq, htrim⟩⟩
    · rintro ⟨e, he, hagrees⟩
      have hlength := hshort ⟨e, he, hagrees⟩
      cases e with
      | process pid exe =>
        refine ⟨pid, exe, he, ?_⟩
        rw [(agrees_iff (hvalid _ he).2 hlength).mp hagrees, hname]
      | other | failed => cases hagrees

/-- A process with a name of 18 bytes, among entries that are no processes. -/
def longName : List Listed := [.other (some "self") none, .process "42" "prometheus-adapter", .failed]

/-- It is reported as not running. -/
theorem long_name_not_found :
    ¬∀ listed name elapsedMs, (∀ e ∈ listed, Listed.Valid e) → Str.trim name = name → name ≠ "" →
      FindsProcess listed name elapsedMs := by
  intro h
  obtain ⟨⟨-, hfound⟩, -⟩ := h longName "prometheus-adapter" 3 (by decide +kernel) (by decide +kernel) (by decide)
  obtain ⟨latencyMs, hsuccess⟩ := hfound ⟨.process "42" "prometheus-adapter", .tail _ (.head _), by decide +kernel⟩
  have hfailure : checkProcess (.ok (longName.map Listed.entry)) "prometheus-adapter" 3 =
      .failure "no running process named 'prometheus-adapter'" := by
    decide +kernel
  cases hfailure.symm.trans hsuccess

/-- A short name is found, behind a process that has it with a space before it. -/
theorem short_name_found : FindsProcess [.process "7" " postgres", .process "42" "postgres"] "postgres" 3 := by
  refine (finds_process_iff 3 (by decide +kernel) (by decide +kernel)).mpr ⟨fun _ => by decide +kernel, fun _ => ?_⟩
  exact ⟨.process "42" "postgres", .tail _ (.head _), by decide +kernel⟩

end Agents

end Monitra
