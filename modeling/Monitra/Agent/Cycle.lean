import Monitra.Library.Bounded
import Monitra.Agent.Run

/-!
# One cycle of the agent (`run_cycle`)

A call of `run_cycle` that is not interrupted, with everything that its checks, its probes and the backend answer as arguments.
The last call, at the shutdown signal, has no checks and does not ask for assignments.
-/

namespace Monitra

namespace Agents

/-- What a call meets. -/
structure Cycle where
  /-- The local checks, with what each finds. -/
  checks : List (CheckDefinition × ProbeOutcome)
  /-- The assignments fetched, with what the probe of each finds. None when the request fails, or is not made. -/
  assignments : Option (List (AssignmentDto × ProbeOutcome))
  /-- Whether the push succeeds. -/
  pushOk : Bool

/-- The result of an assignment; one that is no network probe has none. -/
def assignmentResult (x : AssignmentDto × ProbeOutcome) : Option PendingResult :=
  x.1.probeKind.map fun _ => ⟨x.1.monitorId, x.2⟩

/-- The results of the call, in order. -/
def Cycle.results (c : Cycle) : List PendingResult :=
  (c.checks.map fun x => ⟨x.1.monitorId, x.2⟩) ++ (c.assignments.getD []).filterMap assignmentResult

/-- What becomes of results. -/
inductive CycleEvent where
  | produced (results : List PendingResult)
  /-- A push succeeded. -/
  | delivered (batch : List PendingResult)
  /-- "agent: push buffer full, dropping oldest buffered result", for each. -/
  | dropped (results : List PendingResult)
  deriving DecidableEq, Repr

/-- Take everything out of the buffer. -/
def PushBuffer.drain (buffer : PushBuffer) : PushBuffer × List PendingResult := ({ buffer with queue := [] }, buffer.queue)

def runCycle (buffer : PushBuffer) (c : Cycle) : PushBuffer × List CycleEvent :=
  let (buffer, batch) := buffer.drain
  let batch := batch ++ c.results
  if c.pushOk then (buffer, [.produced c.results, .delivered batch])
  else (buffer.pushBackAll batch, [.produced c.results, .dropped (Bounded.evictedAll buffer.capacity buffer.queue batch)])

/-- A step is a call. -/
def cycleStep (buffer : PushBuffer) (c : Cycle) : Option (PushBuffer × List CycleEvent) := some (runCycle buffer c)

/-! ## The cycles of the process -/

namespace AgentProcess

/-- The local checks end one after the other. -/
theorem foldlM_check (outcomes : List ProbeOutcome) :
    ∀ {definitions : List CheckDefinition} {results : List PendingResult} {p : AgentProcess},
      p.pc = .checking definitions results → outcomes.length = definitions.length →
      outcomes.foldlM check p =
        some { p with pc := .checking [] (results ++ List.zipWith (fun d o => ⟨d.monitorId, o⟩) definitions outcomes) } := by
  induction outcomes with
  | nil =>
    intro definitions results p hpc hlen
    obtain rfl := List.length_eq_zero_iff.mp hlen.symm
    rw [List.foldlM_nil, List.zipWith_nil_right, List.append_nil, ← hpc]
    rfl
  | cons outcome outcomes ih =>
    intro definitions results p hpc hlen
    cases definitions with
    | nil => cases hlen
    | cons d definitions =>
      have hcheck : p.check outcome = some { p with pc := .checking definitions (results ++ [⟨d.monitorId, outcome⟩]) } := by
        rw [check, hpc]
      rw [List.foldlM_cons, hcheck, Option.bind_eq_bind, Option.bind_some, ih rfl (by simpa using hlen), List.zipWith_cons_cons,
        List.append_assoc, List.singleton_append]

/-- The probes end one after the other, each at some moment. -/
theorem foldlM_probed (assigned : List (AssignmentDto × ProbeOutcome)) (moment : AssignmentDto × ProbeOutcome → Instant) :
    ∀ {now : Instant} {results : List PendingResult} {p : AgentProcess}, p.pc = goOn (assigned.map (·.1)) now results →
      (assigned.filter fun x => x.1.probeKind.isSome).foldlM (fun p x => p.probed (moment x) x.2) p =
        some { p with pc := .pushing (results ++ assigned.filterMap assignmentResult) } := by
  induction assigned with
  | nil =>
    intro now results p hpc
    rw [List.filter_nil, List.foldlM_nil, List.filterMap_nil, List.append_nil]
    exact congrArg some (by rw [← show p.pc = .pushing results from hpc])
  | cons x assigned ih =>
    intro now results p hpc
    cases hk : x.1.probeKind with
    | none =>
      rw [List.filter_cons_of_neg (by simp [hk]), List.filterMap_cons_none (by simp [assignmentResult, hk])]
      refine @ih now results p ?_
      rw [hpc, goOn, goOn, List.map_cons, List.filter_cons_of_neg (by simp [hk])]
    | some kind =>
      have hprobed : p.probed (moment x) x.2 =
          some { p with pc := goOn (assigned.map (·.1)) (moment x) (results ++ [⟨x.1.monitorId, x.2⟩]) } := by
        rw [goOn, List.map_cons, List.filter_cons_of_pos (by simp [hk])] at hpc
        rw [probed, hpc]
        simp only [goOn, List.filter_filter, Bool.and_self]
      rw [List.filter_cons_of_pos (by simp [hk]), List.foldlM_cons, hprobed, Option.bind_eq_bind, Option.bind_some, ih rfl,
        List.filterMap_cons_some (b := ⟨x.1.monitorId, x.2⟩) (by simp [assignmentResult, hk]), List.append_assoc,
        List.singleton_append]

/-- A cycle of the process, step by step, pushes and buffers what the call does. -/
theorem cycle_eq_runCycle (p : AgentProcess) (c : Cycle) (hpc : p.pc = .checking (c.checks.map (·.1)) [])
    (fetchedAt pushedAt : Instant) (moment : AssignmentDto × ProbeOutcome → Instant) :
    ∃ p₁ p₂ p₃ p₄, (c.checks.map (·.2)).foldlM check p = some p₁ ∧
      p₁.fetched fetchedAt (c.assignments.map fun l => l.map (·.1)) = some p₂ ∧
      ((c.assignments.getD []).filter fun x => x.1.probeKind.isSome).foldlM (fun p x => p.probed (moment x) x.2) p₂ = some p₃ ∧
      p₃.pushed pushedAt c.pushOk = some p₄ ∧ p₃.batch = p.buffer.queue ++ c.results ∧ p₄.buffer = (runCycle p.buffer c).1 := by
  have hchecks := foldlM_check (c.checks.map (·.2)) hpc (by simp)
  have hresults : List.zipWith (fun d o => (⟨d.monitorId, o⟩ : PendingResult)) (c.checks.map (·.1)) (c.checks.map (·.2)) =
      c.checks.map fun x => ⟨x.1.monitorId, x.2⟩ := by
    rw [List.zipWith_map, List.zipWith_self]
  rw [hresults, List.nil_append] at hchecks
  have hassigned : (c.assignments.map fun l => l.map (·.1)).getD [] = (c.assignments.getD []).map (·.1) := by
    cases c.assignments <;> rfl
  refine ⟨_, _, _, _, hchecks, rfl, foldlM_probed (c.assignments.getD []) moment (by rw [hassigned]), rfl, rfl, ?_⟩
  unfold runCycle PushBuffer.drain
  cases c.pushOk <;> rfl

end AgentProcess

end Agents

end Monitra
