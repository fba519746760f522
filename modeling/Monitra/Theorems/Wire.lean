import Monitra.Lemmas.Steps
import Monitra.Wire

/-!
# Agents and server read what the other wrote

The round trips of the two bodies, and that what the scheduler queues for an agent is of a kind that the agent probes.
-/

namespace Monitra

open Runs Serde

namespace WireAux

/-! ## Results -/

/-- The outcome as the server keeps it. -/
def pushedOutcome : ProbeOutcome → PushedOutcomeDto
  | .success latencyMs => .success latencyMs
  | .failure message => .failure message
  | .unavailable message => .unavailable message

theorem into_pushedOutcome (outcome : ProbeOutcome) : (pushedOutcome outcome).into = outcome := by
  cases outcome <;> rfl

/-- No field of an outcome has the key of the monitor's id. -/
theorem monitorId_free (outcome : ProbeOutcome) :
    ∀ field ∈ (Agents.WireOutcome.ofProbeOutcome outcome).fields, field.1 ≠ "monitor_id" := by
  cases outcome <;> simp [Agents.WireOutcome.ofProbeOutcome, Agents.WireOutcome.fields, tagged]

/-- An outcome is read as written. -/
theorem deserialize_outcome (outcome : ProbeOutcome) :
    PushedOutcomeDto.deserialize (Agents.WireOutcome.ofProbeOutcome outcome).fields = .ok (pushedOutcome outcome) := by
  cases outcome with
  | success latencyMs =>
    rw [Agents.WireOutcome.ofProbeOutcome, Agents.WireOutcome.fields, PushedOutcomeDto.deserialize, untag_tagged (by simp)]
    rfl
  | failure message =>
    rw [Agents.WireOutcome.ofProbeOutcome, Agents.WireOutcome.fields, PushedOutcomeDto.deserialize, untag_tagged (by simp)]
    rfl
  | unavailable message =>
    rw [Agents.WireOutcome.ofProbeOutcome, Agents.WireOutcome.fields, PushedOutcomeDto.deserialize, untag_tagged (by simp)]
    rfl

/-- A result is read as written. -/
theorem deserialize_result (origin : UInt64 → Nat) (monitorId : UInt64) (outcome : ProbeOutcome) :
    PushedResultDto.deserialize origin (Agents.WireResult.serialize ⟨monitorId, .ofProbeOutcome outcome⟩) =
      .ok ⟨⟨monitorId, origin monitorId⟩, pushedOutcome outcome⟩ := by
  rw [PushedResultDto.deserialize, Agents.WireResult.serialize, readFields_obj]
  simp only [bind, Except.bind, takeField_cons (monitorId_free outcome), readU64_u64, deserialize_outcome]
  rfl

/-- The body of a push is read as written. -/
theorem deserialize_ingest (origin : UInt64 → Nat) (results : List Agents.PendingResult) :
    IngestRequest.deserialize origin (Agents.IngestBody.ofPending results).serialize =
      .ok ⟨results.map fun r => ⟨⟨r.monitorId, origin r.monitorId⟩, pushedOutcome r.outcome⟩⟩ := by
  have hvec : readVec (PushedResultDto.deserialize origin)
      (vec Agents.WireResult.serialize (Agents.IngestBody.ofPending results).results) =
      .ok (results.map fun r => ⟨⟨r.monitorId, origin r.monitorId⟩, pushedOutcome r.outcome⟩) := by
    rw [← readVec_vec (fun r : Agents.PendingResult => deserialize_result origin r.monitorId r.outcome), vec, vec,
      Agents.IngestBody.ofPending, List.map_map]
    rfl
  rw [IngestRequest.deserialize, Agents.IngestBody.serialize, readFields_obj]
  simp only [bind, Except.bind, takeField_cons (List.forall_mem_nil _), hvec]
  rfl

/-! ## Assignments -/

/-- The assignment as the agent keeps it. -/
def fetched (assignment : Assignment) : Agents.AssignmentDto := ⟨assignment.monitorId.val, assignment.target, assignment.kind⟩

/-- An assignment is read as written. -/
theorem deserialize_assignment (assignment : Assignment) :
    Agents.AssignmentDto.deserialize (Assignments.AssignmentDto.ofAssignment assignment).serialize = .ok (fetched assignment) := by
  rw [Agents.AssignmentDto.deserialize, Assignments.AssignmentDto.serialize, readFields_obj]
  simp only [bind, Except.bind, takeField, List.filter, pure, Except.pure]
  simp [MonitorKind.deserialize_serialize, Assignments.AssignmentDto.ofAssignment, fetched]

/-- The body of the assignments is read as written. -/
theorem deserialize_assignments (assignments : List Assignment) :
    Agents.AssignmentsBody.deserialize (Assignments.AssignmentsResponse.serialize ⟨assignments.map .ofAssignment⟩) =
      .ok ⟨assignments.map fetched⟩ := by
  have hvec : readVec Agents.AssignmentDto.deserialize
      (vec Assignments.AssignmentDto.serialize (assignments.map .ofAssignment)) = .ok (assignments.map fetched) := by
    rw [← readVec_vec deserialize_assignment, vec, vec, List.map_map]
    rfl
  rw [Agents.AssignmentsBody.deserialize, Assignments.AssignmentsResponse.serialize, readFields_obj]
  simp only [bind, Except.bind, takeField_cons (List.forall_mem_nil _), hvec]
  rfl

/-! ## What is queued -/

/-- Every assignment queued is of a kind that is probed. -/
def Probed (h : AssignmentHandle) : Prop :=
  ∀ agentId queue, h.queues.lookup agentId = some queue → ∀ a ∈ queue, (NetworkProbeKind.tryFrom a.kind).isSome

/-- A dispatch queues only what is probed. -/
theorem probed_dispatchDue {s : Scheduler} {tasks : Tasks} {now : Instant} {due : List UInt64} (h : Probed s.assignments) :
    Probed (s.dispatchDue tasks now due).scheduler.assignments := by
  refine Scheduler.dispatchDue_invariant (P := fun d => Probed d.scheduler.assignments) h ?_
  intro d id d' hd hdis
  cases hdis with
  | queued hr ha hk =>
    intro agentId queue hq a hin
    rcases Scheduler.of_enqueue hq hin with rfl | ⟨queue₀, hq₀, hin₀⟩
    · rw [hk]
      rfl
    · exact hd agentId queue₀ hq₀ a hin₀
  | _ => exact hd

/-- Handling an outcome leaves the queues. -/
theorem assignments_handle (s : Scheduler) (wall : UInt64) (cause : Handled) :
    (s.handle wall cause).scheduler.assignments = s.assignments :=
  congrArg (·.assignments) (Scheduler.handle_frame s wall cause)

/-- In every state reached what is queued is probed. -/
theorem probed_of_run {cfg : EngineConfig} {k8sFactory : Option K8sCollectorFactory} {db : Db} {s : System} {log : List Event}
    (h : Run (System.step cfg) (fun _ _ => True) (System.start cfg k8sFactory db) s log) : Probed s.scheduler.assignments := by
  refine h.stateInvariant (I := fun s => Probed s.scheduler.assignments) ?_ ?_
  · intro agentId queue hq
    cases hq
  · intro s s' ev a hI _ hstep
    cases effect_of_step hstep with
    | dispatched hpc hdue => exact probed_dispatchDue hI
    | handled hpc =>
      dsimp only
      rw [assignments_handle]
      exact hI
    | pulled =>
      intro agentId queue hq a hin
      obtain ⟨queue₀, hq₀, hin₀⟩ := (Scheduler.of_drain s.scheduler.assignments _).1 agentId queue hq a hin
      exact hI agentId queue₀ hq₀ a hin₀
    | _ => exact hI

end WireAux

open WireAux in
/-- What an agent pushes and what it is assigned are read as they were written, whatever the lists; and in every state that a daemon
reaches, what is handed to an agent is of a kind that it probes. -/
theorem wire_agreement :
    (∀ (origin : UInt64 → Nat) (results : List Agents.PendingResult), ∃ request,
        IngestRequest.deserialize origin (Agents.IngestBody.ofPending results).serialize = .ok request ∧
        (request.results.map fun r => (r.monitorId.val, r.outcome.into)) = results.map fun r => (r.monitorId, r.outcome)) ∧
      (∀ assignments : List Assignment, ∃ body,
        Agents.AssignmentsBody.deserialize (Assignments.AssignmentsResponse.serialize ⟨assignments.map .ofAssignment⟩) = .ok body ∧
        (body.assignments.map fun a => (a.monitorId, a.target, a.kind)) =
          assignments.map fun a => (a.monitorId.val, a.target, a.kind)) ∧
      ∀ (cfg : EngineConfig) (k8sFactory : Option K8sCollectorFactory) (db : Db) (s : System) (log : List Event),
        Run (System.step cfg) (fun _ _ => True) (System.start cfg k8sFactory db) s log → ∀ agentId, ∃ body,
          Agents.AssignmentsBody.deserialize (Assignments.list s.scheduler.assignments agentId).2.serialize = .ok body ∧
          ∀ a ∈ body.assignments, a.probeKind.isSome := by
  refine ⟨fun origin results => ⟨_, deserialize_ingest origin results, ?_⟩,
    fun assignments => ⟨_, deserialize_assignments assignments, ?_⟩, fun cfg k8sFactory db s log hrun agentId => ?_⟩
  · simp [into_pushedOutcome]
  · simp [fetched]
  · refine ⟨_, deserialize_assignments (s.scheduler.assignments.drain agentId).2, ?_⟩
    intro a ha
    obtain ⟨assignment, hin, rfl⟩ := List.mem_map.mp ha
    obtain ⟨queue, hq, hqueued⟩ := (Scheduler.of_drain s.scheduler.assignments agentId).2 assignment hin
    exact probed_of_run hrun agentId queue hq assignment hqueued

/-- A monitor of an agent that is due. -/
def assigned : List Action := [
  .user (.registerAgent "edge" "home" none "secret" fun _ => 0),
  .user (.addMonitor "api" "http://10.0.0.1" .http 30 (some 1) fun _ => 0),
  .scheduler (.listMonitors false), .scheduler .listReturned, .scheduler (.dispatchDue [1])]

/-- The agent reads it as an assignment to probe. -/
theorem wire_agreement_assigned :
    let x := after (System.step EngineConfig.default) always (System.start EngineConfig.default none Db.empty) assigned
    ∃ body, Agents.AssignmentsBody.deserialize (Assignments.list x.1.scheduler.assignments 1).2.serialize = .ok body ∧
      body.assignments = [⟨1, "http://10.0.0.1", .http⟩] ∧ ∀ a ∈ body.assignments, a.probeKind.isSome := by
  intro x
  have hrun : Run (System.step EngineConfig.default) (fun s a => always s a = true)
      (System.start EngineConfig.default none Db.empty) x.1 x.2 := run_after (by decide +kernel)
  obtain ⟨body, hbody, hprobed⟩ := wire_agreement.2.2 _ _ _ _ _ (hrun.mono fun _ _ _ => trivial) 1
  refine ⟨body, hbody, ?_, hprobed⟩
  have hread : Agents.AssignmentsBody.deserialize (Assignments.list x.1.scheduler.assignments 1).2.serialize =
      .ok ⟨[⟨1, "http://10.0.0.1", .http⟩]⟩ := by
    decide +kernel
  cases hread.symm.trans hbody
  rfl

end Monitra
