import Monitra.Library.Runs
import Monitra.Agent.Cycle

/-!
# The agent's pipeline

Each cycle pushes what is buffered and then its own results. What a push that fails leaves in the buffer is the end of what it
would have sent, so in the long run nothing changes places, and only the oldest are lost.
-/

namespace Monitra

namespace Agents

open Runs

/-- What the cycles produced, in order. -/
def producedResults (log : List CycleEvent) : List PendingResult :=
  log.flatMap fun
    | .produced results => results
    | _ => []

/-- The batches that were delivered, one after the other. -/
def deliveredResults (log : List CycleEvent) : List PendingResult :=
  log.flatMap fun
    | .delivered batch => batch
    | _ => []

/-- What full buffers dropped. -/
def droppedResults (log : List CycleEvent) : List PendingResult :=
  log.flatMap fun
    | .dropped results => results
    | _ => []

@[simp] theorem producedResults_append (log log' : List CycleEvent) :
    producedResults (log ++ log') = producedResults log ++ producedResults log' := List.flatMap_append

@[simp] theorem deliveredResults_append (log log' : List CycleEvent) :
    deliveredResults (log ++ log') = deliveredResults log ++ deliveredResults log' := List.flatMap_append

@[simp] theorem droppedResults_append (log log' : List CycleEvent) :
    droppedResults (log ++ log') = droppedResults log ++ droppedResults log' := List.flatMap_append

/-- What a call does with the buffer and its results. -/
structure CycleLaw (capacity : Nat) (buffer buffer' : PushBuffer) (c : Cycle) (ev : List CycleEvent) : Prop where
  /-- A push that succeeds delivers what was buffered and then the results, and leaves nothing. -/
  success : c.pushOk = true →
    deliveredResults ev = buffer.queue ++ c.results ∧ droppedResults ev = [] ∧ buffer'.queue = []
  /-- A push that fails leaves the last of them, and drops those before. -/
  failure : c.pushOk = false →
    deliveredResults ev = [] ∧ buffer'.queue = (buffer.queue ++ c.results).rtake (max capacity 1) ∧
      droppedResults ev ++ buffer'.queue = buffer.queue ++ c.results

/-- What has become of everything produced. -/
structure PipelineKept (buffer : PushBuffer) (log : List CycleEvent) : Prop where
  /-- What was delivered and what is buffered is part of what was produced, in its order. -/
  ordered : (deliveredResults log ++ buffer.queue).Sublist (producedResults log)
  /-- With what was dropped it is all of it, each once. -/
  complete : (deliveredResults log ++ buffer.queue ++ droppedResults log).Perm (producedResults log)

namespace PipelineAux

/-- The buffer keeps its bounds. -/
structure Bounds (capacity : Nat) (buffer : PushBuffer) : Prop where
  capacity_eq : buffer.capacity = max capacity 1
  le : buffer.queue.length ≤ buffer.capacity

theorem runCycle_success {buffer : PushBuffer} {c : Cycle} (h : c.pushOk = true) :
    runCycle buffer c =
      ({ buffer with queue := [] }, [.produced c.results, .delivered (buffer.queue ++ c.results)]) := by
  simp only [runCycle, PushBuffer.drain, h, if_true]

/-- After a failure the buffer has what it has room for. -/
theorem runCycle_failure {buffer : PushBuffer} {c : Cycle} (h : c.pushOk = false) :
    runCycle buffer c =
      ({ buffer with queue := Bounded.pushAll buffer.capacity [] (buffer.queue ++ c.results) },
        [.produced c.results, .dropped (Bounded.evictedAll buffer.capacity [] (buffer.queue ++ c.results))]) := by
  simp only [runCycle, PushBuffer.drain, h, Bool.false_eq_true, if_false]
  rfl

theorem bounds_step {capacity : Nat} {buffer buffer' : PushBuffer} {c : Cycle} {ev : List CycleEvent}
    (hB : Bounds capacity buffer) (h : cycleStep buffer c = some (buffer', ev)) :
    Bounds capacity buffer' ∧ CycleLaw capacity buffer buffer' c ev ∧ producedResults ev = c.results := by
  have hcap : 1 ≤ buffer.capacity := by rw [hB.capacity_eq]; exact Nat.le_max_right _ _
  cases hok : c.pushOk with
  | true =>
    rw [cycleStep, runCycle_success hok] at h
    cases h
    refine ⟨⟨hB.capacity_eq, Nat.zero_le _⟩, ⟨fun _ => ⟨?_, rfl, rfl⟩, fun hno => ?_⟩, ?_⟩
    · simp [deliveredResults]
    · cases hok.symm.trans hno
    · simp [producedResults]
  | false =>
    rw [cycleStep, runCycle_failure hok] at h
    cases h
    have hlast : Bounded.pushAll buffer.capacity [] (buffer.queue ++ c.results) =
        (buffer.queue ++ c.results).rtake buffer.capacity :=
      Bounded.pushAll_eq_rtake hcap _ (Nat.zero_le _)
    refine ⟨⟨hB.capacity_eq, ?_⟩, ⟨fun hyes => ?_, fun _ => ⟨rfl, ?_, ?_⟩⟩, ?_⟩
    · simp only [hlast, List.rtake, List.length_drop]
      omega
    · cases hok.symm.trans hyes
    · rw [← hB.capacity_eq]
      exact hlast
    · have hall := Bounded.evictedAll_append_pushAll buffer.capacity (buffer.queue ++ c.results) []
      simpa [droppedResults] using hall
    · simp [producedResults]

theorem kept_step {capacity : Nat} {buffer buffer' : PushBuffer} {c : Cycle} {log ev : List CycleEvent}
    (hK : PipelineKept buffer log) (hlaw : CycleLaw capacity buffer buffer' c ev) (hproduced : producedResults ev = c.results) :
    PipelineKept buffer' (log ++ ev) := by
  have hmore := hK.ordered.append_right c.results
  rw [List.append_assoc] at hmore
  cases hok : c.pushOk with
  | true =>
    obtain ⟨hdel, hdrop, hqueue⟩ := hlaw.success hok
    refine ⟨?_, ?_⟩
    · rw [deliveredResults_append, producedResults_append, hdel, hqueue, hproduced, List.append_nil]
      exact hmore
    · have hcount := List.perm_iff_count.mp hK.complete
      refine List.perm_iff_count.mpr fun r => ?_
      have hr := hcount r
      simp only [deliveredResults_append, producedResults_append, droppedResults_append, hdel, hdrop, hqueue, hproduced,
        List.count_append, List.count_nil] at hr ⊢
      omega
  | false =>
    obtain ⟨hdel, -, hall⟩ := hlaw.failure hok
    refine ⟨?_, ?_⟩
    · rw [deliveredResults_append, producedResults_append, hdel, hproduced, List.append_nil]
      refine List.Sublist.trans ?_ hmore
      rw [← hall]
      exact (List.sublist_append_right _ _).append_left _
    · have hcount := List.perm_iff_count.mp hK.complete
      refine List.perm_iff_count.mpr fun r => ?_
      have hr := hcount r
      have hsplit := congrArg (List.count r) hall
      simp only [deliveredResults_append, producedResults_append, droppedResults_append, hdel, hproduced, List.count_append,
        List.count_nil] at hr hsplit ⊢
      omega

end PipelineAux

/-- For every capacity and every sequence of calls: each call keeps the law, and what was delivered and is buffered is what was
produced, in order, less what overflow dropped. -/
theorem pipeline_keeps_order {capacity : Nat} {buffer : PushBuffer} {log : List CycleEvent}
    (h : Run cycleStep (fun s a => always s a = true) (PushBuffer.new capacity) buffer log) :
    PipelineKept buffer log ∧
      ∀ c buffer' ev, cycleStep buffer c = some (buffer', ev) → CycleLaw capacity buffer buffer' c ev := by
  have hI : PipelineAux.Bounds capacity buffer ∧ PipelineKept buffer log := by
    refine h.invariant (I := fun buffer log => PipelineAux.Bounds capacity buffer ∧ PipelineKept buffer log) ⟨?_, ?_⟩ ?_
    · exact ⟨rfl, Nat.zero_le _⟩
    · exact ⟨List.nil_sublist _, List.Perm.refl _⟩
    · rintro buffer buffer' log ev c ⟨hB, hK⟩ - hs
      obtain ⟨hB', hlaw, hproduced⟩ := PipelineAux.bounds_step hB hs
      exact ⟨hB', PipelineAux.kept_step hK hlaw hproduced⟩
  exact ⟨hI.2, fun c buffer' ev hs => (PipelineAux.bounds_step hI.1 hs).2.1⟩

/-- A cycle with one assignment probed. -/
def probedCycle (monitorId : UInt64) (pushOk : Bool) : Cycle :=
  ⟨[], some [(⟨monitorId, "http://m", .http⟩, .success 3)], pushOk⟩

/-- With room for one, two pushes that fail and one that succeeds deliver the second and the third result. -/
theorem three_cycles :
    ∃ buffer log, deliveredResults log = [⟨2, .success 3⟩, ⟨3, .success 3⟩] ∧ droppedResults log = [⟨1, .success 3⟩] ∧
      PipelineKept buffer log := by
  let x := after cycleStep always (PushBuffer.new 0) [probedCycle 1 false, probedCycle 2 false, probedCycle 3 true]
  have hr : Run cycleStep (fun s a => always s a = true) (PushBuffer.new 0) x.1 x.2 := run_after (by decide +kernel)
  exact ⟨x.1, x.2, by decide +kernel, by decide +kernel, (pipeline_keeps_order hr).1⟩

end Agents

end Monitra
