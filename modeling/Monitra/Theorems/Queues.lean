import Monitra.Library.Bounded
import Monitra.Engine.Scheduler

/-!
# The assignment queues

What the agents get of the assignments queued for them. The handle keeps one bounded queue an agent; an agent sees it as a list
of what was queued for it since it last drained, of which the end is kept.
-/

namespace Monitra

/-- A call of the assignment handle. -/
inductive AssignmentCall where
  | enqueue (agentId : UInt64) (assignment : Assignment)
  | drain (agentId : UInt64)
  deriving DecidableEq, Repr

def AssignmentCall.agentId : AssignmentCall → UInt64
  | .enqueue agentId _ | .drain agentId => agentId

namespace AssignmentHandle

/-- The handle after a call. -/
def call (h : AssignmentHandle) : AssignmentCall → AssignmentHandle
  | .enqueue agentId assignment => h.enqueue agentId assignment
  | .drain agentId => (h.drain agentId).1

/-- The handle after calls, one after the other. -/
def callAll (h : AssignmentHandle) (calls : List AssignmentCall) : AssignmentHandle := calls.foldl call h

/-- What the drains of an agent return, one after the other. -/
def drained (h : AssignmentHandle) (agentId : UInt64) : List AssignmentCall → List Assignment
  | [] => []
  | c :: calls => (if c = .drain agentId then (h.drain agentId).2 else []) ++ (h.call c).drained agentId calls

end AssignmentHandle

/-- The assignments that calls queue for an agent. -/
def enqueuedFor (agentId : UInt64) (calls : List AssignmentCall) : List Assignment :=
  calls.filterMap fun
    | .enqueue a assignment => if a = agentId then some assignment else none
    | .drain _ => none

/-- The calls since the last drain of an agent. -/
def sinceDrain (agentId : UInt64) (calls : List AssignmentCall) : List AssignmentCall :=
  (calls.reverse.takeWhile fun c => decide (c ≠ .drain agentId)).reverse

namespace QueuesAux

open AssignmentHandle

/-- The queue of an agent; one that has none has nothing queued. -/
def queue (h : AssignmentHandle) (agentId : UInt64) : List Assignment := (h.queues.lookup agentId).getD []

/-- A drain returns the queue. -/
theorem drain_snd (h : AssignmentHandle) (agentId : UInt64) : (h.drain agentId).2 = queue h agentId := by
  unfold drain queue
  cases h.queues.lookup agentId <;> rfl

@[simp] theorem capacity_call (h : AssignmentHandle) (c : AssignmentCall) : (h.call c).capacity = h.capacity := by
  cases c with
  | enqueue => rfl
  | drain agentId =>
    simp only [call, drain]
    cases h.queues.lookup agentId <;> rfl

/-- What a call does to the queue of an agent: one for another agent does nothing. -/
theorem queue_call (h : AssignmentHandle) (c : AssignmentCall) (agentId : UInt64) :
    queue (h.call c) agentId =
      match c with
      | .enqueue a assignment =>
        if a = agentId then Bounded.push h.capacity (queue h agentId) assignment else queue h agentId
      | .drain a => if a = agentId then [] else queue h agentId := by
  cases c with
  | enqueue a assignment =>
    simp only [call, enqueue, queue, HashMap.lookup_insert]
    by_cases ha : a = agentId
    · subst ha
      simp [Bounded.push]
    · simp [ha, Ne.symm ha]
  | drain a =>
    simp only [call, drain, queue]
    cases hq : h.queues.lookup a with
    | none =>
      by_cases ha : a = agentId
      · subst ha
        simp [hq]
      · simp [ha]
    | some q =>
      simp only [HashMap.lookup_insert]
      by_cases ha : a = agentId
      · simp [ha]
      · simp [ha, Ne.symm ha]

/-! ## Calls one after the other -/

theorem callAll_snoc (h : AssignmentHandle) (calls : List AssignmentCall) (c : AssignmentCall) :
    h.callAll (calls ++ [c]) = (h.callAll calls).call c := by
  simp [callAll]

@[simp] theorem capacity_callAll (h : AssignmentHandle) (calls : List AssignmentCall) :
    (h.callAll calls).capacity = h.capacity :=
  List.foldlRecOn (motive := fun h' => h'.capacity = h.capacity) calls call rfl fun h' hh c _ => (capacity_call h' c).trans hh

theorem drained_append (agentId : UInt64) (calls calls' : List AssignmentCall) (h : AssignmentHandle) :
    h.drained agentId (calls ++ calls') = h.drained agentId calls ++ (h.callAll calls).drained agentId calls' := by
  induction calls generalizing h with
  | nil => rfl
  | cons c calls ih => rw [List.cons_append, drained, ih, drained, List.append_assoc, callAll, callAll, List.foldl_cons]

theorem sinceDrain_snoc (agentId : UInt64) (calls : List AssignmentCall) (c : AssignmentCall) :
    sinceDrain agentId (calls ++ [c]) = if c = .drain agentId then [] else sinceDrain agentId calls ++ [c] := by
  unfold sinceDrain
  rw [List.reverse_append, List.reverse_singleton, List.singleton_append, List.takeWhile_cons]
  by_cases hc : c = .drain agentId
  · simp [hc]
  · simp [hc]

theorem enqueuedFor_snoc (agentId : UInt64) (calls : List AssignmentCall) (c : AssignmentCall) :
    enqueuedFor agentId (calls ++ [c]) = enqueuedFor agentId calls ++
      match c with
      | .enqueue a assignment => if a = agentId then [assignment] else []
      | .drain _ => [] := by
  unfold enqueuedFor
  rw [List.filterMap_append]
  cases c with
  | enqueue a assignment => by_cases ha : a = agentId <;> simp [ha]
  | drain a => rfl

/-- The queue of an agent holds the last of what was queued for it since it last drained. -/
theorem queue_callAll (capacity : Nat) (agentId : UInt64) (calls : List AssignmentCall) :
    queue ((AssignmentHandle.new capacity).callAll calls) agentId =
      (enqueuedFor agentId (sinceDrain agentId calls)).rtake (max capacity 1) := by
  induction calls using List.reverseRecOn with
  | nil =>
    rw [callAll, List.foldl_nil, queue, AssignmentHandle.new, HashMap.lookup_empty]
    simp [enqueuedFor, sinceDrain, List.rtake]
  | append_singleton calls c ih =>
    rw [callAll_snoc, queue_call, sinceDrain_snoc, ih]
    cases c with
    | enqueue a assignment =>
      rw [if_neg (fun h => by cases h), enqueuedFor_snoc]
      by_cases ha : a = agentId
      · simp only [ha, if_true, capacity_callAll]
        exact Bounded.push_rtake (Nat.le_max_right _ _) _ _
      · simp only [ha, if_false, List.append_nil]
    | drain a =>
      by_cases ha : a = agentId
      · simp [ha, enqueuedFor, List.rtake]
      · rw [if_neg (fun h => ha (by cases h; rfl)), enqueuedFor_snoc]
        simp [ha]

/-- What the drains of an agent have returned and what is queued for it come, in order, from what was queued for it. -/
theorem drained_append_queue_sublist (capacity : Nat) (agentId : UInt64) (calls : List AssignmentCall) :
    ((AssignmentHandle.new capacity).drained agentId calls ++
      queue ((AssignmentHandle.new capacity).callAll calls) agentId).Sublist (enqueuedFor agentId calls) := by
  induction calls using List.reverseRecOn with
  | nil =>
    rw [callAll, List.foldl_nil, queue, AssignmentHandle.new, HashMap.lookup_empty]
    exact List.Sublist.refl _
  | append_singleton calls c ih =>
    rw [callAll_snoc, queue_call, enqueuedFor_snoc, drained_append]
    cases c with
    | enqueue a assignment =>
      simp only [drained, reduceCtorEq, if_false, List.append_nil]
      by_cases ha : a = agentId
      · simp only [ha, if_true, Bounded.push]
        rw [← List.append_assoc]
        refine List.Sublist.append (List.Sublist.trans (List.Sublist.append_left ?_ _) ih) (List.Sublist.refl _)
        split
        · exact List.drop_sublist _ _
        · exact List.Sublist.refl _
      · simpa only [ha, if_false, List.append_nil] using ih
    | drain a =>
      by_cases ha : a = agentId
      · simpa [drained, ha, drain_snd] using ih
      · simpa [drained, ha] using ih

/-- The assignments queued for an agent since it last drained are read off the calls for it. -/
theorem enqueuedFor_sinceDrain_filter (agentId : UInt64) (calls : List AssignmentCall) :
    enqueuedFor agentId (sinceDrain agentId (calls.filter fun c => decide (c.agentId = agentId))) =
      enqueuedFor agentId (sinceDrain agentId calls) := by
  induction calls using List.reverseRecOn with
  | nil => rfl
  | append_singleton calls c ih =>
    rw [List.filter_append, sinceDrain_snoc]
    by_cases hc : c.agentId = agentId
    · rw [List.filter_singleton, decide_eq_true hc, cond_true, sinceDrain_snoc]
      split
      · rfl
      · rw [enqueuedFor_snoc, enqueuedFor_snoc, ih]
    · have hne : c ≠ .drain agentId := by
        rintro rfl
        exact hc rfl
      rw [List.filter_singleton, decide_eq_false hc, cond_false, List.append_nil, ih, if_neg hne, enqueuedFor_snoc]
      cases c with
      | enqueue a assignment =>
        have ha : a ≠ agentId := hc
        simp [ha]
      | drain a => simp

end QueuesAux

/-- After any calls, a drain of an agent returns the last of the assignments queued for it since it last drained, as many as the
capacity (at least one) and there are; what it ever gets are assignments queued for it, in order, each at most once; no queue is
longer than the capacity; and what it gets depends on the calls for it alone. -/
theorem drain_returns_last (capacity : Nat) (calls : List AssignmentCall) :
    let h := (AssignmentHandle.new capacity).callAll calls
    (∀ agentId, (h.drain agentId).2 = (enqueuedFor agentId (sinceDrain agentId calls)).rtake (max capacity 1)) ∧
      (∀ agentId, (h.drain agentId).2.length =
        min (max capacity 1) (enqueuedFor agentId (sinceDrain agentId calls)).length) ∧
      (∀ agentId, ((AssignmentHandle.new capacity).drained agentId calls).Sublist (enqueuedFor agentId calls)) ∧
      (∀ agentId queue, h.queues.lookup agentId = some queue → queue.length ≤ max capacity 1) ∧
      ∀ agentId calls', calls'.filter (fun c => decide (c.agentId = agentId)) =
          calls.filter (fun c => decide (c.agentId = agentId)) →
        (((AssignmentHandle.new capacity).callAll calls').drain agentId).2 = (h.drain agentId).2 := by
  intro h
  have hdrain : ∀ agentId calls, (((AssignmentHandle.new capacity).callAll calls).drain agentId).2 =
      (enqueuedFor agentId (sinceDrain agentId calls)).rtake (max capacity 1) := by
    intro agentId calls
    rw [QueuesAux.drain_snd, QueuesAux.queue_callAll]
  have hlength : ∀ agentId, (h.drain agentId).2.length =
      min (max capacity 1) (enqueuedFor agentId (sinceDrain agentId calls)).length := by
    intro agentId
    rw [hdrain, List.rtake, List.length_drop]
    omega
  refine ⟨fun agentId => hdrain agentId calls, hlength, fun agentId => ?_, fun agentId queue hq => ?_, ?_⟩
  · exact (List.sublist_append_left _ _).trans (QueuesAux.drained_append_queue_sublist capacity agentId calls)
  · have hle := hlength agentId
    rw [QueuesAux.drain_snd, QueuesAux.queue, hq, Option.getD_some] at hle
    omega
  · intro agentId calls' heq
    rw [hdrain, hdrain, ← QueuesAux.enqueuedFor_sinceDrain_filter, heq, QueuesAux.enqueuedFor_sinceDrain_filter]

end Monitra
