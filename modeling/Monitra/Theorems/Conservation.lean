import Monitra.Library.Runs
import Monitra.Provider.Policy

/-!
# What becomes of the messages of a retrying notifier

Every message submitted is accepted by the sink, waits in the queue, or was dropped, and only one of them. What a drain takes out
of the queue it puts back with room to spare, so only a first attempt that fails can overflow it.
-/

namespace Monitra

open Runs

/-- The messages that the sink accepted. -/
def acceptedMessages (log : List NotifierEvent) : List Message :=
  log.filterMap fun
    | .handed message true => some message
    | _ => none

/-- The messages dropped for a full queue. -/
def droppedMessages (log : List NotifierEvent) : List Message :=
  log.filterMap fun
    | .dropped message => some message
    | _ => none

@[simp] theorem acceptedMessages_append (log log' : List NotifierEvent) :
    acceptedMessages (log ++ log') = acceptedMessages log ++ acceptedMessages log' := List.filterMap_append

@[simp] theorem droppedMessages_append (log log' : List NotifierEvent) :
    droppedMessages (log ++ log') = droppedMessages log ++ droppedMessages log' := List.filterMap_append

theorem mem_droppedMessages {log : List NotifierEvent} {m : Message} : m ∈ droppedMessages log ↔ .dropped m ∈ log := by
  rw [droppedMessages, List.mem_filterMap]
  constructor
  · rintro ⟨e, he, h⟩
    split at h
    · cases h
      exact he
    · cases h
  · exact fun h => ⟨_, h, rfl⟩

/-- Each message submitted is in one place, and the queue is bounded and in the order submitted. -/
structure Conserved (capacity : Nat) (s : Notifying) (log : List NotifierEvent) : Prop where
  /-- No message is two. -/
  distinct : s.submitted.Nodup
  /-- Those accepted, queued and dropped are those submitted, each once. -/
  places : (acceptedMessages log ++ s.notifier.queue ++ droppedMessages log).Perm s.submitted
  bounded : s.notifier.queue.length ≤ capacity
  ordered : s.notifier.queue.Sublist s.submitted

/-- A step drops a message only as a first attempt fails with a full queue, and then the one submitted earliest of those queued. -/
def DropsOldest (capacity : Nat) (s : Notifying) (a : NotifyingAction) (ev : List NotifierEvent) : Prop :=
  ∀ m, .dropped m ∈ ev → (∃ text, a = .notify text false) ∧ s.notifier.queue.length = capacity ∧
    ∃ later, s.notifier.queue = m :: later

namespace ConservationAux

/-- A drain with room for what it takes out puts back what the sink refuses, in order, and drops nothing. -/
theorem redeliverAll_eq (accepts : Message → Bool) (pending : List Message) :
    ∀ {n : RetryingNotifier}, n.queue.length + pending.length ≤ n.capacity →
      (n.redeliverAll accepts pending).1 = { n with queue := n.queue ++ pending.filter fun m => !accepts m } ∧
        acceptedMessages (n.redeliverAll accepts pending).2 = pending.filter accepts ∧
        droppedMessages (n.redeliverAll accepts pending).2 = [] := by
  induction pending with
  | nil =>
    intro n _
    simp [RetryingNotifier.redeliverAll, acceptedMessages, droppedMessages]
  | cons m pending ih =>
    intro n hroom
    rw [List.length_cons] at hroom
    cases ha : accepts m with
    | true =>
      obtain ⟨hn, hacc, hdrop⟩ := ih (n := n) (by omega)
      simp only [RetryingNotifier.redeliverAll, RetryingNotifier.redeliver, ha, if_true]
      refine ⟨?_, ?_, ?_⟩
      · rw [hn, List.filter_cons_of_neg (by simp [ha])]
      · rw [acceptedMessages_append, hacc, List.filter_cons_of_pos ha]
        rfl
      · rw [droppedMessages_append, hdrop]
        rfl
    | false =>
      have hlt : n.queue.length < n.capacity := by omega
      have hpush := Bounded.push_of_lt hlt m
      obtain ⟨hn, hacc, hdrop⟩ := ih (n := { n with queue := n.queue ++ [m] })
        (by simp only [List.length_append, List.length_singleton]; omega)
      simp only [RetryingNotifier.redeliverAll, RetryingNotifier.redeliver, RetryingNotifier.enqueue, ha, hpush,
        Bounded.evicted_of_lt hlt, Bool.false_eq_true, if_false]
      refine ⟨?_, ?_, ?_⟩
      · rw [hn, List.filter_cons_of_pos (by simp [ha]), List.append_assoc]
        rfl
      · rw [acceptedMessages_append, hacc, List.filter_cons_of_neg (by simp [ha])]
        rfl
      · rw [droppedMessages_append, hdrop]
        rfl

theorem drainRetries_eq {n : RetryingNotifier} (accepts : Message → Bool) (hroom : n.queue.length ≤ n.capacity) :
    (n.drainRetries accepts).1 = { n with queue := n.queue.filter fun m => !accepts m } ∧
      acceptedMessages (n.drainRetries accepts).2 = n.queue.filter accepts ∧ droppedMessages (n.drainRetries accepts).2 = [] :=
  redeliverAll_eq accepts n.queue (n := { n with queue := [] }) (by simpa using hroom)

/-- What a step does: a message is accepted, or queued, or the queue is drained. -/
theorem step_cases {s s' : Notifying} {a : NotifyingAction} {ev : List NotifierEvent} {capacity : Nat}
    (hcap : s.notifier.capacity = capacity) (hroom : s.notifier.queue.length ≤ capacity) (h : s.step a = some (s', ev)) :
    s'.notifier.capacity = capacity ∧
    ((∃ text, a = .notify text true ∧ s'.submitted = s.submitted ++ [⟨s.submitted.length, text⟩] ∧
        s'.notifier.queue = s.notifier.queue ∧ acceptedMessages ev = [⟨s.submitted.length, text⟩] ∧ droppedMessages ev = []) ∨
      (∃ text, a = .notify text false ∧ s'.submitted = s.submitted ++ [⟨s.submitted.length, text⟩] ∧
        s'.notifier.queue = Bounded.push capacity s.notifier.queue ⟨s.submitted.length, text⟩ ∧ acceptedMessages ev = [] ∧
        droppedMessages ev = (Bounded.evicted capacity s.notifier.queue).toList) ∨
      ∃ accepts, a = .drain accepts ∧ s'.submitted = s.submitted ∧
        s'.notifier.queue = (s.notifier.queue.filter fun m => !accepts m) ∧
        acceptedMessages ev = s.notifier.queue.filter accepts ∧ droppedMessages ev = []) := by
  subst hcap
  cases a with
  | notify text ok =>
    cases ok with
    | true =>
      cases h
      exact ⟨rfl, Or.inl ⟨text, rfl, rfl, rfl, rfl, rfl⟩⟩
    | false =>
      cases h
      refine ⟨rfl, Or.inr (Or.inl ⟨text, rfl, rfl, rfl, ?_, ?_⟩)⟩
      · cases Bounded.evicted s.notifier.capacity s.notifier.queue <;> rfl
      · cases Bounded.evicted s.notifier.capacity s.notifier.queue <;> rfl
  | drain accepts =>
    obtain ⟨hn, hacc, hdrop⟩ := drainRetries_eq accepts hroom
    simp only [Notifying.step, Option.some.injEq, Prod.mk.injEq] at h
    obtain ⟨rfl, rfl⟩ := h
    rw [hn]
    exact ⟨rfl, Or.inr (Or.inr ⟨accepts, rfl, rfl, rfl, hacc, hdrop⟩)⟩

/-- What holds along a run. -/
structure Inv (capacity : Nat) (s : Notifying) (log : List NotifierEvent) : Prop where
  conserved : Conserved capacity s log
  capacity_eq : s.notifier.capacity = capacity
  numbered : ∀ m ∈ s.submitted, m.number < s.submitted.length

/-- The new message is none of those submitted before. -/
theorem distinct_submit {s s' : Notifying} {text : String} (hdistinct : s.submitted.Nodup)
    (hnumbered : ∀ m ∈ s.submitted, m.number < s.submitted.length)
    (hsub : s'.submitted = s.submitted ++ [⟨s.submitted.length, text⟩]) :
    s'.submitted.Nodup ∧ ∀ m ∈ s'.submitted, m.number < s'.submitted.length := by
  rw [hsub]
  constructor
  · refine List.nodup_append.mpr ⟨hdistinct, List.pairwise_singleton _ _, ?_⟩
    rintro m hm m' hm' rfl
    rw [List.mem_singleton] at hm'
    have hlt := hnumbered m hm
    rw [hm'] at hlt
    exact Nat.lt_irrefl _ hlt
  · intro m hm
    rw [List.length_append, List.length_singleton]
    rcases List.mem_append.mp hm with hm | hm
    · have hlt := hnumbered m hm
      omega
    · rw [List.mem_singleton.mp hm]
      exact Nat.lt_succ_self _

theorem inv_step {capacity : Nat} (hcapacity : 1 ≤ capacity) {s s' : Notifying} {log ev : List NotifierEvent}
    {a : NotifyingAction} (hI : Inv capacity s log) (h : s.step a = some (s', ev)) : Inv capacity s' (log ++ ev) := by
  obtain ⟨⟨hdistinct, hplaces, hbounded, hordered⟩, hcap, hnumbered⟩ := hI
  obtain ⟨hcap', ⟨text, -, hsub, hqueue, hacc, hdrop⟩ | ⟨text, -, hsub, hqueue, hacc, hdrop⟩ |
    ⟨accepts, -, hsub, hqueue, hacc, hdrop⟩⟩ := step_cases hcap hbounded h
  · obtain ⟨hnodup, hnumbers⟩ := distinct_submit hdistinct hnumbered hsub
    refine ⟨⟨hnodup, ?_, hqueue ▸ hbounded, ?_⟩, hcap', hnumbers⟩
    · rw [List.perm_iff_count] at hplaces ⊢
      intro m
      have hm := hplaces m
      simp only [acceptedMessages_append, droppedMessages_append, hacc, hdrop, hqueue, hsub, List.count_append,
        List.count_nil] at hm ⊢
      omega
    · rw [hqueue, hsub]
      exact hordered.trans (List.sublist_append_left _ _)
  · obtain ⟨hnodup, hnumbers⟩ := distinct_submit hdistinct hnumbered hsub
    have hevicted := Bounded.evicted_append_push capacity s.notifier.queue ⟨s.submitted.length, text⟩
    refine ⟨⟨hnodup, ?_, ?_, ?_⟩, hcap', hnumbers⟩
    · rw [List.perm_iff_count] at hplaces ⊢
      intro m
      have hm := hplaces m
      have hpush := congrArg (List.count m) hevicted
      simp only [acceptedMessages_append, droppedMessages_append, hacc, hdrop, hqueue, hsub, List.count_append,
        List.count_nil] at hm hpush ⊢
      omega
    · rw [hqueue]
      exact Bounded.length_push_le hcapacity hbounded _
    · rw [hqueue, hsub]
      have hpush : (Bounded.push capacity s.notifier.queue ⟨s.submitted.length, text⟩).Sublist
          (s.notifier.queue ++ [⟨s.submitted.length, text⟩]) := hevicted ▸ List.sublist_append_right _ _
      exact hpush.trans (hordered.append_right _)
  · refine ⟨⟨hsub ▸ hdistinct, ?_, ?_, ?_⟩, hcap', hsub ▸ hnumbered⟩
    · rw [List.perm_iff_count] at hplaces ⊢
      intro m
      have hm := hplaces m
      have hsplit := (List.filter_append_perm accepts s.notifier.queue).count_eq m
      simp only [acceptedMessages_append, droppedMessages_append, hacc, hdrop, hqueue, hsub, List.count_append,
        List.count_nil] at hm hsplit ⊢
      omega
    · rw [hqueue]
      exact (List.length_filter_le _ _).trans hbounded
    · rw [hqueue, hsub]
      exact List.filter_sublist.trans hordered

/-- Only a full queue loses a message, and it is the first. -/
theorem dropsOldest_step {capacity : Nat} {s s' : Notifying} {log ev : List NotifierEvent} {a : NotifyingAction}
    (hI : Inv capacity s log) (h : s.step a = some (s', ev)) : DropsOldest capacity s a ev := by
  intro m hm
  rw [← mem_droppedMessages] at hm
  obtain ⟨-, ⟨text, -, -, -, -, hdrop⟩ | ⟨text, ha, -, -, -, hdrop⟩ | ⟨accepts, -, -, -, -, hdrop⟩⟩ :=
    step_cases hI.capacity_eq hI.conserved.bounded h
  · rw [hdrop] at hm
    cases hm
  · rw [hdrop, Option.mem_toList] at hm
    have hbounded := hI.conserved.bounded
    unfold Bounded.evicted at hm
    split at hm
    · rename_i hfull
      obtain ⟨later, hlater⟩ := List.head?_eq_some_iff.mp hm
      exact ⟨⟨text, ha⟩, by omega, later, hlater⟩
    · cases hm
  · rw [hdrop] at hm
    cases hm

end ConservationAux

/-- For every capacity of at least one and every history of calls, whatever the sink answers. -/
theorem notifier_conserves {capacity : Nat} (hcapacity : 1 ≤ capacity) {innerName : String} {s : Notifying}
    {log : List NotifierEvent} (h : Run Notifying.step (fun s a => always s a = true) (Notifying.start innerName capacity) s log) :
    Conserved capacity s log ∧ ∀ a s' ev, s.step a = some (s', ev) → DropsOldest capacity s a ev := by
  have hI : ConservationAux.Inv capacity s log := by
    refine h.invariant (I := ConservationAux.Inv capacity) ⟨⟨List.nodup_nil, ?_, Nat.zero_le _, List.nil_sublist _⟩, rfl, ?_⟩
      fun s s' log ev a hI _ hs => ConservationAux.inv_step hcapacity hI hs
    · exact List.Perm.refl _
    · exact fun _ hm => absurd hm List.not_mem_nil
  exact ⟨hI.conserved, fun a s' ev hs => ConservationAux.dropsOldest_step hI hs⟩

/-- With room for one, the second message that fails drops the first, and the next drain delivers it. -/
theorem second_drops_first :
    ∃ s log, acceptedMessages log = [⟨1, "up"⟩] ∧ droppedMessages log = [⟨0, "down"⟩] ∧ Conserved 1 s log := by
  let x := after Notifying.step always (Notifying.start "webhook" 1)
    [.notify "down" false, .notify "up" false, .drain fun _ => true]
  have hr : Run Notifying.step (fun s a => always s a = true) (Notifying.start "webhook" 1) x.1 x.2 :=
    run_after (by decide +kernel)
  exact ⟨x.1, x.2, by decide +kernel, by decide +kernel, (notifier_conserves (by decide) hr).1⟩

end Monitra
