import Monitra.Theorems.Delivery

/-!
# The order in which messages are accepted

A new message goes straight to the sink, whatever waits in the retry queue, and a drain goes on after a message that the sink
refuses. So a message can be accepted after a later one, but only if the sink has refused it.
-/

namespace Monitra

open Runs

/-- The numbers of a monitor's messages that the sink accepted, in the order in which it did. -/
def acceptedOf (monitorId : UInt64) (log : List AlertsEvent) : List Nat :=
  (acceptedNumbers log).filter fun number =>
    ((submittedRequests log)[number]?).any fun request => request.monitorId.val == monitorId

/-- The sink refused a message, and has not refused the other one since. -/
def RefusedSince (log : List AlertsEvent) (message other : Message) : Prop :=
  ∃ pre post, log = pre ++ .notifier (.handed message false) :: post ∧ .notifier (.handed other false) ∉ post

/-- A message is accepted after a later one only when the sink refused it, and refused it again each time that it refused the
later one. -/
def LateOnlyIfRefused (log : List AlertsEvent) : Prop :=
  ∀ pre later mid message post,
    log = pre ++ .notifier (.handed later true) :: (mid ++ .notifier (.handed message true) :: post) →
    message.number < later.number → RefusedSince pre message later

/-- What is handed to the sink under a number is the message of the request with that number. -/
def MessagesOfRequests (log : List AlertsEvent) : Prop :=
  ∀ message ok, .notifier (.handed message ok) ∈ log →
    ∃ request, (submittedRequests log)[message.number]? = some request ∧ message.text = request.message

namespace DeliveryAux

/-- Where something stands in a log that was extended: in the log, or in what was added. -/
theorem split_append {log ev pre post : List AlertsEvent} {x : AlertsEvent} (h : log ++ ev = pre ++ x :: post) :
    (∃ post', log = pre ++ x :: post') ∨ ∃ pre', pre = log ++ pre' ∧ ev = pre' ++ x :: post := by
  rcases List.append_eq_append_iff.mp h with ⟨pre', rfl, hev⟩ | ⟨rest, hlog, hrest⟩
  · exact Or.inr ⟨pre', rfl, hev⟩
  · cases rest with
    | nil => exact Or.inr ⟨[], by simpa using hlog.symm, by simpa using hrest.symm⟩
    | cons y rest =>
      rw [List.cons_append, List.cons.injEq] at hrest
      obtain ⟨rfl, -⟩ := hrest
      exact Or.inl ⟨rest, hlog⟩

/-- What holds of the order in which the sink was tried. -/
structure Ordered (s : AlertsTask) (log : List AlertsEvent) : Prop where
  inv : Inv s log
  handed : ∀ message ok, .notifier (.handed message ok) ∈ log → message.number < s.attempted
  late : LateOnlyIfRefused log
  /-- Those that wait have been refused, -/
  refused : ∀ m ∈ s.waiting, .notifier (.handed m false) ∈ log
  /-- before a later one was accepted, -/
  overtaken : ∀ m ∈ s.waiting, ∀ pre later post, log = pre ++ .notifier (.handed later true) :: post →
    m.number < later.number → RefusedSince pre m later
  /-- and in a drain after those that are still to come. -/
  again : ∀ m ∈ s.notifier.queue, ∀ m' ∈ s.pending, RefusedSince log m m'

theorem refusedSince_append {log ev : List AlertsEvent} {m m' : Message} (h : RefusedSince log m m')
    (hev : .notifier (.handed m' false) ∉ ev) : RefusedSince (log ++ ev) m m' := by
  obtain ⟨pre, post, rfl, hpost⟩ := h
  refine ⟨pre, post ++ ev, by rw [List.append_assoc, List.cons_append], fun hin => ?_⟩
  exact (List.mem_append.mp hin).elim hpost hev

/-- A step that accepts no message keeps what is known of those accepted before. -/
theorem late_of_no_accept {log ev : List AlertsEvent} (h : LateOnlyIfRefused log)
    (hev : ∀ m, .notifier (.handed m true) ∉ ev) : LateOnlyIfRefused (log ++ ev) := by
  intro pre later mid message post hlog hlt
  rw [← List.cons_append, ← List.append_assoc] at hlog
  rcases split_append hlog with ⟨post', hlog'⟩ | ⟨pre', -, hev'⟩
  · refine h pre later mid message post' ?_ hlt
    rw [hlog', List.append_assoc, List.cons_append]
  · exact absurd (hev' ▸ by simp) (hev message)

theorem overtaken_of_no_accept {s : AlertsTask} {log ev : List AlertsEvent} (hO : Ordered s log)
    (hev : ∀ m, .notifier (.handed m true) ∉ ev) {m : Message} (hm : m ∈ s.waiting) :
    ∀ pre later post, log ++ ev = pre ++ .notifier (.handed later true) :: post → m.number < later.number →
      RefusedSince pre m later := by
  intro pre later post hlog hlt
  rcases split_append hlog with ⟨post', hlog'⟩ | ⟨pre', -, hev'⟩
  · exact hO.overtaken m hm pre later post' hlog' hlt
  · exact absurd (hev' ▸ by simp) (hev later)

/-- What was handed to the sink has been attempted, before a step and in it. -/
theorem handed_append {s : AlertsTask} {log ev : List AlertsEvent} {n : Nat} (hO : Ordered s log) (hle : s.attempted ≤ n)
    (hev : ∀ m ok, .notifier (.handed m ok) ∈ ev → m.number < n) :
    ∀ m ok, .notifier (.handed m ok) ∈ log ++ ev → m.number < n := by
  intro m ok hm
  rcases List.mem_append.mp hm with hm | hm
  · exact (hO.handed m ok hm).trans_le hle
  · exact hev m ok hm

/-- A step that hands nothing to the sink. -/
theorem ordered_of_quiet {s s' : AlertsTask} {log ev : List AlertsEvent} (hO : Ordered s log) (hI : Inv s' (log ++ ev))
    (hattempted : s'.attempted = s.attempted) (hwaiting : ∀ m ∈ s'.waiting, m ∈ s.waiting)
    (hagain : ∀ m ∈ s'.notifier.queue, ∀ m' ∈ s'.pending, RefusedSince log m m')
    (hev : ∀ m ok, .notifier (.handed m ok) ∉ ev) : Ordered s' (log ++ ev) := by
  refine ⟨hI, ?_, ?_, fun m hm => ?_, fun m hm => ?_, fun m hm m' hm' => ?_⟩
  · rw [hattempted]
    exact handed_append hO (Nat.le_refl _) fun m ok hm => absurd hm (hev m ok)
  · exact late_of_no_accept hO.late fun m => hev m true
  · exact List.mem_append_left _ (hO.refused m (hwaiting m hm))
  · exact overtaken_of_no_accept hO (fun m => hev m true) (hwaiting m hm)
  · exact refusedSince_append (hagain m hm m' hm') (hev m' false)

/-- A message that is accepted comes late only if it was refused. -/
theorem late_of_accept {log : List AlertsEvent} {message : Message} (h : LateOnlyIfRefused log)
    (hnew : ∀ pre later post, log = pre ++ .notifier (.handed later true) :: post → message.number < later.number →
      RefusedSince pre message later) : LateOnlyIfRefused (log ++ [.notifier (.handed message true)]) := by
  intro pre later mid m post hlog hlt
  rw [← List.cons_append, ← List.append_assoc] at hlog
  rcases split_append hlog with ⟨post', hlog'⟩ | ⟨pre', hpre, hev⟩
  · refine h pre later mid m post' ?_ hlt
    rw [hlog', List.append_assoc, List.cons_append]
  · rcases List.append_eq_singleton_iff.mp hev.symm with ⟨rfl, hm⟩ | ⟨-, hm⟩
    · cases hm
      exact hnew pre later mid (by rw [hpre, List.append_nil]) hlt
    · cases hm

/-- The accepted message is one more that others can come after. -/
theorem overtaken_of_accept {s : AlertsTask} {log : List AlertsEvent} {message m : Message} (hO : Ordered s log)
    (hm : m ∈ s.waiting) (hnew : m.number < message.number → RefusedSince log m message) :
    ∀ pre later post, log ++ [.notifier (.handed message true)] = pre ++ .notifier (.handed later true) :: post →
      m.number < later.number → RefusedSince pre m later := by
  intro pre later post hlog hlt
  rcases split_append hlog with ⟨post', hlog'⟩ | ⟨pre', hpre, hev⟩
  · exact hO.overtaken m hm pre later post' hlog' hlt
  · rcases List.append_eq_singleton_iff.mp hev.symm with ⟨rfl, hx⟩ | ⟨-, hx⟩
    · cases hx
      rw [hpre, List.append_nil]
      exact hnew hlt
    · cases hx

theorem ordered_step {queueCapacity : Nat} {s s' : AlertsTask} {log ev : List AlertsEvent} {a : AlertsAction}
    (hO : Ordered s log) (he : AlertsEffect queueCapacity s a s' ev) : Ordered s' (log ++ ev) := by
  have hI := inv_step hO.inv he
  cases he with
  | submitted | full | others => exact ordered_of_quiet hO hI rfl (fun _ h => h) hO.again (by simp)
  | received hpc =>
    refine ordered_of_quiet hO hI ?_ ?_ (fun _ _ _ hm' => by cases hm') (by simp)
    · simp [AlertsTask.attempted, hpc]
    · simp [AlertsTask.waiting, AlertsTask.pending, hpc]
  | ticked hpc =>
    refine ordered_of_quiet hO hI ?_ ?_ (fun _ hm => by cases hm) (by simp)
    · rw [attempted_drainOn]
      simp [AlertsTask.attempted, hpc]
    · rw [AlertsTask.waiting, pending_drainOn]
      exact fun m hm => List.mem_append_left _ hm
  | stored hpc | notStored hpc =>
    refine ordered_of_quiet hO hI ?_ ?_ (fun _ _ _ hm' => by cases hm') (by simp)
    · simp [AlertsTask.attempted, hpc]
    · simp [AlertsTask.waiting, AlertsTask.pending, hpc]
  | @sent request message now hpc =>
    have hnext := hO.inv.notifying _ _ hpc
    have hold := attempted_notifying hpc
    have hwaiting : ∀ m ∈ AlertsTask.waiting
        { s with pc := .inserting message.number (s.event request now .sent) }, m ∈ s.waiting := by
      intro m hm
      rw [waiting_idle] at hm
      · exact List.mem_append_left _ hm
      · rfl
    refine ⟨hI, handed_append hO ?_ fun m ok hm => ?_, late_of_accept hO.late ?_, fun m hm => ?_, fun m hm => ?_,
      fun _ _ _ hm' => by cases hm'⟩
    · change s.attempted ≤ s.taken
      omega
    · cases List.mem_singleton.mp hm
      simp only [AlertsTask.attempted]
      omega
    · -- The newest message comes late after none.
      intro pre later post hlog hlt
      have hlater := hO.handed later true (by simp [hlog])
      omega
    · exact List.mem_append_left _ (hO.refused m (hwaiting m hm))
    · refine overtaken_of_accept hO (hwaiting m hm) fun _ => ?_
      obtain ⟨pre, post, hlog⟩ := List.append_of_mem (hO.refused m (hwaiting m hm))
      refine ⟨pre, post, hlog, fun hin => ?_⟩
      have hlt := hO.handed message false (by simp [hlog, hin])
      omega
  | @queued request message now hpc =>
    have hnext := hO.inv.notifying _ _ hpc
    have hold := attempted_notifying hpc
    have hwaiting : ∀ m ∈ AlertsTask.waiting
        { (s.refused message).1 with pc := .inserting message.number (s.event request now .queued) },
        m ∈ s.waiting ∨ m = message := by
      intro m hm
      rw [waiting_idle] at hm
      · rcases List.mem_append.mp ((push_sublist _ _ _).subset hm) with hm | hm
        · exact Or.inl (List.mem_append_left _ hm)
        · exact Or.inr (List.mem_singleton.mp hm)
      · rfl
    have hev := not_accepted_refused s message
    refine ⟨hI, handed_append hO ?_ fun m ok hm => ?_, late_of_no_accept hO.late hev, fun m hm => ?_, fun m hm => ?_,
      fun _ _ _ hm' => by cases hm'⟩
    · change s.attempted ≤ s.taken
      omega
    · obtain ⟨rfl, -⟩ := handed_mem_refused hm
      simp only [AlertsTask.attempted, AlertsTask.refused]
      omega
    · rcases hwaiting m hm with hm | rfl
      · exact List.mem_append_left _ (hO.refused m hm)
      · exact List.mem_append_right _ List.mem_cons_self
    · rcases hwaiting m hm with hm | rfl
      · exact overtaken_of_no_accept hO hev hm
      · intro pre later post hlog hlt
        rcases split_append hlog with ⟨post', hlog'⟩ | ⟨pre', -, hev'⟩
        · have hlater := hO.handed later true (by simp [hlog'])
          omega
        · exact absurd (hev' ▸ by simp) (hev later)
  | @redelivered message rest now hpc =>
    have hin := mem_waiting_draining hpc
    have hrest := lt_of_draining hO.inv hpc
    have hwaiting : ∀ m ∈ s.notifier.queue ++ rest, m ∈ s.waiting := fun m hm => (redelivered_sublist hpc).subset hm
    have hpending : s.pending = message :: rest := by rw [AlertsTask.pending, hpc]
    refine ⟨hI, ?_, late_of_accept hO.late (hO.overtaken message hin), ?_, ?_, ?_⟩
    · rw [attempted_drainOn, ← attempted_draining hpc]
      refine handed_append hO (Nat.le_refl _) fun m ok hm => ?_
      cases List.mem_singleton.mp hm
      exact hO.inv.below message hin
    · rw [AlertsTask.waiting, pending_drainOn]
      exact fun m hm => List.mem_append_left _ (hO.refused m (hwaiting m hm))
    · rw [AlertsTask.waiting, pending_drainOn]
      intro m hm
      refine overtaken_of_accept hO (hwaiting m hm) fun hlt => ?_
      -- An older message that waits was refused in this drain.
      rcases List.mem_append.mp hm with hm | hm
      · exact hO.again m hm message (by simp [hpending])
      · have hgt := hrest m hm
        omega
    · rw [pending_drainOn]
      intro m hm m' hm'
      exact refusedSince_append (hO.again m hm m' (by simp [hpending, hm'])) (by simp)
  | @requeued message rest now hpc =>
    have hin := mem_waiting_draining hpc
    have hrest := lt_of_draining hO.inv hpc
    have hwaiting : ∀ m ∈ Bounded.push s.notifier.capacity s.notifier.queue message ++ rest, m ∈ s.waiting :=
      fun m hm => (requeued_sublist hpc).subset hm
    have hpending : s.pending = message :: rest := by rw [AlertsTask.pending, hpc]
    have hev := not_accepted_refused s message
    have hother : ∀ m' ∈ rest, .notifier (.handed m' false) ∉ (s.refused message).2 := by
      intro m' hm' hin'
      obtain ⟨rfl, -⟩ := handed_mem_refused hin'
      exact Nat.lt_irrefl _ (hrest _ hm')
    refine ⟨hI, ?_, late_of_no_accept hO.late hev, ?_, ?_, ?_⟩
    · rw [attempted_drainOn]
      refine handed_append hO (attempted_draining hpc).le fun m ok hm => ?_
      obtain ⟨rfl, -⟩ := handed_mem_refused hm
      exact (hO.inv.below _ hin).trans_eq (attempted_draining hpc)
    · rw [AlertsTask.waiting, pending_drainOn]
      exact fun m hm => List.mem_append_left _ (hO.refused m (hwaiting m hm))
    · rw [AlertsTask.waiting, pending_drainOn]
      exact fun m hm => overtaken_of_no_accept hO hev (hwaiting m hm)
    · rw [pending_drainOn]
      intro m hm m' hm'
      rcases List.mem_append.mp ((push_sublist _ _ _).subset hm) with hm | hm
      · exact refusedSince_append (hO.again m hm m' (by simp [hpending, hm'])) (hother m' hm')
      · rw [List.mem_singleton.mp hm]
        refine ⟨log, _, rfl, fun hin' => hother m' hm' (List.mem_cons_of_mem _ hin')⟩

/-- A message is that of the request with its number. -/
def OfRequest (log : List AlertsEvent) (message : Message) : Prop :=
  ∃ request, (submittedRequests log)[message.number]? = some request ∧ message.text = request.message

/-- Requests are taken up in the order submitted, and every message is that of its request. -/
structure Numbered (s : AlertsTask) (log : List AlertsEvent) : Prop where
  requests : ∃ done, submittedRequests log = done ++ s.rx ∧ done.length = s.taken
  handed : MessagesOfRequests log
  waiting : ∀ m ∈ s.waiting, OfRequest log m
  notifying : ∀ request message, s.pc = .notifying request message → OfRequest log message

theorem ofRequest_append {log : List AlertsEvent} {message : Message} (h : OfRequest log message) (ev : List AlertsEvent) :
    OfRequest (log ++ ev) message := by
  obtain ⟨request, hget, htext⟩ := h
  refine ⟨request, ?_, htext⟩
  rw [submittedRequests_append, List.getElem?_append_left (List.getElem?_eq_some_iff.mp hget).1, hget]

/-- A step that submits no request. -/
theorem numbered_of_taken {s s' : AlertsTask} {log ev : List AlertsEvent} (hN : Numbered s log) (hrx : s'.rx = s.rx)
    (htaken : s'.taken = s.taken) (hsubmitted : submittedRequests ev = [])
    (hhanded : ∀ m ok, .notifier (.handed m ok) ∈ ev → OfRequest log m) (hwaiting : ∀ m ∈ s'.waiting, OfRequest log m)
    (hnotifying : ∀ request message, s'.pc = .notifying request message → OfRequest log message) : Numbered s' (log ++ ev) := by
  refine ⟨?_, fun m ok hm => ?_, fun m hm => ofRequest_append (hwaiting m hm) ev, fun request m h => ?_⟩
  · rw [submittedRequests_append, hsubmitted, List.append_nil, hrx, htaken]
    exact hN.requests
  · rcases List.mem_append.mp hm with hm | hm
    · exact ofRequest_append (hN.handed m ok hm) ev
    · exact ofRequest_append (hhanded m ok hm) ev
  · exact ofRequest_append (hnotifying request m h) ev

theorem submittedRequests_refused (s : AlertsTask) (m : Message) : submittedRequests (s.refused m).2 = [] := by
  unfold submittedRequests AlertsTask.refused
  rw [List.filterMap_cons_none rfl, List.filterMap_map]
  exact List.filterMap_eq_nil_iff.mpr fun _ _ => rfl

theorem numbered_step {queueCapacity : Nat} {s s' : AlertsTask} {log ev : List AlertsEvent} {a : AlertsAction}
    (hN : Numbered s log) (he : AlertsEffect queueCapacity s a s' ev) : Numbered s' (log ++ ev) := by
  cases he with
  | @submitted request hroom =>
    obtain ⟨done, hreq, hlen⟩ := hN.requests
    refine ⟨⟨done, ?_, hlen⟩, fun m ok hm => ?_, fun m hm => ofRequest_append (hN.waiting m hm) _, fun r m h => ?_⟩
    · rw [submittedRequests_append, hreq, List.append_assoc]
      rfl
    · rcases List.mem_append.mp hm with hm | hm
      · exact ofRequest_append (hN.handed m ok hm) _
      · cases List.mem_singleton.mp hm
    · exact ofRequest_append (hN.notifying r m h) _
  | full | others => exact numbered_of_taken hN rfl rfl rfl (by simp) hN.waiting hN.notifying
  | @received request rx hpc hrx =>
    obtain ⟨done, hreq, hlen⟩ := hN.requests
    rw [hrx] at hreq
    have hnew : OfRequest log ⟨s.taken, request.message⟩ := by
      refine ⟨request, ?_, rfl⟩
      rw [hreq, ← hlen, List.getElem?_append_right (Nat.le_refl _), Nat.sub_self]
      rfl
    rw [List.append_nil]
    refine ⟨⟨done ++ [request], by rw [hreq, List.append_assoc]; rfl, by simp [hlen]⟩, hN.handed, fun m hm => ?_, ?_⟩
    · refine hN.waiting m ?_
      rw [waiting_idle (by rw [AlertsTask.pending, hpc])]
      simpa [AlertsTask.waiting, AlertsTask.pending] using hm
    · intro r m h
      cases h
      exact hnew
  | ticked hpc =>
    refine numbered_of_taken hN rfl rfl rfl (by simp) ?_ fun r m h => ?_
    · rw [AlertsTask.waiting, pending_drainOn]
      exact fun m hm => hN.waiting m (List.mem_append_left _ hm)
    · cases hq : s.notifier.queue <;> simp [hq, AlertsTask.drainOn] at h
  | @sent request message now hpc =>
    refine numbered_of_taken hN rfl rfl rfl (fun m ok hm => ?_) (fun m hm => ?_) fun _ _ h => by cases h
    · cases List.mem_singleton.mp hm
      exact hN.notifying request message hpc
    · rw [waiting_idle] at hm
      · exact hN.waiting m (List.mem_append_left _ hm)
      · rfl
  | @queued request message now hpc =>
    refine numbered_of_taken hN rfl rfl (submittedRequests_refused s message) (fun m ok hm => ?_) (fun m hm => ?_) fun _ _ h => by cases h
    · rw [(handed_mem_refused hm).1]
      exact hN.notifying request message hpc
    · rw [waiting_idle] at hm
      · rcases List.mem_append.mp ((push_sublist _ _ _).subset hm) with hm | hm
        · exact hN.waiting m (List.mem_append_left _ hm)
        · rw [List.mem_singleton.mp hm]
          exact hN.notifying request message hpc
      · rfl
  | @redelivered message rest now hpc =>
    refine numbered_of_taken hN rfl rfl rfl (fun m ok hm => ?_) ?_ fun r m h => ?_
    · cases List.mem_singleton.mp hm
      exact hN.waiting message (mem_waiting_draining hpc)
    · rw [AlertsTask.waiting, pending_drainOn]
      exact fun m hm => hN.waiting m ((redelivered_sublist hpc).subset hm)
    · cases rest <;> cases h
  | @requeued message rest now hpc =>
    refine numbered_of_taken hN rfl rfl (submittedRequests_refused s message) (fun m ok hm => ?_) ?_ fun r m h => ?_
    · rw [(handed_mem_refused hm).1]
      exact hN.waiting message (mem_waiting_draining hpc)
    · rw [AlertsTask.waiting, pending_drainOn]
      exact fun m hm => hN.waiting m ((requeued_sublist hpc).subset hm)
    · cases rest <;> cases h
  | stored hpc | notStored hpc =>
    refine numbered_of_taken hN rfl rfl rfl (by simp) (fun m hm => ?_) fun _ _ h => by cases h
    rw [waiting_idle] at hm
    · exact hN.waiting m (List.mem_append_left _ hm)
    · rfl

end DeliveryAux

/-- In every run the messages are those of the requests in the order submitted, and a message is accepted after a later one
only when it was refused before. -/
theorem late_only_if_refused {queueCapacity capacity : Nat} {db : Db} {innerName : String} {s : AlertsTask}
    {log : List AlertsEvent}
    (h : Run (AlertsTask.step queueCapacity) (fun s a => always s a = true) (AlertsTask.start db innerName capacity) s log) :
    MessagesOfRequests log ∧ LateOnlyIfRefused log := by
  have hN : DeliveryAux.Numbered s log := by
    refine h.invariant (I := DeliveryAux.Numbered) ⟨⟨[], rfl, rfl⟩, ?_, ?_, fun _ _ h => by cases h⟩
      fun s s' log ev a hN _ hs => DeliveryAux.numbered_step hN (alertsEffect_of_step hs)
    · exact fun _ _ hm => absurd hm List.not_mem_nil
    · exact fun _ hm => absurd hm List.not_mem_nil
  have hO : DeliveryAux.Ordered s log := by
    refine h.invariant (I := DeliveryAux.Ordered) ⟨DeliveryAux.inv_start db innerName capacity, ?_, ?_, ?_, ?_, ?_⟩
      fun s s' log ev a hO _ hs => DeliveryAux.ordered_step hO (alertsEffect_of_step hs)
    · exact fun _ _ hm => absurd hm List.not_mem_nil
    · intro pre later mid message post hlog
      simp at hlog
    · exact fun _ hm => absurd hm List.not_mem_nil
    · exact fun _ hm => absurd hm List.not_mem_nil
    · exact fun _ hm => absurd hm List.not_mem_nil
  exact ⟨hN.handed, hO.late⟩

/-- The sink accepts the recovery first, and the outage it ends afterwards. -/
theorem recovery_before_outage :
    ¬∀ (queueCapacity capacity : Nat) (db : Db) (innerName : String) (s : AlertsTask) (log : List AlertsEvent),
      Run (AlertsTask.step queueCapacity) (fun s a => always s a = true) (AlertsTask.start db innerName capacity) s log →
      ∀ monitorId, (acceptedOf monitorId log).Pairwise (· < ·) := by
  intro h
  let x := after (AlertsTask.step 256) always (AlertsTask.start Db.empty "webhook" 64) outage
  have hr : Run (AlertsTask.step 256) (fun s a => always s a = true) (AlertsTask.start Db.empty "webhook" 64) x.1 x.2 :=
    run_after (by decide +kernel)
  have hsorted := h _ _ _ _ x.1 x.2 hr 1
  have hacc : acceptedOf 1 x.2 = [1, 0] := by decide +kernel
  rw [hacc] at hsorted
  cases (List.pairwise_cons.mp hsorted).1 0 (by simp)

/-- In that run the outage was refused before. -/
theorem outage_was_refused :
    ∃ log, acceptedNumbers log = [1, 0] ∧ LateOnlyIfRefused log := by
  let x := after (AlertsTask.step 256) always (AlertsTask.start Db.empty "webhook" 64) outage
  have hr : Run (AlertsTask.step 256) (fun s a => always s a = true) (AlertsTask.start Db.empty "webhook" 64) x.1 x.2 :=
    run_after (by decide +kernel)
  exact ⟨x.2, by decide +kernel, (late_only_if_refused hr).2⟩

end Monitra
