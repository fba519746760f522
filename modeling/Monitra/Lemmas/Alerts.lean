import Monitra.Engine.Alerts
import Monitra.Lemmas.Steps

/-!
# What a step of the alert task does

The store's part of it (an alert event is inserted by the task alone, and leaves the table only with its monitor), the notifier's
part, one case for each step, and what holds of the messages along a run. Messages are numbered in the order in which their
requests are taken up.
-/

namespace Monitra

namespace Db

/-- An alert event that is inserted is a new row, and its id is the one returned. -/
theorem insertAlertEvent_eq_ok {db db' : Db} {event event' : AlertEvent} {pick : List Int64 → Int64}
    (h : db.insertAlertEvent event pick = .ok (db', event')) :
    ∃ id, db.alertEvents.get? id = none ∧ event' = { event with id := id.toUInt64 } ∧
      db'.alertEvents.rows.Perm (alertEventRow event id :: db.alertEvents.rows) := by
  unfold insertAlertEvent at h
  split at h
  · cases h
  · rename_i t id hins
    split at h
    · cases h
      obtain ⟨-, hfree, hperm, -⟩ := Table.insertRow_eq_some hins
      exact ⟨id, hfree, rfl, hperm⟩
    · cases h

/-- A batch of check results leaves the alert events alone. -/
theorem alertEvents_of_insertCheckResults {pick : List Int64 → Int64} {results : List CheckResult} :
    ∀ {db db' : Db}, db.insertCheckResults pick results = .ok db' → db'.alertEvents = db.alertEvents := by
  induction results with
  | nil =>
    intro db db' h
    cases h
    rfl
  | cons result results ih =>
    intro db db' h
    unfold insertCheckResults at h
    split at h
    · cases h
    · rename_i db₁ h₁
      rw [ih h]
      unfold insertCheckResult at h₁
      split at h₁
      · cases h₁
      · split at h₁
        · cases h₁
          rfl
        · cases h₁

/-- What others do with the store adds no alert event. -/
theorem mem_alertEvents_of_perform {db db' : Db} {pick : List Int64 → Int64} {op : StoreOp} {answer : StoreAnswer}
    (hop : op.insertsAlertEvent = false) (h : db.perform pick op = .ok (db', answer)) :
    ∀ row ∈ db'.alertEvents.rows, row ∈ db.alertEvents.rows := by
  cases writes_of_perform h with
  | deletedMonitor => exact fun row hrow => (Table.mem_rows_delete.mp hrow).1
  | insertedCheckResults h =>
    rw [alertEvents_of_insertCheckResults h]
    exact fun row hrow => hrow
  | insertedAlertEvent => cases hop
  | _ => exact fun row hrow => hrow

end Db

/-- What a message that the sink did not take leaves: it is queued, and what the full queue lost is told. -/
def AlertsTask.refused (s : AlertsTask) (message : Message) : AlertsTask × List AlertsEvent :=
  ({ s with notifier := { s.notifier with queue := Bounded.push s.notifier.capacity s.notifier.queue message } },
    .notifier (.handed message false) ::
      (Bounded.evicted s.notifier.capacity s.notifier.queue).toList.map fun lost => .notifier (.dropped lost))

/-- What a step can do. -/
inductive AlertsEffect (queueCapacity : Nat) (s : AlertsTask) : AlertsAction → AlertsTask → List AlertsEvent → Prop where
  | submitted {request : AlertRequest} (hroom : s.rx.length < queueCapacity) :
      AlertsEffect queueCapacity s (.submit request) { s with rx := s.rx ++ [request] } [.submitted request]
  | full {request : AlertRequest} (hroom : ¬s.rx.length < queueCapacity) : AlertsEffect queueCapacity s (.submit request) s []
  | received {request : AlertRequest} {rx : List AlertRequest} (hpc : s.pc = .select) (hrx : s.rx = request :: rx) :
      AlertsEffect queueCapacity s .recv
        { s with rx, taken := s.taken + 1, pc := .notifying request ⟨s.taken, request.message⟩ } []
  | ticked (hpc : s.pc = .select) :
      AlertsEffect queueCapacity s .tick
        { s with notifier := { s.notifier with queue := [] }, pc := AlertsTask.drainOn s.notifier.queue } []
  | sent {request : AlertRequest} {message : Message} {now : UInt64} (hpc : s.pc = .notifying request message) :
      AlertsEffect queueCapacity s (.sink true now)
        { s with pc := .inserting message.number (s.event request now .sent) } [.notifier (.handed message true)]
  | queued {request : AlertRequest} {message : Message} {now : UInt64} (hpc : s.pc = .notifying request message) :
      AlertsEffect queueCapacity s (.sink false now)
        { (s.refused message).1 with pc := .inserting message.number (s.event request now .queued) } (s.refused message).2
  | redelivered {message : Message} {pending : List Message} {now : UInt64} (hpc : s.pc = .draining (message :: pending)) :
      AlertsEffect queueCapacity s (.sink true now) { s with pc := AlertsTask.drainOn pending }
        [.notifier (.handed message true)]
  | requeued {message : Message} {pending : List Message} {now : UInt64} (hpc : s.pc = .draining (message :: pending)) :
      AlertsEffect queueCapacity s (.sink false now) { (s.refused message).1 with pc := AlertsTask.drainOn pending }
        (s.refused message).2
  | stored {number : Nat} {event event' : AlertEvent} {fault : Bool} {pick : List Int64 → Int64} {db : Db} {id : Int64}
      (hpc : s.pc = .inserting number event) (hid : event' = { event with id := id.toUInt64 })
      (hrows : db.alertEvents.rows.Perm (Db.alertEventRow event id :: s.db.alertEvents.rows))
      (hfree : s.db.alertEvents.get? id = none) :
      AlertsEffect queueCapacity s (.insert fault pick)
        { s with db, pc := .select, source := s.source.insert id number } [.stored number event']
  | notStored {number : Nat} {event : AlertEvent} {fault : Bool} {pick : List Int64 → Int64}
      (hpc : s.pc = .inserting number event) :
      AlertsEffect queueCapacity s (.insert fault pick) { s with pc := .select } [.notStored number]
  | others {op : StoreOp} {pick : List Int64 → Int64} {db : Db}
      (hrows : ∀ row ∈ db.alertEvents.rows, row ∈ s.db.alertEvents.rows) :
      AlertsEffect queueCapacity s (.store op pick) { s with db } []

/-- A step does one of these. -/
theorem alertsEffect_of_step {queueCapacity : Nat} {s s' : AlertsTask} {a : AlertsAction} {ev : List AlertsEvent}
    (h : s.step queueCapacity a = some (s', ev)) : AlertsEffect queueCapacity s a s' ev := by
  cases a with
  | submit request =>
    cases h
    by_cases hroom : s.rx.length < queueCapacity
    · rw [Channel.trySend_of_lt hroom, if_pos hroom]
      exact .submitted hroom
    · rw [Channel.trySend_of_le (Nat.not_lt.mp hroom), if_neg hroom]
      exact .full hroom
  | recv =>
    simp only [AlertsTask.step] at h
    split at h
    · rename_i request rx hpc hrx
      cases h
      exact .received hpc hrx
    · cases h
  | tick =>
    simp only [AlertsTask.step] at h
    split at h
    · rename_i hpc
      cases h
      exact .ticked hpc
    · cases h
  | sink ok now =>
    simp only [AlertsTask.step] at h
    split at h
    · rename_i request message hpc
      cases ok with
      | true =>
        cases h
        exact .sent hpc
      | false =>
        simp only [RetryingNotifier.notifyRecordingOutcome, RetryingNotifier.enqueue, Bool.false_eq_true, if_false,
          List.map_cons, List.map_map] at h
        cases h
        exact .queued hpc
    · rename_i message pending hpc
      cases ok with
      | true =>
        cases h
        exact .redelivered hpc
      | false =>
        simp only [RetryingNotifier.redeliver, RetryingNotifier.enqueue, Bool.false_eq_true, if_false, List.map_cons,
          List.map_map] at h
        cases h
        exact .requeued hpc
    · cases h
  | insert fault pick =>
    simp only [AlertsTask.step] at h
    split at h
    · rename_i number event hpc
      split at h
      · rename_i db event' hins
        cases h
        obtain ⟨id, hfree, rfl, hperm⟩ := Db.insertAlertEvent_eq_ok (answer_eq_ok hins).2
        rw [Int64.toInt64_toUInt64]
        exact .stored hpc rfl hperm hfree
      · cases h
        exact .notStored hpc
    · cases h
  | store op pick =>
    simp only [AlertsTask.step] at h
    split at h
    · cases h
    · rename_i hop
      split at h
      · rename_i db ans hdb
        cases h
        exact .others (Db.mem_alertEvents_of_perform (Bool.eq_false_iff.mpr hop) hdb)
      · cases h

/-! ## The messages -/

/-- The numbers of the messages that the sink accepted, in the order in which it did. -/
def acceptedNumbers (log : List AlertsEvent) : List Nat :=
  log.filterMap fun
    | .notifier (.handed message true) => some message.number
    | _ => none

/-- The requests that found room in the channel, in order. -/
def submittedRequests (log : List AlertsEvent) : List AlertRequest :=
  log.filterMap fun
    | .submitted request => some request
    | _ => none

@[simp] theorem acceptedNumbers_append (log log' : List AlertsEvent) :
    acceptedNumbers (log ++ log') = acceptedNumbers log ++ acceptedNumbers log' := List.filterMap_append

@[simp] theorem submittedRequests_append (log log' : List AlertsEvent) :
    submittedRequests (log ++ log') = submittedRequests log ++ submittedRequests log' := List.filterMap_append

namespace AlertsTask

/-- The messages of a drain that are still to come. -/
def pending (s : AlertsTask) : List Message :=
  match s.pc with
  | .draining pending => pending
  | _ => []

/-- The messages that wait for another attempt, oldest first. -/
def waiting (s : AlertsTask) : List Message := s.notifier.queue ++ s.pending

/-- How many messages have been handed to the sink at least once. -/
def attempted (s : AlertsTask) : Nat :=
  match s.pc with
  | .notifying _ message => message.number
  | _ => s.taken

/-- Whether the event of a message is in the store. -/
def recorded (s : AlertsTask) (number : Nat) : Bool :=
  s.db.alertEvents.rows.any fun row => decide (s.source.lookup row.id = some number)

end AlertsTask

namespace DeliveryAux

/-- What holds of the messages along a run. -/
structure Inv (s : AlertsTask) (log : List AlertsEvent) : Prop where
  notifying : ∀ request message, s.pc = .notifying request message → s.taken = message.number + 1
  sorted : s.waiting.Pairwise fun m m' => m.number < m'.number
  below : ∀ m ∈ s.waiting, m.number < s.attempted
  accepted : ∀ n ∈ acceptedNumbers log, n < s.attempted
  apart : ∀ m ∈ s.waiting, m.number ∉ acceptedNumbers log

@[simp] theorem acceptedNumbers_handed_true (m : Message) : acceptedNumbers [.notifier (.handed m true)] = [m.number] := rfl

theorem acceptedNumbers_dropped (lost : List Message) :
    acceptedNumbers (lost.map fun m => .notifier (.dropped m)) = [] := by
  rw [acceptedNumbers, List.filterMap_map]
  exact List.filterMap_eq_nil_iff.mpr fun _ _ => rfl

/-- A refusal is no acceptance. -/
@[simp] theorem acceptedNumbers_refused (s : AlertsTask) (m : Message) : acceptedNumbers (s.refused m).2 = [] :=
  acceptedNumbers_dropped _

/-- Of the events of a refusal only the first hands a message to the sink. -/
theorem handed_mem_refused {s : AlertsTask} {m m' : Message} {ok : Bool}
    (h : .notifier (.handed m' ok) ∈ (s.refused m).2) : m' = m ∧ ok = false := by
  rcases List.mem_cons.mp h with h | h
  · cases h
    exact ⟨rfl, rfl⟩
  · obtain ⟨_, _, h⟩ := List.mem_map.mp h
    cases h

/-- A refusal accepts nothing. -/
theorem not_accepted_refused (s : AlertsTask) (m m' : Message) : .notifier (.handed m' true) ∉ (s.refused m).2 := by
  intro h
  cases (handed_mem_refused h).2

section

variable (db : Db) (rx : List AlertRequest) (notifier : RetryingNotifier) (taken : Nat) (source : HashMap Int64 Nat)

@[simp] theorem pending_drainOn (l : List Message) :
    AlertsTask.pending ⟨db, rx, notifier, AlertsTask.drainOn l, taken, source⟩ = l := by
  cases l <;> rfl

@[simp] theorem attempted_drainOn (l : List Message) :
    AlertsTask.attempted ⟨db, rx, notifier, AlertsTask.drainOn l, taken, source⟩ = taken := by
  cases l <;> rfl

end

theorem push_sublist (cap : Nat) (q : List Message) (m : Message) : (Bounded.push cap q m).Sublist (q ++ [m]) := by
  rw [← Bounded.evicted_append_push cap q m]
  exact List.sublist_append_right _ _

/-- What a step with no new message keeps: no message is added to those that wait, and those accepted wait no more. -/
theorem inv_of_sublist {s s' : AlertsTask} {log ev : List AlertsEvent} (hI : Inv s log)
    (hnotifying : ∀ request message, s'.pc = .notifying request message → s'.taken = message.number + 1)
    (hwaiting : s'.waiting.Sublist s.waiting) (hattempted : s'.attempted = s.attempted)
    (hev : ∀ n ∈ acceptedNumbers ev, n < s.attempted ∧ ∀ m ∈ s'.waiting, m.number ≠ n) : Inv s' (log ++ ev) := by
  refine ⟨hnotifying, hI.sorted.sublist hwaiting, fun m hm => ?_, fun n hn => ?_, fun m hm hn => ?_⟩
  · rw [hattempted]
    exact hI.below m (hwaiting.subset hm)
  · rw [acceptedNumbers_append] at hn
    rw [hattempted]
    rcases List.mem_append.mp hn with hn | hn
    · exact hI.accepted n hn
    · exact (hev n hn).1
  · rw [acceptedNumbers_append] at hn
    rcases List.mem_append.mp hn with hn | hn
    · exact hI.apart m (hwaiting.subset hm) hn
    · exact (hev _ hn).2 m hm rfl

/-- With no drain under way the messages that wait are those in the queue. -/
theorem waiting_idle {s : AlertsTask} (h : s.pending = []) : s.waiting = s.notifier.queue := by
  rw [AlertsTask.waiting, h, List.append_nil]

/-- A drain takes its messages from the front. -/
theorem waiting_draining {s : AlertsTask} {m : Message} {rest : List Message} (hpc : s.pc = .draining (m :: rest)) :
    s.waiting = s.notifier.queue ++ m :: rest := by
  rw [AlertsTask.waiting, AlertsTask.pending, hpc]

theorem waiting_notifying {s : AlertsTask} {request : AlertRequest} {m : Message} (hpc : s.pc = .notifying request m) :
    s.waiting = s.notifier.queue :=
  waiting_idle (by rw [AlertsTask.pending, hpc])

theorem attempted_notifying {s : AlertsTask} {request : AlertRequest} {m : Message} (hpc : s.pc = .notifying request m) :
    s.attempted = m.number := by
  rw [AlertsTask.attempted, hpc]

theorem attempted_draining {s : AlertsTask} {l : List Message} (hpc : s.pc = .draining l) : s.attempted = s.taken := by
  rw [AlertsTask.attempted, hpc]

theorem mem_waiting_draining {s : AlertsTask} {m : Message} {rest : List Message} (hpc : s.pc = .draining (m :: rest)) :
    m ∈ s.waiting := by
  rw [waiting_draining hpc]
  exact List.mem_append_right _ List.mem_cons_self

/-- A drain goes on with the newer messages. -/
theorem lt_of_draining {s : AlertsTask} {log : List AlertsEvent} {m : Message} {rest : List Message} (hI : Inv s log)
    (hpc : s.pc = .draining (m :: rest)) : ∀ m' ∈ rest, m.number < m'.number := by
  have hsorted := hI.sorted
  rw [waiting_draining hpc] at hsorted
  exact (List.pairwise_cons.mp (List.pairwise_append.mp hsorted).2.1).1

/-- Once a message is delivered the others go on waiting. -/
theorem redelivered_sublist {s : AlertsTask} {m : Message} {rest : List Message} (hpc : s.pc = .draining (m :: rest)) :
    (s.notifier.queue ++ rest).Sublist s.waiting := by
  rw [waiting_draining hpc]
  exact (List.sublist_cons_self m rest).append_left _

/-- A message whose drain is under way waits behind those queued again and before the rest. -/
theorem requeued_sublist {s : AlertsTask} {m : Message} {rest : List Message} (hpc : s.pc = .draining (m :: rest)) :
    (Bounded.push s.notifier.capacity s.notifier.queue m ++ rest).Sublist s.waiting := by
  rw [waiting_draining hpc, List.append_cons]
  exact (push_sublist _ _ _).append_right rest

theorem inv_step {queueCapacity : Nat} {s s' : AlertsTask} {log ev : List AlertsEvent} {a : AlertsAction} (hI : Inv s log)
    (he : AlertsEffect queueCapacity s a s' ev) : Inv s' (log ++ ev) := by
  cases he with
  | submitted | full | others =>
    exact inv_of_sublist hI hI.notifying (List.Sublist.refl _) rfl (by simp [acceptedNumbers])
  | received hpc =>
    refine inv_of_sublist hI ?_ ?_ ?_ (by simp [acceptedNumbers])
    · intro request message h
      cases h
      rfl
    · simp [AlertsTask.waiting, AlertsTask.pending, hpc]
    · simp [AlertsTask.attempted, hpc]
  | ticked hpc =>
    refine inv_of_sublist hI ?_ ?_ ?_ (by simp [acceptedNumbers])
    · intro request message h
      cases hq : s.notifier.queue <;> simp [hq, AlertsTask.drainOn] at h
    · rw [AlertsTask.waiting, pending_drainOn]
      exact List.sublist_append_left _ _
    · rw [attempted_drainOn]
      simp [AlertsTask.attempted, hpc]
  | sent hpc =>
    have hnext := hI.notifying _ _ hpc
    have hold := attempted_notifying hpc
    refine ⟨nofun, ?_, ?_, ?_, ?_⟩
    · have hsorted := hI.sorted
      rw [waiting_notifying hpc] at hsorted
      simpa [AlertsTask.waiting, AlertsTask.pending] using hsorted
    · intro m hm
      have hlt := hI.below m (by simpa [AlertsTask.waiting, AlertsTask.pending, hpc] using hm)
      simp only [AlertsTask.attempted]
      omega
    · intro n hn
      simp only [AlertsTask.attempted]
      rcases List.mem_append.mp (acceptedNumbers_append _ _ ▸ hn) with hn | hn
      · have hlt := hI.accepted n hn
        omega
      · have heq := List.mem_singleton.mp hn
        omega
    · intro m hm hn
      have hm' : m ∈ s.waiting := by simpa [AlertsTask.waiting, AlertsTask.pending, hpc] using hm
      have hlt := hI.below m hm'
      rcases List.mem_append.mp (acceptedNumbers_append _ _ ▸ hn) with hn | hn
      · exact hI.apart m hm' hn
      · have heq := List.mem_singleton.mp hn
        omega
  | @queued request message now hpc =>
    have hnext := hI.notifying _ _ hpc
    have hold := attempted_notifying hpc
    have hsub := push_sublist s.notifier.capacity s.notifier.queue message
    rw [← waiting_notifying hpc] at hsub
    have hmem : ∀ m ∈ Bounded.push s.notifier.capacity s.notifier.queue message, m ∈ s.waiting ∨ m = message := by
      intro m hm
      simpa [List.mem_append] using hsub.subset (by simpa [waiting_notifying hpc] using hm)
    refine ⟨nofun, ?_, ?_, ?_, ?_⟩
    · have hall : (s.waiting ++ [message]).Pairwise fun m m' => m.number < m'.number := by
        refine List.pairwise_append.mpr ⟨hI.sorted, List.pairwise_singleton _ _, fun m hm m' hm' => ?_⟩
        have hlt := hI.below m hm
        rw [List.mem_singleton.mp hm']
        omega
      have hsorted := hall.sublist hsub
      rw [waiting_notifying hpc] at hsorted
      simpa [AlertsTask.waiting, AlertsTask.pending, AlertsTask.refused] using hsorted
    · intro m hm
      simp only [AlertsTask.attempted, AlertsTask.refused]
      rcases hmem m (by simpa [AlertsTask.waiting, AlertsTask.pending, AlertsTask.refused] using hm) with hm | rfl
      · have hlt := hI.below m hm
        omega
      · omega
    · intro n hn
      rw [acceptedNumbers_append, acceptedNumbers_refused, List.append_nil] at hn
      have hlt := hI.accepted n hn
      simp only [AlertsTask.attempted, AlertsTask.refused]
      omega
    · intro m hm hn
      rw [acceptedNumbers_append, acceptedNumbers_refused, List.append_nil] at hn
      rcases hmem m (by simpa [AlertsTask.waiting, AlertsTask.pending, AlertsTask.refused] using hm) with hm | rfl
      · exact hI.apart m hm hn
      · have hlt := hI.accepted _ hn
        omega
  | @redelivered message rest now hpc =>
    have hsorted := hI.sorted
    rw [waiting_draining hpc] at hsorted
    have hwaiting : AlertsTask.waiting { s with pc := AlertsTask.drainOn rest } = s.notifier.queue ++ rest := by
      rw [AlertsTask.waiting, pending_drainOn]
    refine inv_of_sublist hI ?_ ?_ ?_ ?_
    · intro request m h
      cases rest <;> cases h
    · rw [hwaiting]
      exact redelivered_sublist hpc
    · rw [attempted_drainOn, attempted_draining hpc]
    · intro n hn
      obtain rfl := List.mem_singleton.mp hn
      refine ⟨hI.below message (mem_waiting_draining hpc), fun m hm heq => ?_⟩
      rw [hwaiting] at hm
      rcases List.mem_append.mp hm with hm | hm
      · have hlt := (List.pairwise_append.mp hsorted).2.2 m hm message List.mem_cons_self
        omega
      · have hlt := lt_of_draining hI hpc m hm
        omega
  | @requeued message rest now hpc =>
    refine inv_of_sublist hI ?_ ?_ ?_ (by simp)
    · intro request m h
      cases rest <;> cases h
    · rw [AlertsTask.waiting, pending_drainOn]
      exact requeued_sublist hpc
    · rw [attempted_drainOn, attempted_draining hpc]
      rfl
  | stored hpc | notStored hpc =>
    refine inv_of_sublist hI nofun ?_ ?_ (by simp [acceptedNumbers])
    · simp [AlertsTask.waiting, AlertsTask.pending, hpc]
    · simp [AlertsTask.attempted, hpc]

theorem inv_start (db : Db) (innerName : String) (capacity : Nat) : Inv (AlertsTask.start db innerName capacity) [] := by
  refine ⟨nofun, ?_, ?_, ?_, ?_⟩ <;>
    simp [AlertsTask.start, AlertsTask.waiting, AlertsTask.pending, RetryingNotifier.new, acceptedNumbers]

end DeliveryAux

end Monitra
