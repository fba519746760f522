import Monitra.Library.Runs
import Monitra.Lemmas.Alerts

/-!
# What the alert history says of the delivery

The alert task hands a message to the sink first and then stores what came of it, once. So no event is stored before its message
is handed over, and an event that says that its message is queued goes on saying it when the message is accepted from the retry
queue, or lost to a full one.
-/

namespace Monitra

open Runs

/-- A monitor goes down while the sink does not answer, and up again when it does; the next drain hands out what waits. -/
def outage : List AlertsAction := [
  .store (.insertMonitor ⟨⟨0, 0⟩, "db", "http://db", .http, 60, .pending, none⟩) fun _ => 0,
  .submit ⟨⟨1, 0⟩, "db", .down⟩, .recv, .sink false 100, .insert false fun _ => 0,
  .submit ⟨⟨1, 0⟩, "db", .up⟩, .recv, .sink true 200, .insert false fun _ => 0,
  .tick, .sink true 230]

/-! ## Before the delivery -/

/-- Whenever a message is handed to the sink, its event has been stored. -/
def PersistedFirst (log : List AlertsEvent) : Prop :=
  ∀ pre message ok post, log = pre ++ .notifier (.handed message ok) :: post → ∃ event, .stored message.number event ∈ pre

namespace DeliveryAux

/-- Nothing was handed or stored, or the first message was handed before its event was stored. -/
structure Before (s : AlertsTask) (log : List AlertsEvent) : Prop where
  inv : Inv s log
  idle : s.attempted = 0 → ∀ number event, s.pc ≠ .inserting number event
  untouched : s.attempted = 0 →
    (∀ message ok, .notifier (.handed message ok) ∉ log) ∧ ∀ number event, .stored number event ∉ log
  broken : 0 < s.attempted → ¬PersistedFirst log

theorem persistedFirst_of_append {log ev : List AlertsEvent} (h : PersistedFirst (log ++ ev)) : PersistedFirst log := by
  intro pre message ok post hlog
  exact h pre message ok (post ++ ev) (by rw [hlog, List.append_assoc, List.cons_append])

/-- A step at which no first attempt ends keeps it. -/
theorem before_of_quiet {s s' : AlertsTask} {log ev : List AlertsEvent} (hB : Before s log) (hI : Inv s' (log ++ ev))
    (hattempted : s'.attempted = s.attempted)
    (hidle : s.attempted = 0 → ∀ number event, s'.pc ≠ .inserting number event)
    (hev : s.attempted = 0 → (∀ message ok, .notifier (.handed message ok) ∉ ev) ∧ ∀ number event, .stored number event ∉ ev) :
    Before s' (log ++ ev) := by
  refine ⟨hI, fun h => ?_, fun h => ?_, fun h hfirst => ?_⟩
  · exact hidle (hattempted ▸ h)
  · rw [hattempted] at h
    obtain ⟨hhanded, hstored⟩ := hB.untouched h
    obtain ⟨hhanded', hstored'⟩ := hev h
    exact ⟨fun m ok hm => (List.mem_append.mp hm).elim (hhanded m ok) (hhanded' m ok),
      fun n e hm => (List.mem_append.mp hm).elim (hstored n e) (hstored' n e)⟩
  · exact hB.broken (hattempted ▸ h) (persistedFirst_of_append hfirst)

/-- Once a first attempt has been made the property is lost. -/
theorem not_persistedFirst {s : AlertsTask} {log ev : List AlertsEvent} {message : Message} {ok : Bool}
    (hB : Before s log) : ¬PersistedFirst (log ++ .notifier (.handed message ok) :: ev) := by
  intro hfirst
  by_cases hzero : s.attempted = 0
  · obtain ⟨event, hin⟩ := hfirst log message ok ev rfl
    exact (hB.untouched hzero).2 _ _ hin
  · exact hB.broken (by omega) (persistedFirst_of_append hfirst)

theorem before_step {queueCapacity : Nat} {s s' : AlertsTask} {log ev : List AlertsEvent} {a : AlertsAction} (hB : Before s log)
    (he : AlertsEffect queueCapacity s a s' ev) : Before s' (log ++ ev) := by
  have hI := inv_step hB.inv he
  -- While nothing was handed no message waits, so no drain has anything to do.
  have hnone : ∀ message rest, s.pc = .draining (message :: rest) → s.attempted ≠ 0 := by
    intro message rest hpc hzero
    have hlt := hB.inv.below message (mem_waiting_draining hpc)
    omega
  cases he with
  | submitted | full | others => exact before_of_quiet hB hI rfl hB.idle (by simp)
  | received hpc =>
    refine before_of_quiet hB hI ?_ (fun _ => nofun) (by simp)
    simp [AlertsTask.attempted, hpc]
  | ticked hpc =>
    refine before_of_quiet hB hI ?_ (fun _ number event h => ?_) (by simp)
    · rw [attempted_drainOn]
      simp [AlertsTask.attempted, hpc]
    · cases hq : s.notifier.queue <;> simp [hq, AlertsTask.drainOn] at h
  | sent hpc =>
    have hnext := hB.inv.notifying _ _ hpc
    have hpos : s.taken ≠ 0 := by omega
    exact ⟨hI, fun h => absurd h hpos, fun h => absurd h hpos, fun _ => not_persistedFirst hB⟩
  | queued hpc =>
    have hnext := hB.inv.notifying _ _ hpc
    have hpos : s.taken ≠ 0 := by omega
    exact ⟨hI, fun h => absurd h hpos, fun h => absurd h hpos, fun _ => not_persistedFirst hB⟩
  | redelivered hpc =>
    refine before_of_quiet hB hI ?_ (fun h => absurd h (hnone _ _ hpc)) (fun h => absurd h (hnone _ _ hpc))
    rw [attempted_drainOn, attempted_draining hpc]
  | requeued hpc =>
    refine before_of_quiet hB hI ?_ (fun h => absurd h (hnone _ _ hpc)) (fun h => absurd h (hnone _ _ hpc))
    rw [attempted_drainOn, attempted_draining hpc]
    rfl
  | stored hpc | notStored hpc =>
    refine before_of_quiet hB hI ?_ (fun h => absurd hpc (hB.idle h _ _)) (fun h => absurd hpc (hB.idle h _ _))
    simp [AlertsTask.attempted, hpc]

end DeliveryAux

/-- In every run the events are stored before the messages are handed to the sink exactly as long as no request has been taken
up, or the sink has not answered for the first one yet. -/
theorem persisted_first_iff {queueCapacity capacity : Nat} {db : Db} {innerName : String} {s : AlertsTask}
    {log : List AlertsEvent}
    (h : Run (AlertsTask.step queueCapacity) (fun s a => always s a = true) (AlertsTask.start db innerName capacity) s log) :
    PersistedFirst log ↔ s.taken = 0 ∨ ∃ request message, s.pc = .notifying request message ∧ message.number = 0 := by
  have hB : DeliveryAux.Before s log := by
    refine h.invariant (I := DeliveryAux.Before) ⟨DeliveryAux.inv_start db innerName capacity, fun _ => nofun, ?_, ?_⟩
      fun s s' log ev a hB _ hs => DeliveryAux.before_step hB (alertsEffect_of_step hs)
    · exact fun _ => ⟨fun _ _ => List.not_mem_nil, fun _ _ => List.not_mem_nil⟩
    · exact fun h => absurd h (Nat.lt_irrefl 0)
  have hzero : s.attempted = 0 ↔ s.taken = 0 ∨ ∃ request message, s.pc = .notifying request message ∧ message.number = 0 := by
    cases hpc : s.pc with
    | notifying request message =>
      have hnext := hB.inv.notifying request message hpc
      rw [DeliveryAux.attempted_notifying hpc]
      simp only [AlertsPc.notifying.injEq]
      constructor
      · exact fun h => Or.inr ⟨request, message, ⟨rfl, rfl⟩, h⟩
      · rintro (h | ⟨_, _, ⟨-, rfl⟩, h⟩)
        · omega
        · exact h
    | _ => simp [AlertsTask.attempted, hpc]
  rw [← hzero]
  constructor
  · intro hfirst
    by_contra hpos
    exact hB.broken (by omega) hfirst
  · intro h pre message ok post hlog
    exact absurd (hlog ▸ by simp) ((hB.untouched h).1 message ok)

/-- The outage is told to the sink before its event is stored. -/
theorem not_persisted_first :
    ¬∀ (queueCapacity capacity : Nat) (db : Db) (innerName : String) (s : AlertsTask) (log : List AlertsEvent),
      Run (AlertsTask.step queueCapacity) (fun s a => always s a = true) (AlertsTask.start db innerName capacity) s log →
      PersistedFirst log := by
  intro h
  let x := after (AlertsTask.step 256) always (AlertsTask.start Db.empty "webhook" 64) (outage.take 5)
  have hr : Run (AlertsTask.step 256) (fun s a => always s a = true) (AlertsTask.start Db.empty "webhook" 64) x.1 x.2 :=
    run_after (by decide +kernel)
  have hfirst := h _ _ _ _ x.1 x.2 hr [.submitted ⟨⟨1, 0⟩, "db", .down⟩]
    ⟨0, "monitor 'db' (1) transitioned to Down"⟩ false (x.2.drop 2) (by decide +kernel)
  obtain ⟨event, hevent⟩ := hfirst
  cases List.mem_singleton.mp hevent

/-- Before the outage nothing is told to the sink, and the property holds. -/
theorem persisted_first_so_far :
    ∃ s log, Run (AlertsTask.step 256) (fun s a => always s a = true) (AlertsTask.start Db.empty "webhook" 64) s log ∧
      PersistedFirst log := by
  let x := after (AlertsTask.step 256) always (AlertsTask.start Db.empty "webhook" 64) (outage.take 2)
  have hr : Run (AlertsTask.step 256) (fun s a => always s a = true) (AlertsTask.start Db.empty "webhook" 64) x.1 x.2 :=
    run_after (by decide +kernel)
  exact ⟨x.1, x.2, hr, (persisted_first_iff hr).mpr (Or.inl (by decide +kernel))⟩

/-! ## After the delivery -/

/-- The stored event of a message says that it was sent if and only if the sink has accepted it, and that it is queued if and only
if it is in the retry queue. -/
def HistoryTruthful (s : AlertsTask) (log : List AlertsEvent) : Prop :=
  ∀ row ∈ s.db.alertEvents.rows, ∀ number, s.source.lookup row.id = some number →
    (row.deliveryOutcome = "sent" ↔ number ∈ acceptedNumbers log) ∧
      (row.deliveryOutcome = "queued for retry" ↔ number ∈ s.notifier.queue.map (·.number))

/-- The condition. No message whose event is stored is accepted from the retry queue, or lost to a full one. -/
def keepsHistory (s : AlertsTask) : AlertsAction → Bool
  | .sink ok _ =>
    match s.pc with
    | .notifying _ _ => ok || (Bounded.evicted s.notifier.capacity s.notifier.queue).all fun lost => !s.recorded lost.number
    | .draining (message :: _) => !ok || !s.recorded message.number
    | _ => true
  | _ => true

namespace DeliveryAux

/-- What an event says of its message is so. -/
def Tells (s : AlertsTask) (log : List AlertsEvent) (number : Nat) (outcome : String) : Prop :=
  (outcome = "sent" ∧ number ∈ acceptedNumbers log ∧ number ∉ s.waiting.map (·.number)) ∨
    (outcome = "queued for retry" ∧ number ∉ acceptedNumbers log ∧ number ∈ s.waiting.map (·.number))

/-- What holds of the events while the steps meet the condition. -/
structure Told (capacity : Nat) (s : AlertsTask) (log : List AlertsEvent) : Prop where
  inv : Inv s log
  bound : s.notifier.capacity = capacity
  room : s.notifier.queue.length + s.pending.length ≤ capacity
  rows : ∀ row ∈ s.db.alertEvents.rows, ∀ number, s.source.lookup row.id = some number → Tells s log number row.deliveryOutcome
  inserting : ∀ number event, s.pc = .inserting number event → Tells s log number event.deliveryOutcome

/-- What an event says stays so as long as its message is not concerned. -/
theorem tells_of {s s' : AlertsTask} {log ev : List AlertsEvent} {number : Nat} {outcome : String} (h : Tells s log number outcome)
    (hev : number ∉ acceptedNumbers ev) (hwaiting : number ∈ s'.waiting.map (·.number) ↔ number ∈ s.waiting.map (·.number)) :
    Tells s' (log ++ ev) number outcome := by
  unfold Tells
  rw [acceptedNumbers_append, List.mem_append, hwaiting]
  rcases h with ⟨htext, hacc, hnot⟩ | ⟨htext, hnot, hin⟩
  · exact Or.inl ⟨htext, Or.inl hacc, hnot⟩
  · exact Or.inr ⟨htext, fun hor => hor.elim hnot hev, hin⟩

/-- The number of an event is one of a message that was handed to the sink. -/
theorem lt_of_tells {s : AlertsTask} {log : List AlertsEvent} {number : Nat} {outcome : String} (hI : Inv s log)
    (h : Tells s log number outcome) : number < s.attempted := by
  rcases h with ⟨-, hacc, -⟩ | ⟨-, -, hin⟩
  · exact hI.accepted number hacc
  · obtain ⟨m, hm, rfl⟩ := List.mem_map.mp hin
    exact hI.below m hm

/-- The rows that a step leaves tell what they did, if it concerns none of their messages. -/
theorem rows_of {s s' : AlertsTask} {log ev : List AlertsEvent} {capacity : Nat} (hT : Told capacity s log)
    (hdb : ∀ row ∈ s'.db.alertEvents.rows, row ∈ s.db.alertEvents.rows) (hsource : s'.source = s.source)
    (hev : ∀ number, s.recorded number = true → number < s.attempted →
      number ∉ acceptedNumbers ev ∧ (number ∈ s'.waiting.map (·.number) ↔ number ∈ s.waiting.map (·.number))) :
    ∀ row ∈ s'.db.alertEvents.rows, ∀ number, s'.source.lookup row.id = some number →
      Tells s' (log ++ ev) number row.deliveryOutcome := by
  intro row hrow number hsrc
  rw [hsource] at hsrc
  have htells := hT.rows row (hdb row hrow) number hsrc
  have hrecorded : s.recorded number = true :=
    List.any_eq_true.mpr ⟨row, hdb row hrow, by simpa using hsrc⟩
  obtain ⟨hnot, hiff⟩ := hev number hrecorded (lt_of_tells hT.inv htells)
  exact tells_of htells hnot hiff

theorem queue_le {s : AlertsTask} {log : List AlertsEvent} {capacity : Nat} (hT : Told capacity s log) :
    s.notifier.queue.length ≤ capacity :=
  (Nat.le_add_right _ _).trans hT.room

/-- A drain queues again what there is room for. -/
theorem push_of_told {s : AlertsTask} {log : List AlertsEvent} {capacity : Nat} {message : Message} {rest : List Message}
    (hT : Told capacity s log) (hpc : s.pc = .draining (message :: rest)) :
    Bounded.push s.notifier.capacity s.notifier.queue message = s.notifier.queue ++ [message] := by
  have hroom := hT.room
  rw [AlertsTask.pending, hpc, List.length_cons] at hroom
  refine Bounded.push_of_lt ?_ message
  rw [hT.bound]
  omega

theorem told_step {queueCapacity capacity : Nat} (hcapacity : 1 ≤ capacity) {s s' : AlertsTask} {log ev : List AlertsEvent}
    {a : AlertsAction} (hT : Told capacity s log) (hok : keepsHistory s a = true) (he : AlertsEffect queueCapacity s a s' ev) :
    Told capacity s' (log ++ ev) := by
  have hI := inv_step hT.inv he
  have hle := queue_le hT
  cases he with
  | submitted | full | others =>
    refine ⟨hI, hT.bound, hT.room, ?_, fun number event hpc => ?_⟩
    · exact rows_of hT (by first | assumption | exact fun _ h => h) rfl fun _ _ _ => ⟨List.not_mem_nil, Iff.rfl⟩
    · exact tells_of (hT.inserting number event hpc) List.not_mem_nil Iff.rfl
  | received hpc =>
    have hidle : s.pending = [] := by rw [AlertsTask.pending, hpc]
    refine ⟨hI, hT.bound, hle, rows_of hT (fun _ h => h) rfl fun _ _ _ => ⟨List.not_mem_nil, ?_⟩, fun _ _ h => by cases h⟩
    rw [waiting_idle hidle, waiting_idle]
    rfl
  | ticked hpc =>
    have hidle : s.pending = [] := by rw [AlertsTask.pending, hpc]
    refine ⟨hI, hT.bound, ?_, rows_of hT (fun _ h => h) rfl fun _ _ _ => ⟨List.not_mem_nil, ?_⟩, fun number event h => ?_⟩
    · rw [pending_drainOn]
      simpa using hle
    · rw [waiting_idle hidle, AlertsTask.waiting, pending_drainOn, List.nil_append]
    · cases hq : s.notifier.queue <;> simp [hq, AlertsTask.drainOn] at h
  | @sent request message now hpc =>
    have hold := attempted_notifying hpc
    have hwaiting : AlertsTask.waiting
        { s with pc := .inserting message.number (s.event request now .sent) } = s.waiting := by
      rw [waiting_notifying hpc, waiting_idle]
      rfl
    refine ⟨hI, hT.bound, hle, rows_of hT (fun _ h => h) rfl fun number _ hlt => ⟨?_, by rw [hwaiting]⟩, ?_⟩
    · rw [acceptedNumbers_handed_true, List.mem_singleton]
      omega
    · intro number event h
      cases h
      refine Or.inl ⟨rfl, by simp, fun hin => ?_⟩
      obtain ⟨m, hm, heq⟩ := List.mem_map.mp hin
      have hlt := hT.inv.below m (hwaiting ▸ hm)
      omega
  | @queued request message now hpc =>
    have hold := attempted_notifying hpc
    have hwaiting : AlertsTask.waiting
        { (s.refused message).1 with pc := .inserting message.number (s.event request now .queued) } =
        Bounded.push s.notifier.capacity s.notifier.queue message := waiting_idle rfl
    have hlast : message ∈ Bounded.push s.notifier.capacity s.notifier.queue message := by simp [Bounded.push]
    refine ⟨hI, hT.bound, ?_, rows_of hT (fun _ h => h) rfl fun number hrecorded hlt => ⟨by simp, ?_⟩, ?_⟩
    · have hpush := Bounded.length_push_le hcapacity hle message
      rw [← hT.bound] at hpush ⊢
      exact hpush
    · rw [hwaiting, waiting_notifying hpc]
      constructor
      · intro hin
        obtain ⟨m, hm, rfl⟩ := List.mem_map.mp hin
        rcases List.mem_append.mp ((push_sublist _ _ _).subset hm) with hm | hm
        · exact List.mem_map_of_mem hm
        · rw [List.mem_singleton.mp hm] at hlt
          omega
      · -- What the queue loses is no message whose event is stored.
        intro hin
        obtain ⟨m, hm, rfl⟩ := List.mem_map.mp hin
        have hm' : m ∈ s.notifier.queue ++ [message] := List.mem_append_left _ hm
        rw [← Bounded.evicted_append_push s.notifier.capacity] at hm'
        rcases List.mem_append.mp hm' with hlost | hm'
        · simp only [keepsHistory, hpc, Bool.false_or, Option.all_eq_true] at hok
          have hnot := hok m (Option.mem_toList.mp hlost)
          rw [hrecorded] at hnot
          cases hnot
        · exact List.mem_map_of_mem hm'
    · intro number event h
      cases h
      refine Or.inr ⟨rfl, ?_, ?_⟩
      · rw [acceptedNumbers_append, acceptedNumbers_refused, List.append_nil]
        intro hin
        have hlt := hT.inv.accepted _ hin
        omega
      · rw [hwaiting]
        exact List.mem_map_of_mem hlast
  | @redelivered message rest now hpc =>
    have hroom := hT.room
    rw [AlertsTask.pending, hpc, List.length_cons] at hroom
    refine ⟨hI, hT.bound, ?_, rows_of hT (fun _ h => h) rfl fun number hrecorded _ => ?_, fun number event h => ?_⟩
    · rw [pending_drainOn]
      change s.notifier.queue.length + rest.length ≤ capacity
      omega
    · have hne : number ≠ message.number := by
        rintro rfl
        simp [keepsHistory, hpc, hrecorded] at hok
      refine ⟨by simpa using hne, ?_⟩
      rw [AlertsTask.waiting, pending_drainOn, waiting_draining hpc]
      simp [hne]
    · cases rest <;> cases h
  | @requeued message rest now hpc =>
    have hroom := hT.room
    rw [AlertsTask.pending, hpc, List.length_cons] at hroom
    have hpush := push_of_told hT hpc
    refine ⟨hI, hT.bound, ?_, rows_of hT (fun _ h => h) rfl fun number _ _ => ⟨by simp, ?_⟩, fun number event h => ?_⟩
    · rw [pending_drainOn]
      change (Bounded.push s.notifier.capacity s.notifier.queue message).length + rest.length ≤ capacity
      rw [hpush, List.length_append, List.length_singleton]
      omega
    · rw [AlertsTask.waiting, pending_drainOn, waiting_draining hpc]
      change number ∈ (Bounded.push s.notifier.capacity s.notifier.queue message ++ rest).map (·.number) ↔ _
      rw [hpush, List.append_assoc, List.singleton_append]
    · cases rest <;> cases h
  | @stored number event event' fault pick db id hpc hid hrows hfree =>
    have hidle : s.pending = [] := by rw [AlertsTask.pending, hpc]
    have hnow : AlertsTask.waiting { s with db, pc := .select, source := s.source.insert id number } = s.waiting := by
      rw [waiting_idle hidle, waiting_idle]
      rfl
    refine ⟨hI, hT.bound, hle, fun row hrow n hsrc => ?_, fun _ _ h => by cases h⟩
    rw [HashMap.lookup_insert] at hsrc
    rcases List.mem_cons.mp (hrows.mem_iff.mp hrow) with rfl | hrow
    · cases hsrc.symm.trans (if_pos rfl)
      exact tells_of (hT.inserting _ _ hpc) List.not_mem_nil (by rw [hnow])
    · rw [if_neg (Table.get?_eq_none_iff.mp hfree row hrow)] at hsrc
      exact tells_of (hT.rows row hrow n hsrc) List.not_mem_nil (by rw [hnow])
  | notStored hpc =>
    have hidle : s.pending = [] := by rw [AlertsTask.pending, hpc]
    refine ⟨hI, hT.bound, hle, rows_of hT (fun _ h => h) rfl fun _ _ _ => ⟨List.not_mem_nil, ?_⟩, fun _ _ h => by cases h⟩
    rw [waiting_idle hidle, waiting_idle]
    rfl

end DeliveryAux

/-- In every run whose steps meet the condition, and in every state in which no drain is under way, the history tells the truth
about the delivery. -/
theorem history_truthful_when {queueCapacity capacity : Nat} {db : Db} {innerName : String} {s : AlertsTask}
    {log : List AlertsEvent} (hcapacity : 1 ≤ capacity)
    (h : Run (AlertsTask.step queueCapacity) (fun s a => keepsHistory s a = true) (AlertsTask.start db innerName capacity) s log)
    (hbetween : s.pending = []) : HistoryTruthful s log := by
  have hT : DeliveryAux.Told capacity s log := by
    refine h.invariant (I := DeliveryAux.Told capacity)
      ⟨DeliveryAux.inv_start db innerName capacity, rfl, Nat.zero_le _, fun _ _ _ hsrc => ?_, nofun⟩
      fun s s' log ev a hT hok hs => DeliveryAux.told_step hcapacity hT hok (alertsEffect_of_step hs)
    rw [AlertsTask.start, HashMap.lookup_empty] at hsrc
    cases hsrc
  intro row hrow number hsrc
  have htells := hT.rows row hrow number hsrc
  rw [DeliveryAux.Tells, DeliveryAux.waiting_idle hbetween] at htells
  rcases htells with ⟨htext, hacc, hnot⟩ | ⟨htext, hnot, hin⟩
  · simp [htext, hacc, hnot]
  · simp [htext, hin, hnot]

/-- The outage is told with the drain, and its event still says that it is queued. -/
theorem history_not_truthful :
    ¬∀ (queueCapacity capacity : Nat) (db : Db) (innerName : String) (s : AlertsTask) (log : List AlertsEvent), 1 ≤ capacity →
      Run (AlertsTask.step queueCapacity) (fun s a => always s a = true) (AlertsTask.start db innerName capacity) s log →
      s.pending = [] → HistoryTruthful s log := by
  intro h
  let x := after (AlertsTask.step 256) always (AlertsTask.start Db.empty "webhook" 64) outage
  have hr : Run (AlertsTask.step 256) (fun s a => always s a = true) (AlertsTask.start Db.empty "webhook" 64) x.1 x.2 :=
    run_after (by decide +kernel)
  let row : AlertEventRow := ⟨1, 1, "down", 100, "webhook", "queued for retry"⟩
  have htold := h _ _ _ _ x.1 x.2 (by decide) hr (by decide +kernel) row (by decide +kernel) 0 (by decide +kernel)
  have hqueued : (0 : Nat) ∈ x.1.notifier.queue.map (·.number) := htold.2.mp rfl
  have hempty : x.1.notifier.queue = [] := by decide +kernel
  rw [hempty] at hqueued
  cases hqueued

/-- Until the drain the history is true. -/
theorem history_truthful_so_far :
    ∃ s log, s.db.alertEvents.rows.length = 2 ∧ acceptedNumbers log = [1] ∧ HistoryTruthful s log := by
  let x := after (AlertsTask.step 256) keepsHistory (AlertsTask.start Db.empty "webhook" 64) (outage.take 9)
  have hr : Run (AlertsTask.step 256) (fun s a => keepsHistory s a = true) (AlertsTask.start Db.empty "webhook" 64) x.1 x.2 :=
    run_after (by decide +kernel)
  exact ⟨x.1, x.2, by decide +kernel, by decide +kernel, history_truthful_when (by decide) hr (by decide +kernel)⟩

end Monitra
