import Monitra.Library.Runs
import Monitra.Tui.Data

/-!
# Whether the live feed comes back

A tick of the interval is never further away than `POLL_INTERVAL`, and each `select!` starts the retry delay anew. So the delay,
which is longer, elapses only where the loop is late for a tick by at least the difference.
-/

namespace Monitra

open Runs

/-- From a state some run reaches a reconnect attempt. -/
def PollLoop.CanReconnect (late : Nat) (s : PollLoop) : Prop :=
  ∃ s' log, Run (PollLoop.step late) (fun s a => always s a = true) s s' log ∧ .reconnect ∈ log

namespace FeedAux

variable {late : Nat} {s s' : PollLoop} {ev log : List PollEvent}

/-- What a step does to the two timers: time passes, the retry delay starts, a tick wins, the delay elapses, or none of these. -/
inductive TimerStep (late : Nat) (s : PollLoop) : PollLoop → List PollEvent → Prop where
  | passed {d : Nat} (hpass : s.mayPass late d = true) : TimerStep late s { s with now := s.now + d } []
  | slept (hpoint : s.point = .selecting .created) (htick : s.now < s.nextTick) :
      TimerStep late s { s with point := .selecting (.sleeping (s.now + WS_RETRY_DELAY)) } []
  | ticked (htick : s.nextTick ≤ s.now) :
      TimerStep late s { s with nextTick := s.nextTick + POLL_INTERVAL, point := .fetching } []
  | elapsed {wake : Nat} (hpoint : s.point = .selecting (.sleeping wake)) (hwake : wake ≤ s.now) :
      TimerStep late s { s with point := .selecting .connecting } [.reconnect]
  | other {stream : Bool} {point : PollPoint} {ev : List PollEvent} (hpoint : ∀ wake, point ≠ .selecting (.sleeping wake))
      (hev : .reconnect ∉ ev) :
      TimerStep late s { s with stream, point } ev

theorem timerStep_of_step {a : PollAction} (h : s.step late a = some (s', ev)) : TimerStep late s s' ev := by
  cases a with
  | advance d =>
    simp only [PollLoop.step] at h
    split at h
    · rename_i hpass
      cases h
      exact .passed hpass
    · cases h
  | polled =>
    simp only [PollLoop.step, PollLoop.waitForEvent] at h
    split at h
    · rename_i hpoint
      cases h
      split
      · exact .other nofun nofun
      · exact .slept hpoint.1 hpoint.2
    · cases h
  | tick =>
    simp only [PollLoop.step] at h
    split at h
    · split at h
      · rename_i htick
        cases h
        exact .ticked htick
      · cases h
    · cases h
  | next message =>
    simp only [PollLoop.step] at h
    split at h
    · split at h
      · cases h
        exact .other nofun nofun
      · cases h
    · split at h
      · cases h
        exact .other nofun nofun
      · cases h
    · cases h
  | elapsed =>
    simp only [PollLoop.step] at h
    split at h
    · rename_i hpoint
      split at h
      · rename_i hwake
        cases h
        exact .elapsed hpoint hwake
      · cases h
    · cases h
  | started ok | connected ok | fetched =>
    simp only [PollLoop.step] at h
    split at h
    · cases h
      exact .other nofun (by simp)
    · cases h

/-! ### The tick comes first -/

/-- The next tick is at most an interval away, and a wait that sleeps wakes after it by what the delay is longer. -/
structure Inv (late : Nat) (s : PollLoop) : Prop where
  tick : s.nextTick ≤ s.now + POLL_INTERVAL
  sleeping : ∀ wake, s.point = .selecting (.sleeping wake) →
    s.nextTick + WS_RETRY_DELAY ≤ wake + POLL_INTERVAL ∧ s.now ≤ s.nextTick + late

theorem inv_start (late now : Nat) : Inv late (PollLoop.start now) := ⟨Nat.le_add_right now POLL_INTERVAL, nofun⟩

theorem inv_of_step (hI : Inv late s) (h : TimerStep late s s' ev) : Inv late s' := by
  have htick := hI.tick
  cases h with
  | @passed d hpass =>
    refine ⟨?_, fun wake hpoint => ⟨(hI.sleeping wake hpoint).1, ?_⟩⟩
    · dsimp only
      omega
    · dsimp only at hpoint ⊢
      simp only [PollLoop.mayPass, hpoint, decide_eq_true_eq] at hpass
      omega
  | slept _ hdue =>
    refine ⟨htick, fun wake hpoint => ?_⟩
    cases hpoint
    dsimp only
    omega
  | ticked hdue =>
    refine ⟨?_, nofun⟩
    dsimp only
    omega
  | elapsed => exact ⟨htick, nofun⟩
  | other hpoint _ => exact ⟨htick, fun wake hwake => absurd hwake (hpoint wake)⟩

theorem inv_of_run {now : Nat} (hrun : Run (PollLoop.step late) (fun s a => always s a = true) (PollLoop.start now) s log) :
    Inv late s :=
  hrun.stateInvariant (inv_start late now) fun _ _ _ _ hI _ hstep => inv_of_step hI (timerStep_of_step hstep)

/-- A loop that is not late by the difference never tries to reconnect. -/
theorem not_reconnect (hlate : POLL_INTERVAL + late < WS_RETRY_DELAY) (hI : Inv late s) : ¬s.CanReconnect late := by
  rintro ⟨s', log, hrun, hmem⟩
  have hnever : Inv late s' ∧ .reconnect ∉ log := by
    refine hrun.invariant (I := fun s log => Inv late s ∧ .reconnect ∉ log) ⟨hI, nofun⟩ ?_
    intro s s' log ev a ⟨hI, hlog⟩ _ hstep
    have htimer := timerStep_of_step hstep
    refine ⟨inv_of_step hI htimer, ?_⟩
    rw [List.mem_append, not_or]
    refine ⟨hlog, ?_⟩
    cases htimer with
    | passed | slept | ticked => exact nofun
    | elapsed hpoint hwake =>
      have hsleeping := hI.sleeping _ hpoint
      omega
    | other _ hev => exact hev
  exact hnever.2 hmem

/-! ### Where the loop is late -/

/-- Some run gets from a state to another. -/
def Reaches (late : Nat) (s s' : PollLoop) : Prop :=
  ∃ log, Run (PollLoop.step late) (fun s a => always s a = true) s s' log

theorem Reaches.trans {s₁ : PollLoop} (h : Reaches late s s₁) (h' : Reaches late s₁ s') : Reaches late s s' := by
  obtain ⟨log, hrun⟩ := h
  obtain ⟨log', hrun'⟩ := h'
  exact ⟨log ++ log', hrun.trans hrun'⟩

section

variable {now nextTick d : Nat} {wait : WaitForEvent}

theorem reaches_selecting : Reaches late ⟨now, nextTick, false, .fetching⟩ ⟨now, nextTick, false, .selecting .created⟩ :=
  ⟨[.snapshot], Run.single (a := .fetched) rfl rfl⟩

/-- A disconnected loop whose tick is still to come sleeps. -/
theorem reaches_sleeping (htick : now < nextTick) : Reaches late ⟨now, nextTick, false, .selecting .created⟩
    ⟨now, nextTick, false, .selecting (.sleeping (now + WS_RETRY_DELAY))⟩ :=
  ⟨[], Run.single (a := .polled) rfl (by simp [PollLoop.step, PollLoop.waitForEvent, htick])⟩

theorem reaches_advance (hpass : PollLoop.mayPass late ⟨now, nextTick, false, .selecting wait⟩ d = true) :
    Reaches late ⟨now, nextTick, false, .selecting wait⟩ ⟨now + d, nextTick, false, .selecting wait⟩ :=
  ⟨[], Run.single (a := .advance d) rfl (by simp only [PollLoop.step, hpass, if_true])⟩

/-- A tick that is due wins. -/
theorem reaches_fetching (hdue : nextTick ≤ now) :
    Reaches late ⟨now, nextTick, false, .selecting wait⟩ ⟨now, nextTick + POLL_INTERVAL, false, .fetching⟩ :=
  ⟨[], Run.single (a := .tick) rfl (by simp only [PollLoop.step, hdue, if_true])⟩

/-- A loop in which time may pass until the next tick gets there. -/
theorem reaches_tick (hnow : now ≤ nextTick)
    (hpass : PollLoop.mayPass late ⟨now, nextTick, false, .selecting wait⟩ (nextTick - now) = true) :
    Reaches late ⟨now, nextTick, false, .selecting wait⟩ ⟨nextTick, nextTick + POLL_INTERVAL, false, .fetching⟩ := by
  have hadvance : Reaches late ⟨now, nextTick, false, .selecting wait⟩ ⟨now + (nextTick - now), nextTick, false, .selecting wait⟩ :=
    reaches_advance hpass
  rw [Nat.add_sub_cancel' hnow] at hadvance
  exact hadvance.trans (reaches_fetching (Nat.le_refl _))

/-- A disconnected loop that enters `select!` before its next tick gets there. -/
theorem reaches_tick_of_created (hlt : now < nextTick) (hle : nextTick ≤ now + POLL_INTERVAL) :
    Reaches late ⟨now, nextTick, false, .selecting .created⟩ ⟨nextTick, nextTick + POLL_INTERVAL, false, .fetching⟩ := by
  have hwake : nextTick ≤ now + WS_RETRY_DELAY := Nat.le_trans hle (Nat.add_le_add_left (by decide) now)
  refine (reaches_sleeping hlt).trans (reaches_tick (Nat.le_of_lt hlt) ?_)
  simp only [PollLoop.mayPass, decide_eq_true_eq]
  omega

/-- From a fetch of a disconnected loop to one that a tick has just started: the ticks that were missed follow one after the other,
and then the loop sleeps until the next. -/
theorem reaches_next_tick (late now nextTick : Nat) (hle : nextTick ≤ now + POLL_INTERVAL) :
    ∃ now', Reaches late ⟨now, nextTick, false, .fetching⟩ ⟨now', now' + POLL_INTERVAL, false, .fetching⟩ := by
  by_cases hdue : nextTick ≤ now
  · obtain ⟨now', h⟩ := reaches_next_tick late now (nextTick + POLL_INTERVAL) (Nat.add_le_add_right hdue _)
    exact ⟨now', (reaches_selecting.trans (reaches_fetching hdue)).trans h⟩
  · exact ⟨nextTick, reaches_selecting.trans (reaches_tick_of_created (Nat.lt_of_not_le hdue) hle)⟩
termination_by now + 1 - nextTick
decreasing_by
  unfold POLL_INTERVAL
  omega

end

/-- A disconnected loop gets to a fetch. -/
theorem reaches_fetch (hI : Inv late s) (hdisconnected : s.Disconnected) :
    ∃ now nextTick, nextTick ≤ now + POLL_INTERVAL ∧ Reaches late s ⟨now, nextTick, false, .fetching⟩ := by
  obtain ⟨now, nextTick, stream, point⟩ := s
  obtain ⟨rfl, hpoint⟩ : stream = false ∧ point ≠ .starting := hdisconnected
  have htick : nextTick ≤ now + POLL_INTERVAL := hI.tick
  cases point with
  | starting => exact absurd rfl hpoint
  | fetching => exact ⟨now, nextTick, htick, [], Run.nil⟩
  | selecting wait =>
    by_cases hdue : nextTick ≤ now
    · exact ⟨now, _, Nat.add_le_add_right hdue _, reaches_fetching hdue⟩
    · have hlt : now < nextTick := Nat.lt_of_not_le hdue
      refine ⟨nextTick, nextTick + POLL_INTERVAL, Nat.le_refl _, ?_⟩
      cases wait with
      | created => exact reaches_tick_of_created hlt htick
      | reading | connecting =>
        refine reaches_tick (Nat.le_of_lt hlt) ?_
        simp only [PollLoop.mayPass, decide_eq_true_eq]
        omega
      | sleeping wake =>
        have hwake : nextTick + WS_RETRY_DELAY ≤ wake + POLL_INTERVAL := (hI.sleeping wake rfl).1
        unfold WS_RETRY_DELAY POLL_INTERVAL at hwake
        refine reaches_tick (Nat.le_of_lt hlt) ?_
        simp only [PollLoop.mayPass, decide_eq_true_eq]
        omega

/-- A loop that may be late by the difference reconnects: after a fetch that took no time it sleeps past the tick. -/
theorem canReconnect (hlate : WS_RETRY_DELAY ≤ POLL_INTERVAL + late) (hI : Inv late s) (hdisconnected : s.Disconnected) :
    s.CanReconnect late := by
  obtain ⟨now, nextTick, hle, hfetch⟩ := reaches_fetch hI hdisconnected
  obtain ⟨now', htick⟩ := reaches_next_tick late now nextTick hle
  have hlt : now' < now' + POLL_INTERVAL := Nat.lt_add_of_pos_right (by decide)
  have hpass : PollLoop.mayPass late ⟨now', now' + POLL_INTERVAL, false, .selecting (.sleeping (now' + WS_RETRY_DELAY))⟩
      WS_RETRY_DELAY = true := by
    simp only [PollLoop.mayPass, decide_eq_true_eq]
    omega
  obtain ⟨log, hrun⟩ := (hfetch.trans htick).trans ((reaches_selecting.trans (reaches_sleeping hlt)).trans (reaches_advance hpass))
  have helapsed : PollLoop.step late
      ⟨now' + WS_RETRY_DELAY, now' + POLL_INTERVAL, false, .selecting (.sleeping (now' + WS_RETRY_DELAY))⟩ .elapsed =
      some (⟨now' + WS_RETRY_DELAY, now' + POLL_INTERVAL, false, .selecting .connecting⟩, [.reconnect]) := by
    simp only [PollLoop.step, Nat.le_refl, if_true]
  exact ⟨_, _, hrun.snoc rfl helapsed, by simp⟩

end FeedAux

open FeedAux in
/-- From a state that the loop reaches and in which the feed has no connection, a run reaches a reconnect attempt exactly when the
runtime may be late for a tick by what the retry delay is longer than the interval. On time the loop never leaves such a state. -/
theorem can_reconnect_iff {late now : Nat} {s : PollLoop} {log : List PollEvent}
    (hrun : Run (PollLoop.step late) (fun s a => always s a = true) (PollLoop.start now) s log) (hdisconnected : s.Disconnected) :
    s.CanReconnect late ↔ WS_RETRY_DELAY ≤ POLL_INTERVAL + late := by
  refine ⟨fun hcan => ?_, fun hlate => canReconnect hlate (inv_of_run hrun) hdisconnected⟩
  by_contra hlate
  exact not_reconnect (Nat.lt_of_not_le hlate) (inv_of_run hrun) hcan

/-- A loop on time whose connection could not be made at the start. -/
theorem can_reconnect_unconnected :
    let x := after (PollLoop.step 0) always (PollLoop.start 0) [.started false, .tick, .fetched, .polled]
    x.1.CanReconnect 0 ↔ WS_RETRY_DELAY ≤ POLL_INTERVAL + 0 := by
  intro x
  have hrun : Run (PollLoop.step 0) (fun s a => always s a = true) (PollLoop.start 0) x.1 x.2 := run_after (by decide +kernel)
  exact can_reconnect_iff hrun (by decide +kernel)

open FeedAux in
/-- On time, a connection that is closed after a second is the last one. -/
theorem closed_feed_stays_closed :
    let x := after (PollLoop.step 0) always (PollLoop.start 0)
      [.started true, .tick, .fetched, .polled, .advance 1000000000, .next false]
    x.1.Disconnected ∧ ¬x.1.CanReconnect 0 := by
  intro x
  have hrun : Run (PollLoop.step 0) (fun s a => always s a = true) (PollLoop.start 0) x.1 x.2 := run_after (by decide +kernel)
  exact ⟨by decide +kernel, not_reconnect (by decide) (inv_of_run hrun)⟩

end Monitra
