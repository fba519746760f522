import Mathlib.Data.List.Basic

/-!
# Runs of a step system

A step system is a partial function from a state and an action to the next state and the events the step emits. An action
that is not enabled gives none. `Run ok s₀ s log` says that the system gets from `s₀` to `s` by steps that each meet the
condition `ok` on the state before the step and the action, and that `log` is what these steps emitted, in order.

Every statement about all runs is proved here once: an invariant holds along a run as soon as it holds at the start and every
step keeps it (`Run.invariant`). The actions of a run are chosen freely, so a run is any interleaving of the parties whose
actions the system has.
-/

namespace Runs

variable {σ α ε : Type*}

/-- A run: the states reached from `s₀` by enabled steps that meet `ok`, with the events emitted so far. -/
inductive Run (step : σ → α → Option (σ × List ε)) (ok : σ → α → Prop) (s₀ : σ) : σ → List ε → Prop where
  | nil : Run step ok s₀ s₀ []
  | snoc {s s' : σ} {log ev : List ε} {a : α} :
      Run step ok s₀ s log → ok s a → step s a = some (s', ev) → Run step ok s₀ s' (log ++ ev)

/-- The condition that every step meets. -/
def always (_ : σ) (_ : α) : Bool := true

section

variable {step : σ → α → Option (σ × List ε)} {ok : σ → α → Prop} {s₀ s₁ s s' : σ} {log log' ev : List ε} {a : α}

/-- One step is a run. -/
theorem Run.single (hok : ok s a) (hs : step s a = some (s', ev)) : Run step ok s s' ev := by
  have h : Run step ok s s' ([] ++ ev) := Run.snoc Run.nil hok hs
  simpa using h

/-- Runs compose. -/
theorem Run.trans (h : Run step ok s₀ s₁ log) (h' : Run step ok s₁ s log') : Run step ok s₀ s (log ++ log') := by
  induction h' with
  | nil => simpa using h
  | snoc _ hok hs ih =>
    rw [← List.append_assoc]
    exact Run.snoc ih hok hs

/-- A run whose steps meet a condition is one whose steps meet a weaker one. -/
theorem Run.mono {ok' : σ → α → Prop} (h : Run step ok s₀ s log) (himp : ∀ s a, ok s a → ok' s a) : Run step ok' s₀ s log := by
  induction h with
  | nil => exact Run.nil
  | snoc _ hok hs ih => exact Run.snoc ih (himp _ _ hok) hs

/-- The invariant rule: what holds at the start, with nothing emitted, and is kept by every step that meets the condition,
holds along the whole run. The invariant may speak of the events emitted so far. -/
theorem Run.invariant {I : σ → List ε → Prop} (h : Run step ok s₀ s log) (h0 : I s₀ [])
    (hstep : ∀ s s' log ev a, I s log → ok s a → step s a = some (s', ev) → I s' (log ++ ev)) : I s log := by
  induction h with
  | nil => exact h0
  | snoc _ hok hs ih => exact hstep _ _ _ _ _ ih hok hs

/-- The invariant rule for an invariant of the states alone. -/
theorem Run.stateInvariant {I : σ → Prop} (h : Run step ok s₀ s log) (h0 : I s₀)
    (hstep : ∀ s s' ev a, I s → ok s a → step s a = some (s', ev) → I s') : I s :=
  h.invariant (I := fun s _ => I s) h0 fun s s' _ ev a hI hok hs => hstep s s' ev a hI hok hs

/-- The rule for steps that can be left out: when every step either keeps all its events or leaves the state and loses them all,
the steps that keep theirs are a run to the same state. -/
theorem Run.filter {keep : ε → Bool} (h : Run step ok s₀ s log)
    (hstep : ∀ s s' ev a, step s a = some (s', ev) → ev.filter keep = ev ∨ s' = s ∧ ev.filter keep = []) :
    Run step ok s₀ s (log.filter keep) := by
  induction h with
  | nil => exact .nil
  | snoc _ hok hs ih =>
    rw [List.filter_append]
    rcases hstep _ _ _ _ hs with hkeep | ⟨rfl, hnone⟩
    · rw [hkeep]
      exact .snoc ih hok hs
    · rw [hnone, List.append_nil]
      exact ih

/-- The rule for a run of so many turns: what holds before the first turn, and after one more whenever it held, holds after all of
them. It may speak of the turns and of the events emitted so far. -/
theorem exists_run_turns {P : Nat → σ → List ε → Prop} {count : Nat} (h0 : P 0 s₀ [])
    (hturn : ∀ n < count, ∀ s log, P n s log → ∃ s' ev, Run step ok s s' ev ∧ P (n + 1) s' (log ++ ev)) :
    ∃ s log, Run step ok s₀ s log ∧ P count s log := by
  induction count with
  | zero => exact ⟨s₀, [], Run.nil, h0⟩
  | succ count ih =>
    obtain ⟨s, log, hrun, hP⟩ := ih fun n hn => hturn n (Nat.lt_succ_of_lt hn)
    obtain ⟨s', ev, hrun', hP'⟩ := hturn count (Nat.lt_succ_self count) s log hP
    exact ⟨s', log ++ ev, hrun.trans hrun', hP'⟩

end

/-! ## Executing a list of actions -/

/-- The actions of a list, one after the other. None as soon as one is not enabled or does not meet the condition. -/
def exec (step : σ → α → Option (σ × List ε)) (ok : σ → α → Bool) : σ → List α → Option (σ × List ε)
  | s, [] => some (s, [])
  | s, a :: as =>
    if ok s a then
      match step s a with
      | none => none
      | some (s₁, e₁) => (exec step ok s₁ as).map fun x => (x.1, e₁ ++ x.2)
    else none

/-- An action that executes, and then the rest. -/
theorem exec_cons {step : σ → α → Option (σ × List ε)} {ok : σ → α → Bool} {s s₁ s' : σ} {a : α} {as : List α} {ev log : List ε}
    (hok : ok s a = true) (hs : step s a = some (s₁, ev)) (h : exec step ok s₁ as = some (s', log)) :
    exec step ok s (a :: as) = some (s', ev ++ log) := by
  simp [exec, hok, hs, h]

/-- What a list of actions executes to is a run. -/
theorem run_of_exec {step : σ → α → Option (σ × List ε)} {ok : σ → α → Bool} :
    ∀ {as : List α} {s s' : σ} {log : List ε}, exec step ok s as = some (s', log) →
      Run step (fun s a => ok s a = true) s s' log
  | [], s, s', log, h => by
    simp only [exec, Option.some.injEq, Prod.mk.injEq] at h
    obtain ⟨rfl, rfl⟩ := h
    exact Run.nil
  | a :: as, s, s', log, h => by
    simp only [exec] at h
    split at h
    · rename_i hok
      split at h
      · cases h
      · rename_i s₁ e₁ h₁
        obtain ⟨⟨s₂, e₂⟩, h₂, he⟩ := Option.map_eq_some_iff.mp h
        simp only [Prod.mk.injEq] at he
        obtain ⟨rfl, rfl⟩ := he
        have hfirst : Run step (fun s a => ok s a = true) s s₁ e₁ := Run.single hok h₁
        exact hfirst.trans (run_of_exec h₂)
    · cases h

/-- The state and the events that a list of actions executes to; the state it started from if it does not. -/
def after (step : σ → α → Option (σ × List ε)) (ok : σ → α → Bool) (s : σ) (as : List α) : σ × List ε :=
  (exec step ok s as).getD (s, [])

/-- The run of a list of actions that executes. -/
theorem run_after {step : σ → α → Option (σ × List ε)} {ok : σ → α → Bool} {s : σ} {as : List α}
    (h : (exec step ok s as).isSome) :
    Run step (fun s a => ok s a = true) s (after step ok s as).1 (after step ok s as).2 := by
  obtain ⟨x, hx⟩ := Option.isSome_iff_exists.mp h
  have hexec : exec step ok s as = some (after step ok s as) := by
    rw [after, hx, Option.getD_some]
  exact run_of_exec hexec

/-- The step of one action that executes. -/
theorem step_after (step : σ → α → Option (σ × List ε)) (ok : σ → α → Bool) (s : σ) (a : α)
    (h : (exec step ok s [a]).isSome) :
    ok s a = true ∧ step s a = some ((after step ok s [a]).1, (after step ok s [a]).2) := by
  obtain ⟨x, hx⟩ := Option.isSome_iff_exists.mp h
  simp only [after, hx, Option.getD_some]
  simp only [exec] at hx
  split at hx
  · rename_i hok
    split at hx
    · cases hx
    · rename_i s₁ e₁ h₁
      cases hx
      exact ⟨hok, by simp [h₁]⟩
  · cases hx

/-! ## Steps that tell their action -/

/-- The same steps, each telling as its one event the action it was and what it emitted. -/
def traced (step : σ → α → Option (σ × List ε)) (s : σ) (a : α) : Option (σ × List (α × List ε)) :=
  (step s a).map fun x => (x.1, [(a, x.2)])

/-- What a traced step tells. -/
theorem traced_eq_some {step : σ → α → Option (σ × List ε)} {s s' : σ} {a : α} {tr : List (α × List ε)}
    (h : traced step s a = some (s', tr)) : ∃ ev, step s a = some (s', ev) ∧ tr = [(a, ev)] := by
  obtain ⟨⟨s₁, ev⟩, hs, he⟩ := Option.map_eq_some_iff.mp h
  cases he
  exact ⟨ev, hs, rfl⟩

/-! ## Auxiliary state -/

/-- The same steps with a state beside that follows them and that they do not look at. -/
def beside {η : Type*} (step : σ → α → Option (σ × List ε)) (follow : σ → η → α → η) (x : σ × η) (a : α) :
    Option ((σ × η) × List ε) :=
  (step x.1 a).map fun y => ((y.1, follow x.1 x.2 a), y.2)

/-- What such a step does. -/
theorem beside_eq_some {η : Type*} {step : σ → α → Option (σ × List ε)} {follow : σ → η → α → η} {x x' : σ × η} {a : α}
    {ev : List ε} (h : beside step follow x a = some (x', ev)) :
    step x.1 a = some (x'.1, ev) ∧ x'.2 = follow x.1 x.2 a := by
  obtain ⟨⟨s₁, ev₁⟩, hs, he⟩ := Option.map_eq_some_iff.mp h
  cases he
  exact ⟨hs, rfl⟩

/-! ## What a part of the system sees -/

/-- The same steps, each telling what is seen of it. -/
def seeing {ω : Type*} (step : σ → α → Option (σ × List ε)) (see : σ → α → Option ω) (s : σ) (a : α) :
    Option (σ × List ω) :=
  (step s a).map fun x => (x.1, (see s a).toList)

/-- What such a step does. -/
theorem seeing_eq_some {ω : Type*} {step : σ → α → Option (σ × List ε)} {see : σ → α → Option ω} {s s' : σ} {a : α}
    {seen : List ω} (h : seeing step see s a = some (s', seen)) :
    ∃ ev, step s a = some (s', ev) ∧ seen = (see s a).toList := by
  obtain ⟨⟨s₁, ev⟩, hs, he⟩ := Option.map_eq_some_iff.mp h
  cases he
  exact ⟨ev, hs, rfl⟩

section

variable {ω ν : Type*} {step : σ → α → Option (σ × List ω)} {ok : σ → α → Prop} {s₀ s t : σ} {seen : List ω} {I : σ → Prop}

/-- The rule for a view of the state that what is seen of the steps determines: what is not seen of a step leaves it, and what
is seen changes it by itself. The view of a state reached is the first one with all that was seen applied to it. -/
theorem Run.view_eq (h : Run step ok s₀ s seen) (view : σ → ν) (apply : ν → ω → ν) (h0 : I s₀)
    (hI : ∀ s s' ev a, I s → ok s a → step s a = some (s', ev) → I s')
    (hview : ∀ s s' ev a, I s → ok s a → step s a = some (s', ev) → view s' = ev.foldl apply (view s)) :
    view s = seen.foldl apply (view s₀) := by
  have hboth : I s ∧ view s = seen.foldl apply (view s₀) := by
    refine h.invariant (I := fun s seen => I s ∧ view s = seen.foldl apply (view s₀)) ⟨h0, rfl⟩ ?_
    intro s s' seen ev a hs hok hstep
    refine ⟨hI s s' ev a hs.1 hok hstep, ?_⟩
    rw [List.foldl_append, ← hs.2]
    exact hview s s' ev a hs.1 hok hstep
  exact hboth.2

/-- Two runs of which the same is seen end with the same view. -/
theorem Run.view_eq_view (h : Run step ok s₀ s seen) (h' : Run step ok s₀ t seen) (view : σ → ν) (apply : ν → ω → ν)
    (h0 : I s₀)
    (hI : ∀ s s' ev a, I s → ok s a → step s a = some (s', ev) → I s')
    (hview : ∀ s s' ev a, I s → ok s a → step s a = some (s', ev) → view s' = ev.foldl apply (view s)) : view s = view t := by
  rw [h.view_eq view apply h0 hI hview, h'.view_eq view apply h0 hI hview]

end

/-! ## Two runs of the same actions -/

/-- The same action in two states, with what each of the steps emits. -/
def both (step : σ → α → Option (σ × List ε)) (x : σ × σ) (a : α) : Option ((σ × σ) × List (List ε × List ε)) :=
  (step x.1 a).bind fun y => (step x.2 a).map fun z => ((y.1, z.1), [(y.2, z.2)])

/-- What such a step does. -/
theorem both_eq_some {step : σ → α → Option (σ × List ε)} {x x' : σ × σ} {a : α} {evs : List (List ε × List ε)}
    (h : both step x a = some (x', evs)) :
    ∃ ev ev', step x.1 a = some (x'.1, ev) ∧ step x.2 a = some (x'.2, ev') ∧ evs = [(ev, ev')] := by
  obtain ⟨⟨s₁, ev⟩, hs, h⟩ := Option.bind_eq_some_iff.mp h
  obtain ⟨⟨t₁, ev'⟩, ht, he⟩ := Option.map_eq_some_iff.mp h
  cases he
  exact ⟨ev, ev', hs, ht, rfl⟩

end Runs
