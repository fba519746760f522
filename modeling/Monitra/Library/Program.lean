import Mathlib

/-!
# Programs with a state and errors

A program runs on a state, which it leaves changed whether it returns or fails. Its rules are those of the triples of `Std.Do`; added
here is what a triple says of a run.
-/

open Std.Do

/-- A program that fails with an error of `ε`. What it did to the state until then stays done. -/
abbrev Program (ε σ α : Type) : Type := ExceptT ε (StateM σ) α

namespace Program

variable {ε σ α β : Type}

/-- What a program returns or fails with, and the state it leaves. -/
def exec (c : Program ε σ α) (s : σ) : Except ε α × σ := (c.run).run s

/-- A result that is there already. -/
def ofExcept (r : Except ε α) : Program ε σ α :=
  match r with
  | .ok v => pure v
  | .error e => throw e

@[simp] theorem exec_pure (v : α) (s : σ) : (pure v : Program ε σ α).exec s = (.ok v, s) := rfl

@[simp] theorem exec_throw (e : ε) (s : σ) : (throw e : Program ε σ α).exec s = (.error e, s) := rfl

@[simp] theorem exec_ofExcept (r : Except ε α) (s : σ) : (ofExcept r : Program ε σ α).exec s = (r, s) := by
  cases r <;> rfl

/-- One program after the other. -/
theorem exec_bind (c : Program ε σ α) (f : α → Program ε σ β) (s : σ) :
    (c >>= f).exec s = match c.exec s with
      | (.ok a, s') => (f a).exec s'
      | (.error e, s') => (.error e, s') := by
  change (ExceptT.bindCont f (c.exec s).1 : StateM σ _) (c.exec s).2 = _
  generalize c.exec s = x
  obtain ⟨r, s'⟩ := x
  cases r <;> rfl

set_option mvcgen.warning false in
@[spec] theorem ofExcept_spec {r : Except ε α} {s₀ : σ} :
    ⦃fun s => ⌜s = s₀⌝⦄ (ofExcept r : Program ε σ α)
    ⦃post⟨fun v s => ⌜s = s₀ ∧ r = .ok v⌝, fun e s => ⌜s = s₀ ∧ r = .error e⌝⟩⦄ := by
  mvcgen [ofExcept]

/-- What a triple says of a run. -/
theorem of_triple {c : Program ε σ α} {P : σ → Prop} {Q : α → σ → Prop} {E : ε → σ → Prop}
    (h : ⦃fun s => ⌜P s⌝⦄ c ⦃post⟨fun v s => ⌜Q v s⌝, fun e s => ⌜E e s⌝⟩⦄) {s : σ} (hs : P s) :
    match c.exec s with
    | (.ok v, s') => Q v s'
    | (.error e, s') => E e s' := by
  have hrun := h s hs
  simp only [WP.wp, PredTrans.apply_pushExcept, PredTrans.apply_pushArg, PredTrans.apply_Pure_pure, Id.run] at hrun
  unfold exec
  generalize (c.run).run s = x at hrun ⊢
  obtain ⟨r, s'⟩ := x
  cases r <;> exact hrun

end Program
