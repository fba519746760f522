import Mathlib.Data.List.Forall2

/-!
# Results

What a fallible computation that is made of others was made of: how the composites of `Except` (`bind`, `map`, `mapError`, `mapM`)
succeed and fail, by how their parts do. The proofs about a program in `Except` take its results apart with these and do not unfold
the monad.
-/

namespace Results

variable {α β γ ε ε' : Type}

/-! ## One after the other -/

/-- A computation that goes on with what another one gives. -/
theorem bind_eq_ok {r : Except ε α} {f : α → Except ε β} {y : β} (h : r >>= f = .ok y) : ∃ x, r = .ok x ∧ f x = .ok y := by
  cases r with
  | error e => cases h
  | ok x => exact ⟨x, rfl, h⟩

theorem bind_eq_error {r : Except ε α} {f : α → Except ε β} {e : ε} (h : r >>= f = .error e) :
    r = .error e ∨ ∃ x, r = .ok x ∧ f x = .error e := by
  cases r with
  | error e' =>
    cases h
    exact Or.inl rfl
  | ok x => exact Or.inr ⟨x, rfl, h⟩

/-- Two continuations that agree under a map give what agrees under it. -/
theorem bind_map_eq {r : Except ε α} {k k' : α → Except ε β} {f : β → γ} (h : ∀ a, (k a).map f = (k' a).map f) :
    (r >>= k).map f = (r >>= k').map f := by
  cases r with
  | error e => rfl
  | ok a => exact h a

/-! ## Of a result, another one -/

/-- A result with part of it taken comes from a result. -/
theorem map_eq_ok {f : α → β} {r : Except ε α} {y : β} (h : r.map f = .ok y) : ∃ x, r = .ok x ∧ f x = y := by
  cases r with
  | error e => cases h
  | ok x => exact ⟨x, rfl, Except.ok.inj h⟩

/-- Results that agree under a map: the same error, or values that do. -/
theorem map_eq_map {r : Except ε α} {r' : Except ε β} {f : α → γ} {g : β → γ} (h : r.map f = r'.map g) :
    (∃ e, r = .error e ∧ r' = .error e) ∨ ∃ x y, r = .ok x ∧ r' = .ok y ∧ f x = g y := by
  cases r with
  | error e =>
    cases r' with
    | error e' =>
      cases h
      exact Or.inl ⟨e, rfl, rfl⟩
    | ok y => cases h
  | ok x =>
    cases r' with
    | error e' => cases h
    | ok y => exact Or.inr ⟨x, y, rfl, rfl, Except.ok.inj h⟩

theorem mapError_eq_ok {r : Except ε α} {f : ε → ε'} {x : α} (h : r.mapError f = .ok x) : r = .ok x := by
  cases r with
  | error e => cases h
  | ok y => exact congrArg Except.ok (Except.ok.inj h)

theorem toOption_map (r : Except ε α) (g : α → β) : (r.map g).toOption = r.toOption.map g := by
  cases r <;> rfl

theorem ok_of_toOption {r : Except ε α} {x : α} (h : r.toOption = some x) : r = .ok x := by
  cases r with
  | error e => cases h
  | ok y => exact congrArg Except.ok (Option.some.inj h)

/-! ## Item by item -/

/-- A `mapM` that succeeds on every item gives what it makes of each. -/
theorem mapM_eq_ok {f : α → Except ε β} :
    ∀ {l : List α}, (∀ x ∈ l, ∃ y, f x = .ok y) → l.mapM f = .ok (l.filterMap fun x => (f x).toOption)
  | [], _ => rfl
  | x :: l, h => by
    obtain ⟨y, hy⟩ := h x List.mem_cons_self
    rw [List.mapM_cons, hy, mapM_eq_ok fun x' hx' => h x' (List.mem_cons_of_mem x hx'), List.filterMap_cons]
    simp [hy, Except.toOption, bind, Except.bind, pure, Except.pure]

/-- A successful `mapM` maps item by item. -/
theorem forall₂_of_mapM {f : α → Except ε β} :
    ∀ {l : List α} {l' : List β}, l.mapM f = .ok l' → List.Forall₂ (fun a b => f a = .ok b) l l'
  | [], l', h => by
    cases h
    exact .nil
  | a :: l, l', h => by
    rw [List.mapM_cons] at h
    cases ha : f a with
    | error e => simp [ha, bind, Except.bind] at h
    | ok b =>
      cases hl : l.mapM f with
      | error e => simp [ha, hl, bind, Except.bind] at h
      | ok bs =>
        simp only [ha, hl, bind, Except.bind, pure, Except.pure, Except.ok.injEq] at h
        subst h
        exact .cons ha (forall₂_of_mapM hl)

/-- A successful `mapM` maps every item. -/
theorem exists_of_mapM {f : α → Except ε β} {l : List α} {l' : List β} (h : l.mapM f = .ok l') {a : α}
    (ha : a ∈ l) : ∃ b ∈ l', f a = .ok b := by
  have hall := forall₂_of_mapM h
  clear h
  induction hall with
  | nil => cases ha
  | cons hb _ ih =>
    rcases List.mem_cons.mp ha with rfl | ha
    · exact ⟨_, List.mem_cons_self, hb⟩
    · obtain ⟨b, hin, hb⟩ := ih ha
      exact ⟨b, List.mem_cons_of_mem _ hin, hb⟩

end Results
