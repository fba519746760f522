import Mathlib.Tactic.SplitIfs
import Monitra.Library.Runs
import Monitra.Tui.App

/-!
# The selection of the dashboard

The selected index is moved by keys over a list that every snapshot replaces. While there are no monitors the index is left as it
is, so that it need not be in bounds; what is announced is then none, and the next snapshot with monitors brings it back.
-/

namespace Monitra

open Runs

/-- What the dashboard has sent to the data layer in a run, in order. -/
def announcements (trace : List (AppInput × List (Option UInt64))) : List (Option UInt64) := trace.flatMap (·.2)

/-- What is to hold of the selection after a run: it is within the monitors if there are any, and once a snapshot came the last
announcement is the id at the selected index, or none. Whatever comes next, no index leaves `Screen::ALL`. -/
structure SelectionKept (app : App) (trace : List (AppInput × List (Option UInt64))) : Prop where
  inside : app.snapshot.monitors ≠ [] → app.selected < app.snapshot.monitors.length
  announced : (∃ e ∈ trace, ∃ snapshot, e.1 = .snapshot snapshot) → (announcements trace).getLast? = some app.selectedId
  screens : ∀ input, (app.step input).isSome

namespace SelectionAux

/-- What a key does to the selection: it stays within the monitors, and a move of it is announced. -/
structure KeyMoves (app app' : App) (sent : List (Option UInt64)) : Prop where
  snapshot : app'.snapshot = app.snapshot
  inside : app.selected < app.snapshot.monitors.length → app'.selected < app.snapshot.monitors.length
  sent : app'.selected = app.selected ∧ sent = [] ∨ sent = [app'.selectedId]

variable {app app' : App} {sent : List (Option UInt64)}

/-- A key that changes other fields only. -/
theorem KeyMoves.still (hsnapshot : app'.snapshot = app.snapshot) (hselected : app'.selected = app.selected) :
    KeyMoves app app' [] :=
  ⟨hsnapshot, fun h => hselected ▸ h, Or.inl ⟨hselected, rfl⟩⟩

theorem keyMoves_selectNext (app : App) : KeyMoves app app.selectNext.1 app.selectNext.2 := by
  unfold App.selectNext
  split
  · refine ⟨rfl, fun hin => ?_, Or.inr rfl⟩
    dsimp only [App.announceSelection]
    omega
  · exact KeyMoves.still rfl rfl

theorem keyMoves_selectPrevious (app : App) : KeyMoves app app.selectPrevious.1 app.selectPrevious.2 := by
  refine ⟨rfl, fun hin => ?_, Or.inr rfl⟩
  dsimp only [App.selectPrevious, App.announceSelection]
  omega

/-- A key that returns, and moves the selection so. -/
def Moves (app : App) (result : Option (App × List (Option UInt64))) : Prop := ∃ x, result = some x ∧ KeyMoves app x.1 x.2

theorem moves_some {x : App × List (Option UInt64)} (h : KeyMoves app x.1 x.2) : Moves app (some x) := ⟨x, rfl, h⟩

/-- Another screen is a change of another field. -/
theorem moves_setScreen {i : Nat} (h : i < Screen.ALL.length) : Moves app (app.setScreen i) := by
  rw [App.setScreen, List.getElem?_eq_getElem h, Option.map_some]
  exact moves_some (KeyMoves.still rfl rfl)

theorem moves_onChar (app : App) (value : Char) : Moves app (app.onChar value) := by
  unfold App.onChar
  split_ifs with hquit hhelp hadd hdigit hdown hup
  · exact moves_some (KeyMoves.still rfl rfl)
  · exact moves_some (KeyMoves.still rfl rfl)
  · exact moves_some (KeyMoves.still rfl rfl)
  · refine moves_setScreen ?_
    have hlast : value.toNat ≤ '7'.toNat := hdigit.2
    have hlength : Screen.ALL.length = 7 := rfl
    have hone : '1'.toNat = 49 := rfl
    have hseven : '7'.toNat = 55 := rfl
    omega
  · exact moves_some (keyMoves_selectNext app)
  · exact moves_some (keyMoves_selectPrevious app)
  · exact moves_some (KeyMoves.still rfl rfl)

theorem moves_onViewKey (app : App) (code : KeyCode) : Moves app (app.onViewKey code) := by
  have hpos : 0 < Screen.ALL.length := by decide
  cases code with
  | char value => exact moves_onChar app value
  | tab | right | backTab | left => exact moves_setScreen (Nat.mod_lt _ hpos)
  | down => exact moves_some (keyMoves_selectNext app)
  | up => exact moves_some (keyMoves_selectPrevious app)
  | enter =>
    simp only [App.onViewKey]
    split
    · exact moves_some ⟨rfl, id, Or.inr rfl⟩
    · exact moves_some (KeyMoves.still rfl rfl)
  | esc | other => exact moves_some (KeyMoves.still rfl rfl)

/-- Every key returns, and moves the selection so or not at all. -/
theorem moves_onKey (app : App) (key : KeyEvent) : Moves app (app.onKey key) := by
  unfold App.onKey
  split_ifs with hinterrupt hoverlay hclose
  · exact moves_some (KeyMoves.still rfl rfl)
  · exact moves_some (KeyMoves.still rfl rfl)
  · exact moves_some (KeyMoves.still rfl rfl)
  · exact moves_onViewKey app key.code

/-- No index leaves the screens. -/
theorem isSome_step (app : App) (input : AppInput) : (app.step input).isSome := by
  cases input with
  | snapshot snapshot => rfl
  | key key =>
    obtain ⟨x, hx, -⟩ := moves_onKey app key
    rw [App.step, hx]
    rfl

/-- A snapshot brings the selection within its monitors and announces it. -/
theorem onSnapshot_spec {snapshot : DashboardSnapshot} (h : app.onSnapshot snapshot = (app', sent)) :
    (app'.snapshot.monitors ≠ [] → app'.selected < app'.snapshot.monitors.length) ∧ sent = [app'.selectedId] := by
  simp only [App.onSnapshot] at h
  split at h <;> cases h
  · refine ⟨fun hne => ?_, rfl⟩
    have hpos := List.length_pos_iff.mpr hne
    dsimp only at hpos ⊢
    omega
  · rename_i hwithin
    refine ⟨fun hne => ?_, rfl⟩
    rw [List.isEmpty_iff] at hwithin
    by_contra hge
    exact hwithin ⟨Nat.le_of_not_lt hge, hne⟩

/-! ## Runs -/

/-- What is kept along a run. Before the first snapshot there are no monitors, and what was announced, if anything, is none. -/
structure Inv (app : App) (trace : List (AppInput × List (Option UInt64))) : Prop where
  inside : app.snapshot.monitors ≠ [] → app.selected < app.snapshot.monitors.length
  last : announcements trace ≠ [] → (announcements trace).getLast? = some app.selectedId
  sent : (∃ e ∈ trace, ∃ snapshot, e.1 = .snapshot snapshot) → announcements trace ≠ []

theorem inv_new : Inv App.new [] := ⟨by simp [App.new], by simp [announcements], by simp⟩

theorem inv_step {trace ev : List (AppInput × List (Option UInt64))} {input : AppInput} (hI : Inv app trace)
    (h : traced App.step app input = some (app', ev)) : Inv app' (trace ++ ev) := by
  obtain ⟨sent, hstep, rfl⟩ := traced_eq_some h
  have hall : announcements (trace ++ [(input, sent)]) = announcements trace ++ sent := by
    simp [announcements]
  cases input with
  | snapshot snapshot =>
    obtain ⟨hinside, hsent⟩ := onSnapshot_spec (Option.some.inj hstep)
    have hne : announcements (trace ++ [(.snapshot snapshot, sent)]) ≠ [] := by
      rw [hall, hsent]
      simp
    refine ⟨hinside, fun _ => ?_, fun _ => hne⟩
    rw [hall, hsent, List.getLast?_append, List.getLast?_singleton, Option.some_or]
  | key key =>
    obtain ⟨x, hx, hmoves⟩ := moves_onKey app key
    cases hx.symm.trans hstep
    obtain ⟨hsnapshot, hinside, hsent⟩ : KeyMoves app app' sent := hmoves
    have hsame : (∃ e ∈ trace ++ [(AppInput.key key, sent)], ∃ snapshot, e.1 = .snapshot snapshot) →
        ∃ e ∈ trace, ∃ snapshot, e.1 = .snapshot snapshot := by
      rintro ⟨e, he, snapshot, hsnap⟩
      rcases List.mem_append.mp he with he | he
      · exact ⟨e, he, snapshot, hsnap⟩
      · rw [List.mem_singleton.mp he] at hsnap
        cases hsnap
    refine ⟨fun hne => ?_, fun hne => ?_, fun hsome => ?_⟩
    · rw [hsnapshot] at hne ⊢
      exact hinside (hI.inside hne)
    · rw [hall] at hne ⊢
      rcases hsent with ⟨hselected, rfl⟩ | rfl
      · rw [List.append_nil] at hne ⊢
        rw [hI.last hne, App.selectedId, App.selectedId, hsnapshot, hselected]
      · rw [List.getLast?_append, List.getLast?_singleton, Option.some_or]
    · rw [hall]
      exact fun hnil => hI.sent (hsame hsome) (List.append_eq_nil_iff.mp hnil).1

end SelectionAux

/-- After every run of keys and snapshots the selection is kept. -/
theorem selection_kept {app : App} {trace : List (AppInput × List (Option UInt64))}
    (h : Run (traced App.step) (fun _ _ => True) App.new app trace) : SelectionKept app trace := by
  have hI : SelectionAux.Inv app trace :=
    h.invariant SelectionAux.inv_new fun _ _ _ _ _ hI _ hstep => SelectionAux.inv_step hI hstep
  exact ⟨hI.inside, fun hsnapshot => hI.last (hI.sent hsnapshot), SelectionAux.isSome_step app⟩

/-- The last of two monitors is selected, both go, the selection moves up, and one comes back. -/
theorem selection_kept_shrunk :
    let monitor (id : UInt64) : Monitor := ⟨⟨id, 0⟩, "db", "db:5432", .tcp, 60, .up, none⟩
    let inputs : List AppInput := [.snapshot ⟨[monitor 1, monitor 2]⟩, .key ⟨.down, false⟩, .snapshot ⟨[]⟩,
      .key ⟨.up, false⟩, .key ⟨.char 'j', false⟩, .snapshot ⟨[monitor 7]⟩]
    let x := after (traced App.step) always App.new inputs
    SelectionKept x.1 x.2 ∧ announcements x.2 = [some 1, some 2, none, none, some 7] := by
  intro monitor inputs x
  have hrun : Run (traced App.step) (fun s a => always s a = true) App.new x.1 x.2 := run_after (by decide +kernel)
  exact ⟨selection_kept (hrun.mono fun _ _ _ => trivial), by decide +kernel⟩

end Monitra
