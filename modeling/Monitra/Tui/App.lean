import Mathlib.Data.List.Basic
import Monitra.Models

/-!
# View state and key handling (`crates/tui/src/app.rs`)

What the keys and the snapshots do to the state of the terminal dashboard. A function that indexes an array returns none where the
index is out of range, which is a panic. The second component of a result is what it sent to the data layer about the selected
monitor, in order. Of a snapshot the monitors are there, which is what the keys move over.
-/

namespace Monitra

inductive Screen where
  | fleet
  | monitor
  | agents
  | kubernetes
  | alerts
  | health
  | services
  deriving DecidableEq, Repr

def Screen.ALL : List Screen := [.fleet, .monitor, .agents, .kubernetes, .alerts, .health, .services]

/-- The keys that the dashboard tells apart. -/
inductive KeyCode where
  | char (value : Char)
  | tab
  | backTab
  | left
  | right
  | up
  | down
  | enter
  | esc
  | other
  deriving DecidableEq, Repr

structure KeyEvent where
  code : KeyCode
  control : Bool
  deriving DecidableEq, Repr

structure DashboardSnapshot where
  monitors : List Monitor
  deriving DecidableEq, Repr

structure App where
  screen : Screen
  selected : Nat
  showHelp : Bool
  showAdd : Bool
  shouldQuit : Bool
  snapshot : DashboardSnapshot
  deriving DecidableEq, Repr

namespace App

/-- `App::new`. -/
def new : App := ⟨.fleet, 0, false, false, false, ⟨[]⟩⟩

/-- The id at the selected index. -/
def selectedId (app : App) : Option UInt64 := app.snapshot.monitors[app.selected]?.map (·.id.val)

/-- `announce_selection`: the id goes to the data layer. -/
def announceSelection (app : App) : App × List (Option UInt64) := (app, [app.selectedId])

/-- A snapshot: the selection is moved to the last monitor if there are monitors and it is beyond them, and announced. -/
def onSnapshot (app : App) (snapshot : DashboardSnapshot) : App × List (Option UInt64) :=
  let app := { app with snapshot }
  if app.selected ≥ app.snapshot.monitors.length ∧ ¬app.snapshot.monitors.isEmpty then
    { app with selected := app.snapshot.monitors.length - 1 }.announceSelection
  else app.announceSelection

/-- `Screen::ALL.iter().position(..).unwrap_or(0)`. -/
def current (app : App) : Nat := (Screen.ALL.findIdx? fun screen => decide (screen = app.screen)).getD 0

/-- `self.screen = Screen::ALL[i]`. -/
def setScreen (app : App) (i : Nat) : Option (App × List (Option UInt64)) :=
  Screen.ALL[i]?.map fun screen => ({ app with screen }, [])

def nextScreen (app : App) : Option (App × List (Option UInt64)) := app.setScreen ((app.current + 1) % Screen.ALL.length)

def previousScreen (app : App) : Option (App × List (Option UInt64)) :=
  app.setScreen ((app.current + Screen.ALL.length - 1) % Screen.ALL.length)

/-- `Down`. -/
def selectNext (app : App) : App × List (Option UInt64) :=
  if app.snapshot.monitors.length > 0 then
    { app with selected := min (app.selected + 1) (app.snapshot.monitors.length - 1) }.announceSelection
  else (app, [])

/-- `Up`. -/
def selectPrevious (app : App) : App × List (Option UInt64) := { app with selected := app.selected - 1 }.announceSelection

/-- A character key while no overlay is shown. -/
def onChar (app : App) (value : Char) : Option (App × List (Option UInt64)) :=
  if value = 'q' then some ({ app with shouldQuit := true }, [])
  else if value = '?' then some ({ app with showHelp := true }, [])
  else if value = 'a' ∧ app.screen = .fleet then some ({ app with showAdd := true }, [])
  else if '1' ≤ value ∧ value ≤ '7' then app.setScreen (value.toNat - '1'.toNat)
  else if value = 'j' then some app.selectNext
  else if value = 'k' then some app.selectPrevious
  else some (app, [])

/-- A key while no overlay is shown. -/
def onViewKey (app : App) : KeyCode → Option (App × List (Option UInt64))
  | .char value => app.onChar value
  | .tab | .right => app.nextScreen
  | .backTab | .left => app.previousScreen
  | .down => some app.selectNext
  | .up => some app.selectPrevious
  | .enter => if app.screen = .fleet then some { app with screen := .monitor }.announceSelection else some (app, [])
  | .esc => some ({ app with screen := .fleet }, [])
  | .other => some (app, [])

/-- A key: Ctrl-C quits whatever is shown, an overlay takes every other key, and `Esc` and `q` close it. -/
def onKey (app : App) (key : KeyEvent) : Option (App × List (Option UInt64)) :=
  if key.code = .char 'c' ∧ key.control then some ({ app with shouldQuit := true }, [])
  else if app.showHelp ∨ app.showAdd then
    if key.code = .esc ∨ key.code = .char 'q' then some ({ app with showHelp := false, showAdd := false }, [])
    else some (app, [])
  else app.onViewKey key.code

end App

/-- What comes to the render loop. -/
inductive AppInput where
  | snapshot (snapshot : DashboardSnapshot)
  | key (key : KeyEvent)
  deriving DecidableEq, Repr

/-- A turn of the render loop with something that came. -/
def App.step (app : App) : AppInput → Option (App × List (Option UInt64))
  | .snapshot snapshot => some (app.onSnapshot snapshot)
  | .key key => app.onKey key

end Monitra
