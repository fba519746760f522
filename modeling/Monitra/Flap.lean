import Monitra.Models

/-!
# Flap damping (`crates/engine/src/flap.rs`)

Two consecutive failures are needed to go down, one success to come up. The counters are `u32` and wrap, as they do in the
release profile, which leaves overflow checks off.
-/

namespace Monitra

def DOWN_THRESHOLD : UInt32 := 2
def UP_THRESHOLD : UInt32 := 1

/-- Per-monitor counters, reset whenever the observed outcome flips. -/
structure FlapState where
  consecutiveSuccess : UInt32
  consecutiveFailure : UInt32
  deriving DecidableEq, Repr

def FlapState.default : FlapState := ⟨0, 0⟩

/-- The counters after one outcome. -/
def FlapState.count (f : FlapState) (success : Bool) : FlapState :=
  if success then { consecutiveFailure := 0, consecutiveSuccess := f.consecutiveSuccess + 1 }
  else { consecutiveSuccess := 0, consecutiveFailure := f.consecutiveFailure + 1 }

/-- Record one outcome against the current status: the new counters, and the status this observation moves to, if any. -/
def FlapState.observe (f : FlapState) (success : Bool) (current : MonitorStatus) : FlapState × Option MonitorStatus :=
  let f := f.count success
  match success, current with
  | true, .up => (f, none)
  | true, _ => (f, if UP_THRESHOLD ≤ f.consecutiveSuccess then some .up else none)
  | false, .down => (f, none)
  | false, _ => (f, if DOWN_THRESHOLD ≤ f.consecutiveFailure then some .down else none)

end Monitra
