import Monitra.Library.HashMap
import Monitra.Storage.Codec

/-!
# The caches (`crates/provider/src/cache.rs`, `policy.rs`)

The in-process cache is a map, and never fails. The degrading cache asks the cache that is configured, if there is one, until a
call of it fails; from then on it keeps to the in-process cache. What the configured cache answers is an argument of a call.
-/

namespace Monitra

/-! ## The in-process cache -/

structure InProcessCache where
  entries : HashMap String String

namespace InProcessCache

def new : InProcessCache := ⟨∅⟩

def get (c : InProcessCache) (key : String) : Except ProviderError (Option String) := .ok (c.entries.lookup key)

def set (c : InProcessCache) (key value : String) : InProcessCache × Except ProviderError Unit :=
  (⟨c.entries.insert key value⟩, .ok ())

end InProcessCache

/-! ## The degrading cache -/

structure DegradingCache where
  /-- The name of the configured cache. -/
  configured : Option String
  default : InProcessCache
  degraded : Bool

/-- A call, and what the configured cache answers if it is asked. -/
inductive CacheCall where
  | get (key : String) (answer : Except ProviderError (Option String))
  | set (key value : String) (answer : Except ProviderError Unit)

/-- A call that returned. `asked` is whether the configured cache was asked, and then whether it answered without an error. -/
inductive CacheEvent where
  | got (key : String) (asked : Option Bool) (result : Except ProviderError (Option String))
  | set (key value : String) (asked : Option Bool) (result : Except ProviderError Unit)
  deriving DecidableEq

def CacheEvent.asked : CacheEvent → Option Bool
  | .got _ asked _ | .set _ _ asked _ => asked

namespace DegradingCache

def new (configured : Option String) : DegradingCache := ⟨configured, .new, false⟩

def noteDegradation (c : DegradingCache) : DegradingCache := { c with degraded := true }

def markDegradedAtStartup (c : DegradingCache) : DegradingCache := { c with degraded := true }

def get (c : DegradingCache) (key : String) (answer : Except ProviderError (Option String)) : DegradingCache × CacheEvent :=
  if ¬c.degraded ∧ c.configured.isSome then
    match answer with
    | .ok value => (c, .got key (some true) (.ok value))
    | .error _ =>
      let c := c.noteDegradation
      (c, .got key (some false) (c.default.get key))
  else (c, .got key none (c.default.get key))

def set (c : DegradingCache) (key value : String) (answer : Except ProviderError Unit) : DegradingCache × CacheEvent :=
  if ¬c.degraded ∧ c.configured.isSome then
    match answer with
    | .ok () => (c, .set key value (some true) (.ok ()))
    | .error _ =>
      let c := c.noteDegradation
      let (default, result) := c.default.set key value
      ({ c with default }, .set key value (some false) result)
  else
    let (default, result) := c.default.set key value
    ({ c with default }, .set key value none result)

end DegradingCache

/-! ## A history of calls -/

/-- The cache, with what was last set in the configured one. -/
structure Caching where
  cache : DegradingCache
  stored : HashMap String String

namespace Caching

/-- A cache that was made with a configured one or without, and marked as degraded or not. -/
def start (configured : Option String) (marked : Bool) : Caching where
  cache := if marked then (DegradingCache.new configured).markDegradedAtStartup else DegradingCache.new configured
  stored := ∅

def step (s : Caching) : CacheCall → Option (Caching × List CacheEvent)
  | .get key answer =>
    let (cache, event) := s.cache.get key answer
    some ({ s with cache }, [event])
  | .set key value answer =>
    let (cache, event) := s.cache.set key value answer
    some (⟨cache, if event.asked = some true then s.stored.insert key value else s.stored⟩, [event])

/-- The configured cache answers as a cache: with an error, with none, or with what was last set for the key. -/
def answersAsCache (s : Caching) : CacheCall → Bool
  | .get key (.ok (some value)) => s.stored.lookup key = some value
  | _ => true

end Caching

/-- The value of the most recent call that set a key. -/
def lastSet (key : String) : List CacheEvent → Option String
  | [] => none
  | .set key' value _ _ :: log => (lastSet key log).or (if key' = key then some value else none)
  | .got _ _ _ :: log => lastSet key log

/-- The most recent call is the last one of the log. -/
theorem lastSet_append (key : String) (log log' : List CacheEvent) :
    lastSet key (log ++ log') = (lastSet key log').or (lastSet key log) := by
  induction log with
  | nil => simp [lastSet]
  | cons e log ih => cases e <;> simp [lastSet, ih, Option.or_assoc]

end Monitra
