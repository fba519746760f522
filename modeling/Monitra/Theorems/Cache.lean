import Monitra.Library.Runs
import Monitra.Provider.Cache

/-!
# What the degrading cache answers

Before the switch-over the in-process cache is empty and the configured cache has what was last set; after it the in-process cache
has what was set since. So what either has of a key was set by the most recent call that set it.
-/

namespace Monitra

open Runs

/-- What a call is to return after the calls of a log: no error; of a key none or what was last set; and the configured cache is
not asked once it has failed. -/
structure AnswersFresh (log : List CacheEvent) (e : CacheEvent) : Prop where
  got : ∀ key asked result, e = .got key asked result → ∃ value, result = .ok value ∧ (value = none ∨ value = lastSet key log)
  set : ∀ key value asked result, e = .set key value asked result → result = .ok ()
  asked : (∃ e' ∈ log, e'.asked = some false) → e.asked = none

namespace CacheAux

/-- Both maps against the calls so far. Until the switch-over the in-process cache is empty, and the configured one was given every
value that was set. -/
structure Inv (s : Caching) (log : List CacheEvent) : Prop where
  inProcess : ∀ key value, s.cache.default.entries.lookup key = some value → lastSet key log = some value
  before : s.cache.degraded = false → s.cache.configured.isSome →
    s.cache.default.entries = ∅ ∧ ∀ key, s.stored.lookup key = lastSet key log
  failed : (∃ e ∈ log, e.asked = some false) → s.cache.degraded = true

theorem inv_start (configured : Option String) (marked : Bool) : Inv (Caching.start configured marked) [] := by
  have hempty : (Caching.start configured marked).cache.default.entries = ∅ := by
    unfold Caching.start
    split <;> rfl
  refine ⟨fun key value h => ?_, fun _ _ => ⟨hempty, fun key => ?_⟩, by simp⟩
  · rw [hempty, HashMap.lookup_empty] at h
    cases h
  · exact HashMap.lookup_empty key

/-- What is set is what was last set. -/
theorem lastSet_snoc_set (log : List CacheEvent) (key key' value : String) (asked : Option Bool) (result : Except ProviderError Unit) :
    lastSet key (log ++ [.set key' value asked result]) = if key = key' then some value else lastSet key log := by
  rw [lastSet_append, lastSet, lastSet, Option.none_or]
  by_cases h : key = key'
  · rw [if_pos h, if_pos h.symm, Option.some_or]
  · rw [if_neg h, if_neg (Ne.symm h), Option.none_or]

/-- A get does not change what was last set. -/
theorem lastSet_snoc_got (log : List CacheEvent) (key key' : String) (asked : Option Bool)
    (result : Except ProviderError (Option String)) : lastSet key (log ++ [.got key' asked result]) = lastSet key log := by
  rw [lastSet_append, lastSet, lastSet, Option.none_or]

/-- Whether the configured cache is asked. -/
def Asks (c : DegradingCache) : Prop := c.degraded = false ∧ c.configured.isSome

/-- What a call does: the configured cache answers it, fails at it, or is not asked, and then the in-process cache answers. -/
inductive CacheStep (s : Caching) : CacheCall → Caching → CacheEvent → Prop where
  | got {key value} (hasks : Asks s.cache) : CacheStep s (.get key (.ok value)) s (.got key (some true) (.ok value))
  | gotAfterFailure {key error} (hasks : Asks s.cache) :
      CacheStep s (.get key (.error error)) { s with cache := { s.cache with degraded := true } }
        (.got key (some false) (.ok (s.cache.default.entries.lookup key)))
  | gotInProcess {key answer} (hasks : ¬Asks s.cache) :
      CacheStep s (.get key answer) s (.got key none (.ok (s.cache.default.entries.lookup key)))
  | set {key value} (hasks : Asks s.cache) :
      CacheStep s (.set key value (.ok ())) { s with stored := s.stored.insert key value } (.set key value (some true) (.ok ()))
  | setAfterFailure {key value error} (hasks : Asks s.cache) :
      CacheStep s (.set key value (.error error))
        { s with cache := { s.cache with degraded := true, default := ⟨s.cache.default.entries.insert key value⟩ } }
        (.set key value (some false) (.ok ()))
  | setInProcess {key value answer} (hasks : ¬Asks s.cache) :
      CacheStep s (.set key value answer)
        { s with cache := { s.cache with default := ⟨s.cache.default.entries.insert key value⟩ } }
        (.set key value none (.ok ()))

theorem cacheStep_of_step {s s' : Caching} {call : CacheCall} {ev : List CacheEvent} (h : s.step call = some (s', ev)) :
    ∃ e, ev = [e] ∧ CacheStep s call s' e := by
  cases call with
  | get key answer =>
    simp only [Caching.step, DegradingCache.get, Bool.not_eq_true] at h
    split at h
    · rename_i hasks
      cases answer with
      | ok value =>
        cases h
        exact ⟨_, rfl, .got hasks⟩
      | error error =>
        cases h
        exact ⟨_, rfl, .gotAfterFailure hasks⟩
    · rename_i hasks
      cases h
      exact ⟨_, rfl, .gotInProcess hasks⟩
  | set key value answer =>
    simp only [Caching.step, DegradingCache.set, Bool.not_eq_true] at h
    split at h
    · rename_i hasks
      cases answer with
      | ok =>
        cases h
        exact ⟨_, rfl, .set hasks⟩
      | error error =>
        cases h
        exact ⟨_, rfl, .setAfterFailure hasks⟩
    · rename_i hasks
      cases h
      exact ⟨_, rfl, .setInProcess hasks⟩

variable {s s' : Caching} {call : CacheCall} {e : CacheEvent} {log : List CacheEvent}

/-- Where the configured cache is asked it has not failed. -/
theorem not_failed (hI : Inv s log) (hasks : Asks s.cache) : ¬∃ e ∈ log, e.asked = some false := by
  intro hfailed
  cases hasks.1.symm.trans (hI.failed hfailed)

/-- A call returns as it should. -/
theorem answersFresh_of_step (hI : Inv s log) (hok : s.answersAsCache call = true) (h : CacheStep s call s' e) :
    AnswersFresh log e := by
  have hdefault : ∀ key, s.cache.default.entries.lookup key = none ∨ s.cache.default.entries.lookup key = lastSet key log := by
    intro key
    cases hlookup : s.cache.default.entries.lookup key with
    | none => exact Or.inl rfl
    | some value => exact Or.inr (hI.inProcess key value hlookup).symm
  cases h with
  | @got key value hasks =>
    refine ⟨fun _ _ _ he => ?_, fun _ _ _ _ he => ?_, fun hfailed => absurd hfailed (not_failed hI hasks)⟩
    · cases he
      refine ⟨value, rfl, ?_⟩
      cases value with
      | none => exact Or.inl rfl
      | some value =>
        rw [Caching.answersAsCache, decide_eq_true_eq, (hI.before hasks.1 hasks.2).2] at hok
        exact Or.inr hok.symm
    · cases he
  | gotAfterFailure hasks =>
    refine ⟨fun _ _ _ he => ?_, fun _ _ _ _ he => ?_, fun hfailed => absurd hfailed (not_failed hI hasks)⟩
    · cases he
      exact ⟨_, rfl, hdefault _⟩
    · cases he
  | gotInProcess _ =>
    refine ⟨fun _ _ _ he => ?_, fun _ _ _ _ he => ?_, fun _ => rfl⟩
    · cases he
      exact ⟨_, rfl, hdefault _⟩
    · cases he
  | set hasks | setAfterFailure hasks =>
    refine ⟨fun _ _ _ he => ?_, fun _ _ _ _ he => ?_, fun hfailed => absurd hfailed (not_failed hI hasks)⟩
    · cases he
    · cases he
      rfl
  | setInProcess _ =>
    refine ⟨fun _ _ _ he => ?_, fun _ _ _ _ he => ?_, fun _ => rfl⟩
    · cases he
    · cases he
      rfl

/-- A failure of the log is one of the calls before, or the last call. -/
theorem failed_snoc_iff : (∃ e' ∈ log ++ [e], e'.asked = some false) ↔ (∃ e' ∈ log, e'.asked = some false) ∨ e.asked = some false := by
  simp [or_and_right, exists_or]

/-- A value set in the in-process cache is the one last set. -/
theorem inProcess_insert (hI : Inv s log) (key value : String) (asked : Option Bool) (result : Except ProviderError Unit) :
    ∀ key' value', (s.cache.default.entries.insert key value).lookup key' = some value' →
      lastSet key' (log ++ [.set key value asked result]) = some value' := by
  intro key' value' hlookup
  rw [HashMap.lookup_insert] at hlookup
  rw [lastSet_snoc_set]
  split at hlookup
  · rename_i hkey
    rwa [if_pos hkey]
  · rename_i hkey
    rw [if_neg hkey]
    exact hI.inProcess key' value' hlookup

/-- A call keeps what holds of the maps. -/
theorem inv_of_step (hI : Inv s log) (h : CacheStep s call s' e) : Inv s' (log ++ [e]) := by
  cases h with
  | got hasks =>
    refine ⟨fun key value hlookup => ?_, fun hdegraded hconfigured => ?_, fun hfailed => ?_⟩
    · rw [lastSet_snoc_got]
      exact hI.inProcess key value hlookup
    · simp only [lastSet_snoc_got]
      exact hI.before hdegraded hconfigured
    · rw [failed_snoc_iff] at hfailed
      exact hI.failed (hfailed.resolve_right (by simp [CacheEvent.asked]))
  | gotAfterFailure hasks =>
    refine ⟨fun key value hlookup => ?_, fun hdegraded _ => ?_, fun _ => rfl⟩
    · rw [lastSet_snoc_got]
      exact hI.inProcess key value hlookup
    · cases hdegraded
  | gotInProcess hasks =>
    refine ⟨fun key value hlookup => ?_, fun hdegraded hconfigured => absurd ⟨hdegraded, hconfigured⟩ hasks, fun hfailed => ?_⟩
    · rw [lastSet_snoc_got]
      exact hI.inProcess key value hlookup
    · rw [failed_snoc_iff] at hfailed
      exact hI.failed (hfailed.resolve_right (by simp [CacheEvent.asked]))
  | @set key value hasks =>
    have hempty := (hI.before hasks.1 hasks.2).1
    refine ⟨fun key' value' hlookup => ?_, fun _ _ => ⟨hempty, fun key' => ?_⟩, fun hfailed => ?_⟩
    · rw [hempty, HashMap.lookup_empty] at hlookup
      cases hlookup
    · rw [lastSet_snoc_set, HashMap.lookup_insert, (hI.before hasks.1 hasks.2).2]
    · rw [failed_snoc_iff] at hfailed
      exact hI.failed (hfailed.resolve_right (by simp [CacheEvent.asked]))
  | setAfterFailure hasks =>
    refine ⟨inProcess_insert hI _ _ _ _, fun hdegraded _ => ?_, fun _ => rfl⟩
    cases hdegraded
  | setInProcess hasks =>
    refine ⟨inProcess_insert hI _ _ _ _, fun hdegraded hconfigured => absurd ⟨hdegraded, hconfigured⟩ hasks, fun hfailed => ?_⟩
    rw [failed_snoc_iff] at hfailed
    exact hI.failed (hfailed.resolve_right (by simp [CacheEvent.asked]))

end CacheAux

/-- For every sequence of calls of a cache, with a configured cache or without, that fails at any of them and otherwise answers as a
cache: the call that comes next returns as it should. -/
theorem degrading_cache_fresh (configured : Option String) (marked : Bool) {s s' : Caching} {log ev : List CacheEvent}
    {call : CacheCall} (h : Run Caching.step (fun s call => s.answersAsCache call = true) (Caching.start configured marked) s log)
    (hok : s.answersAsCache call = true) (hstep : s.step call = some (s', ev)) : ∃ e, ev = [e] ∧ AnswersFresh log e := by
  have hI : CacheAux.Inv s log := by
    refine h.invariant (CacheAux.inv_start configured marked) fun _ _ _ _ _ hI _ hstep => ?_
    obtain ⟨e, rfl, hcase⟩ := CacheAux.cacheStep_of_step hstep
    exact CacheAux.inv_of_step hI hcase
  obtain ⟨e, rfl, hcase⟩ := CacheAux.cacheStep_of_step hstep
  exact ⟨e, rfl, CacheAux.answersFresh_of_step hI hok hcase⟩

/-- A value set before the switch-over is not found after it, and one set by the call that fails is. -/
theorem degrading_cache_switched :
    let calls : List CacheCall := [.set "a" "1" (.ok ()), .get "a" (.ok (some "1")),
      .set "b" "2" (.error (.operation .cache "timed out")), .get "b" (.ok none)]
    let x := after Caching.step Caching.answersAsCache (Caching.start (some "redis") false) calls
    AnswersFresh x.2 (.got "a" none (.ok none)) ∧ x.2.getLast? = some (.got "b" none (.ok (some "2"))) := by
  intro calls x
  have hrun : Run Caching.step (fun s call => s.answersAsCache call = true) (Caching.start (some "redis") false) x.1 x.2 :=
    run_after (by decide +kernel)
  have hanswers : x.1.answersAsCache (.get "a" (.ok (some "1"))) = true := by decide +kernel
  obtain ⟨e, he, hfresh⟩ := degrading_cache_fresh (some "redis") false hrun hanswers rfl
  have hgot : e = .got "a" none (.ok none) := by
    cases he
    decide +kernel
  exact ⟨hgot ▸ hfresh, by decide +kernel⟩

end Monitra
