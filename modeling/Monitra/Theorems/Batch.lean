import Monitra.Lemmas.Steps

/-!
# Results that share a batch

The store inserts a batch in one transaction and refuses a result whose monitor is gone; the writer clears the batch whatever
the store answers. So a deletion between the submission of a result and the flush of its batch costs the batch every other
result, and a flush keeps what it should exactly when its batch does not mix results of monitors that exist with results of
monitors that do not.
-/

namespace Monitra

open Runs

/-- What the writer has accepted and not yet handed to the store, oldest first. -/
def Writer.held (w : Writer) : List CheckResult := w.batch ++ w.queue

/-- After a flush every result of the batch whose monitor existed is recorded, as often as the batch held it. -/
def FlushKeeps (s s' : System) : Prop :=
  ∀ r ∈ s.writer.batch, (s.db.row? r.monitorId.val).isSome →
    s'.db.recorded r = s.writer.batch.count r + s.db.recorded r

/-- No accepted result is lost. What the writer holds leaves it only as the batch of a flush, and a flush that the store
answers, with no fault of its own, keeps every result whose monitor exists. The steps of the run are those that meet the
condition. -/
def ResultsKept (cfg : EngineConfig) (ok : System → Action → Bool) : Prop :=
  ∀ (k8sFactory : Option K8sCollectorFactory) (db : Db) (s s' : System) (log ev : List Event) (a : Action),
    Run (System.step cfg) (fun s a => ok s a = true) (System.start cfg k8sFactory db) s log →
    ok s a = true → s.step cfg a = some (s', ev) →
    ((∀ fault pick, a ≠ .writer (.flush fault pick)) → s.writer.held <+: s'.writer.held) ∧
      ∀ pick, a = .writer (.flush false pick) → s.db.insertCheckResults pick s.writer.batch ≠ .error (.queryFailed .full) →
        s.writer.held = s.writer.batch ++ s'.writer.held ∧ FlushKeeps s s'

/-- The condition. The monitors of the results of a flushed batch all exist, or none of them does. -/
def batchWhole (s : System) : Action → Bool
  | .writer (.flush _ _) =>
    (s.writer.batch.all fun r => (s.db.row? r.monitorId.val).isSome) ||
      s.writer.batch.all fun r => (s.db.row? r.monitorId.val).isNone
  | _ => true

namespace BatchAux

/-- Submissions come after what the writer holds. -/
theorem held_submit (capacity : Nat) (w : Writer) (results : List CheckResult) :
    w.held <+: (w.submit capacity results).held := by
  refine ⟨results.take (capacity - w.queue.length), ?_⟩
  simp only [Writer.held, Writer.submit, Channel.sendAll_eq, List.append_assoc]

/-- A receive moves a result from the channel to the batch. -/
theorem held_recv {batchSize : Nat} {closed : Bool} {w w' : Writer} (h : w.recv batchSize closed = some w') :
    w'.held = w.held := by
  rcases recv_eq_some h with ⟨result, hq, hb⟩ | ⟨hq, hq', hb⟩
  · rw [Writer.held, Writer.held, hq, hb, List.append_assoc, List.singleton_append]
  · rw [Writer.held, Writer.held, hq, hq', hb]

theorem held_tick {w w' : Writer} (h : w.tick = some w') : w'.held = w.held := by
  rw [Writer.held, Writer.held, (tick_eq_some h).1, (tick_eq_some h).2]

/-- A step that is no flush takes nothing from the writer. -/
theorem held_step {cfg : EngineConfig} {s s' : System} {a : Action} {ev : List Event} (he : Effect cfg s a s' ev)
    (ha : ∀ fault pick, a ≠ .writer (.flush fault pick)) : s.writer.held <+: s'.writer.held := by
  cases he with
  | handled => exact held_submit _ _ _
  | wrote => exact held_submit _ _ _
  | notWritten => exact held_submit _ _ _
  | writerReceived hw => exact (held_recv hw) ▸ List.prefix_refl _
  | writerTicked hw => exact (held_tick hw) ▸ List.prefix_refl _
  | flushed hw => exact absurd rfl (ha _ _)
  | _ => exact List.prefix_refl _

/-- A flush that the store answers keeps what it should exactly when its batch is not mixed. -/
theorem flush_iff {w w' : Writer} {db db' : Db} {pick : List Int64 → Int64} (h : w.flush db false pick = some (w', db'))
    (hfull : db.insertCheckResults pick w.batch ≠ .error (.queryFailed .full)) :
    (∀ r ∈ w.batch, (db.row? r.monitorId.val).isSome → db'.recorded r = w.batch.count r + db.recorded r) ↔
      (∀ r ∈ w.batch, (db.row? r.monitorId.val).isSome) ∨ ∀ r ∈ w.batch, db.row? r.monitorId.val = none := by
  rcases (flush_eq_some h).2.2 with hins | ⟨rfl, e, hins⟩
  · obtain ⟨-, -, -, hall, hcount, -⟩ := Db.insertCheckResults_eq_ok (answer_eq_ok hins).2
    exact ⟨fun _ => Or.inl hall, fun _ r _ _ => hcount r⟩
  · have hins' : db'.insertCheckResults pick w.batch = .error e := hins
    rcases Db.insertCheckResults_eq_error hins' with rfl | ⟨-, r₀, hr₀, hnone⟩
    · exact absurd hins' hfull
    · constructor
      · intro hkeep
        refine Or.inr fun r hr => ?_
        by_contra hsome
        have hc := hkeep r hr (by simpa [Option.isSome_iff_ne_none] using hsome)
        have hpos := List.count_pos_iff.mpr hr
        omega
      · rintro (hall | hnone') r hr hsome
        · have hs := hall r₀ hr₀
          rw [hnone] at hs
          cases hs
        · rw [hnone' r hr] at hsome
          cases hsome

end BatchAux

/-- A flush keeps what it should exactly when its batch is whole. -/
theorem flush_keeps_iff {cfg : EngineConfig} {s s' : System} {ev : List Event} {pick : List Int64 → Int64}
    (hs : s.step cfg (.writer (.flush false pick)) = some (s', ev))
    (hfull : s.db.insertCheckResults pick s.writer.batch ≠ .error (.queryFailed .full)) :
    FlushKeeps s s' ↔ batchWhole s (.writer (.flush false pick)) = true := by
  cases effect_of_step hs with
  | flushed hw =>
    rw [FlushKeeps, BatchAux.flush_iff hw hfull]
    simp [batchWhole]

/-- The condition is enough: no accepted result is lost when no flushed batch is mixed. -/
theorem results_kept_when_whole (cfg : EngineConfig) : ResultsKept cfg batchWhole := by
  intro k8sFactory db s s' log ev a _ hok hs
  refine ⟨BatchAux.held_step (effect_of_step hs), ?_⟩
  rintro pick rfl hfull
  refine ⟨?_, (flush_keeps_iff hs hfull).mpr hok⟩
  cases effect_of_step hs with
  | flushed hw =>
    obtain ⟨hb, hq, -⟩ := flush_eq_some hw
    simp only [Writer.held, hb, hq, List.nil_append]

/-! ## Two runs -/

/-- Two monitors are added, registered and probed, and the results of both are in the batch. -/
def bothProbed : List Action := [
  .user (.addMonitor "a" "http://a" .http 60 none fun _ => 0), .user (.addMonitor "b" "http://b" .http 60 none fun _ => 0),
  .scheduler (.listMonitors false), .scheduler .listReturned, .scheduler (.dispatchDue [1, 2]),
  .scheduler (.join (.ok (0, .network ⟨1, 0⟩ (.success 3)))), .scheduler .handle, .scheduler (.setMonitorStatus false),
  .scheduler (.join (.ok (1, .network ⟨2, 1⟩ (.success 4)))), .scheduler .handle, .scheduler (.setMonitorStatus false),
  .writer .recv, .writer .recv]

/-- The result of the first monitor of the run. -/
def firstResult : CheckResult := { monitorId := ⟨1, 0⟩, checkedAt := 0, success := true, latencyMs := 3, message := none }

/-- A result is lost: monitor 2 is deleted while a result of it and a result of monitor 1 share the batch, and the flush
records neither. -/
theorem results_lost : ¬ ResultsKept EngineConfig.default always := by
  intro h
  let step := System.step EngineConfig.default
  let s₀ := System.start EngineConfig.default none Db.empty
  let x := after step always s₀ (bothProbed ++ [.user (.removeMonitor 2), .writer .tick])
  let pick : List Int64 → Int64 := fun _ => 0
  let x' := after step always x.1 [.writer (.flush false pick)]
  have hr : Run step (fun s a => always s a = true) s₀ x.1 x.2 := run_after (by decide +kernel)
  have hs := step_after step always x.1 (.writer (.flush false pick)) (by decide +kernel)
  have hfull : x.1.db.insertCheckResults pick x.1.writer.batch ≠ .error (.queryFailed .full) := by decide +kernel
  have hkeep := ((h none Db.empty x.1 x'.1 x.2 x'.2 _ hr rfl hs.2).2 pick rfl hfull).2
  have hin : firstResult ∈ x.1.writer.batch ∧ (x.1.db.row? 1).isSome := by decide +kernel
  have hcount : x'.1.db.recorded firstResult < x.1.writer.batch.count firstResult + x.1.db.recorded firstResult := by
    decide +kernel
  have hc := hkeep firstResult hin.1 hin.2
  omega

/-- With both monitors still there, the flush of the same batch records the result. -/
theorem results_kept_both :
    ∃ (s s' : System) (ev : List Event), System.step EngineConfig.default s (.writer (.flush false fun _ => 0)) = some (s', ev) ∧
      firstResult ∈ s.writer.batch ∧ s'.db.recorded firstResult = s.writer.batch.count firstResult + s.db.recorded firstResult := by
  let step := System.step EngineConfig.default
  let s₀ := System.start EngineConfig.default none Db.empty
  let x := after step batchWhole s₀ (bothProbed ++ [.writer .tick])
  let pick : List Int64 → Int64 := fun _ => 0
  let x' := after step batchWhole x.1 [.writer (.flush false pick)]
  have hr : Run step (fun s a => batchWhole s a = true) s₀ x.1 x.2 := run_after (by decide +kernel)
  have hs := step_after step batchWhole x.1 (.writer (.flush false pick)) (by decide +kernel)
  have hfull : x.1.db.insertCheckResults pick x.1.writer.batch ≠ .error (.queryFailed .full) := by decide +kernel
  have hin : firstResult ∈ x.1.writer.batch ∧ (x.1.db.row? 1).isSome := by decide +kernel
  have hkeep := ((results_kept_when_whole EngineConfig.default none Db.empty x.1 x'.1 x.2 x'.2 _ hr hs.1 hs.2).2 pick rfl hfull).2
  exact ⟨x.1, x'.1, x'.2, hs.2, hin.1, hkeep firstResult hin.1 hin.2⟩

end Monitra
