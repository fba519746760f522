import Monitra.Engine.Scheduler

/-!
# What the scheduler does to its registry

What `observe` and the handling of an outcome can do, case by case, what a resync leaves in the registry, and what a dispatch
keeps of it.
-/

namespace Monitra

/-! ## Damping -/

@[simp] theorem FlapState.observe_fst (f : FlapState) (success : Bool) (current : MonitorStatus) :
    (f.observe success current).1 = f.count success := by
  cases success <;> cases current <;> rfl

/-- A success moves to up, from any other status, once the threshold is reached. -/
theorem FlapState.observe_success (f : FlapState) (current : MonitorStatus) :
    (f.observe true current).2 =
      if current ≠ .up ∧ UP_THRESHOLD ≤ (f.count true).consecutiveSuccess then some .up else none := by
  cases current <;> simp [observe]

/-- A failure moves to down, from any other status, once the threshold is reached. -/
theorem FlapState.observe_failure (f : FlapState) (current : MonitorStatus) :
    (f.observe false current).2 =
      if current ≠ .down ∧ DOWN_THRESHOLD ≤ (f.count false).consecutiveFailure then some .down else none := by
  cases current <;> simp [observe]

namespace Scheduler

/-! ## Handling an outcome -/

/-- What the handling of an outcome does up to its first await. -/
inductive Handles (s : Scheduler) (wall : UInt64) (cause : Handled) : Handling → Prop where
  | goesStale {message state} (hv : cause.verdict = .stale message)
      (hr : s.registry.lookup cause.monitorId.val = some state) (hs : state.monitor.status ≠ .stale) :
      Handles s wall cause
        { scheduler := { s with
            registry := s.registry.insert cause.monitorId.val
              { state with monitor := { state.monitor with status := .stale } } }
          events := [.handled cause]
          persist := some ⟨cause, state.monitor.name, .stale, .stale wall message⟩ }
  | staysStale {message} (hv : cause.verdict = .stale message)
      (hr : ∀ state, s.registry.lookup cause.monitorId.val = some state → state.monitor.status = .stale) :
      Handles s wall cause
        ⟨s, [.handled cause, .submitted (staleResult cause.monitorId wall message), .finished cause], none⟩
  | unregistered {success message latencyMs} (hv : cause.verdict = .applied success message latencyMs)
      (hr : s.registry.lookup cause.monitorId.val = none) :
      Handles s wall cause ⟨s, [.handled cause, .finished cause], none⟩
  | transition {success message latencyMs state newStatus} (hv : cause.verdict = .applied success message latencyMs)
      (hr : s.registry.lookup cause.monitorId.val = some state)
      (ho : (state.flap.observe success state.monitor.status).2 = some newStatus) :
      Handles s wall cause
        { scheduler := { s with
            registry := s.registry.insert cause.monitorId.val
              { state with flap := state.flap.count success, monitor := { state.monitor with status := newStatus } } }
          events := [.handled cause, .observed cause.monitorId success]
          persist := some ⟨cause, state.monitor.name, newStatus, .applied success message latencyMs⟩ }
  | counted {success message latencyMs state} (hv : cause.verdict = .applied success message latencyMs)
      (hr : s.registry.lookup cause.monitorId.val = some state)
      (ho : (state.flap.observe success state.monitor.status).2 = none) :
      Handles s wall cause
        { scheduler := { s with
            registry := s.registry.insert cause.monitorId.val { state with flap := state.flap.count success } }
          events := [
            .handled cause, .observed cause.monitorId success,
            .submitted { monitorId := cause.monitorId, checkedAt := wall, success, latencyMs, message },
            .broadcast { monitorId := cause.monitorId, checkedAt := wall, success, latencyMs, message }, .finished cause]
          persist := none }

theorem handles_handle (s : Scheduler) (wall : UInt64) (cause : Handled) : Handles s wall cause (s.handle wall cause) := by
  unfold handle
  cases hv : cause.verdict with
  | stale message =>
    simp only [markStaleAndRecord]
    cases hr : s.registry.lookup cause.monitorId.val with
    | none => exact .staysStale hv (by simp [hr])
    | some state =>
      by_cases hs : state.monitor.status = .stale
      · simp only [hs, ne_eq, not_true_eq_false, if_false]
        exact .staysStale hv (by simp [hr, hs])
      · simp only [hs, ne_eq, not_false_eq_true, if_true]
        exact .goesStale hv hr hs
  | applied success message latencyMs =>
    simp only [applyResult]
    cases hr : s.registry.lookup cause.monitorId.val with
    | none => exact .unregistered hv hr
    | some state =>
      have hfst := state.flap.observe_fst success state.monitor.status
      rcases ho : state.flap.observe success state.monitor.status with ⟨flap, _ | newStatus⟩
      · rw [ho] at hfst
        cases hfst
        simp only [ho]
        exact .counted hv hr (by rw [ho])
      · rw [ho] at hfst
        cases hfst
        simp only [ho]
        exact .transition hv hr (by rw [ho])

/-- An outcome that changes no status is counted, and nothing is left to persist. -/
theorem handle_counted {s : Scheduler} (wall : UInt64) (cause : Handled) {state : MonitorState} {success : Bool}
    {message : Option String} {latencyMs : UInt64} (hr : s.registry.lookup cause.monitorId.val = some state)
    (hv : cause.verdict = .applied success message latencyMs) (ho : (state.flap.observe success state.monitor.status).2 = none) :
    (s.handle wall cause).persist = none ∧
      (s.handle wall cause).scheduler.registry =
        s.registry.insert cause.monitorId.val { state with flap := state.flap.count success } := by
  have hh := handles_handle s wall cause
  generalize s.handle wall cause = x at hh
  cases hh with
  | goesStale hv' | staysStale hv' => cases hv.symm.trans hv'
  | unregistered hv' hr' => cases hr.symm.trans hr'
  | transition hv' hr' ho' =>
    cases hr.symm.trans hr'
    cases hv.symm.trans hv'
    cases ho.symm.trans ho'
  | counted hv' hr' ho' =>
    cases hr.symm.trans hr'
    cases hv.symm.trans hv'
    exact ⟨rfl, rfl⟩

/-- An outcome that cannot be had marks the copy stale, which is left to persist. -/
theorem handle_stale {s : Scheduler} (wall : UInt64) (cause : Handled) {state : MonitorState} {message : String}
    (hr : s.registry.lookup cause.monitorId.val = some state) (hv : cause.verdict = .stale message)
    (hs : state.monitor.status ≠ .stale) :
    (∃ p, (s.handle wall cause).persist = some p) ∧
      (s.handle wall cause).scheduler.registry =
        s.registry.insert cause.monitorId.val { state with monitor := { state.monitor with status := .stale } } := by
  have hh := handles_handle s wall cause
  generalize s.handle wall cause = x at hh
  cases hh with
  | goesStale hv' hr' hs' =>
    cases hr.symm.trans hr'
    exact ⟨⟨_, rfl⟩, rfl⟩
  | staysStale hv' hr' => exact absurd (hr' state hr) hs
  | unregistered hv' | transition hv' | counted hv' => cases hv.symm.trans hv'

/-- The handling of an outcome changes nothing but the registry. -/
theorem handle_frame (s : Scheduler) (wall : UInt64) (cause : Handled) :
    (s.handle wall cause).scheduler = { s with registry := (s.handle wall cause).scheduler.registry } := by
  have hh := handles_handle s wall cause
  generalize s.handle wall cause = x at hh
  cases hh <;> rfl

/-- It leaves the entries of the other monitors. -/
theorem lookup_handle_of_ne (s : Scheduler) (wall : UInt64) {cause : Handled} {id : UInt64} (hid : id ≠ cause.monitorId.val) :
    (s.handle wall cause).scheduler.registry.lookup id = s.registry.lookup id := by
  have hh := handles_handle s wall cause
  generalize s.handle wall cause = x at hh
  cases hh with
  | staysStale | unregistered => rfl
  | goesStale | transition | counted => simp only [HashMap.lookup_insert, if_neg hid]

/-- It sets counters and statuses: what does not look at them sees the entries as they were. -/
theorem lookup_handle {β : Type} (f : MonitorState → β)
    (hf : ∀ (state : MonitorState) flap status, f { state with flap, monitor := { state.monitor with status } } = f state)
    (s : Scheduler) (wall : UInt64) (cause : Handled) (id : UInt64) :
    ((s.handle wall cause).scheduler.registry.lookup id).map f = (s.registry.lookup id).map f := by
  by_cases hid : id = cause.monitorId.val
  · subst hid
    have hh := handles_handle s wall cause
    generalize s.handle wall cause = x at hh
    cases hh with
    | staysStale | unregistered => rfl
    | goesStale hv hr =>
      rw [HashMap.lookup_insert, if_pos rfl, hr]
      exact congrArg some (hf _ _ _)
    | transition hv hr =>
      rw [HashMap.lookup_insert, if_pos rfl, hr]
      exact congrArg some (hf _ _ _)
    | counted hv hr =>
      rw [HashMap.lookup_insert, if_pos rfl, hr]
      exact congrArg some (hf _ _ _)
  · rw [lookup_handle_of_ne s wall hid]

/-- An entry after it is one from before, but for its counters and its status. -/
theorem of_lookup_handle {s : Scheduler} {wall : UInt64} {cause : Handled} {id : UInt64} {state' : MonitorState}
    (h : (s.handle wall cause).scheduler.registry.lookup id = some state') :
    ∃ state, s.registry.lookup id = some state ∧ state'.nextCheckAt = state.nextCheckAt ∧
      state'.monitor = { state.monitor with status := state'.monitor.status } := by
  have hview := lookup_handle (fun state => (state.nextCheckAt, { state.monitor with status := .pending })) (fun _ _ _ => rfl)
    s wall cause id
  rw [h, Option.map_some] at hview
  obtain ⟨state, hr, heq⟩ := Option.map_eq_some_iff.mp hview.symm
  obtain ⟨hnext, hm⟩ := Prod.mk.injEq .. ▸ heq
  exact ⟨state, hr, hnext.symm, congrArg (fun m : Monitor => { m with status := state'.monitor.status }) hm.symm⟩

/-- Whether the copy of a monitor and its counters make an outcome a transition. -/
def transitions (state : MonitorState) : Verdict → Bool
  | .applied success _ _ => (state.flap.observe success state.monitor.status).2.isSome
  | .stale _ => state.monitor.status ≠ .stale

end Scheduler

/-- The status an outcome can move its monitor to. -/
def Verdict.status : Verdict → MonitorStatus
  | .applied true _ _ => .up
  | .applied false _ _ => .down
  | .stale _ => .stale

namespace Scheduler

/-- A status is to be persisted only for a registered monitor whose copy makes the outcome a transition, and it is the one the
outcome can move the monitor to. -/
theorem persist_handle {s : Scheduler} {wall : UInt64} {cause : Handled} {p : Persist}
    (h : (s.handle wall cause).persist = some p) :
    p.cause = cause ∧ p.status = cause.verdict.status ∧
      ∃ state, s.registry.lookup cause.monitorId.val = some state ∧ transitions state cause.verdict = true := by
  have hh := handles_handle s wall cause
  generalize s.handle wall cause = x at h hh
  cases hh with
  | goesStale hv hr hs =>
    cases h
    exact ⟨rfl, by simp [hv, Verdict.status], _, hr, by simpa [hv, transitions] using hs⟩
  | staysStale => cases h
  | unregistered => cases h
  | @transition success message latencyMs state newStatus hv hr ho =>
    cases h
    refine ⟨rfl, ?_, _, hr, by simp [hv, transitions, ho]⟩
    rw [hv]
    cases success
    · rw [FlapState.observe_failure] at ho
      split at ho
      · exact (Option.some.inj ho).symm
      · cases ho
    · rw [FlapState.observe_success] at ho
      split at ho
      · exact (Option.some.inj ho).symm
      · cases ho
  | counted => cases h

/-! ## Resync -/

/-- The listed monitor that a resync registers under an id: the last one with that id that is active. -/
def registers (monitors : List Monitor) (id : UInt64) : Option Monitor :=
  (monitors.filter fun m => active m && decide (m.id.val = id)).getLast?

theorem registers_cons (m : Monitor) (monitors : List Monitor) (id : UInt64) :
    registers (m :: monitors) id =
      if active m && decide (m.id.val = id) then some ((registers monitors id).getD m) else registers monitors id := by
  unfold registers
  rw [List.filter_cons]
  split
  · rw [List.getLast?_cons]
  · rfl

/-- What a resync registers is listed, under its id, and active. -/
theorem of_registers {monitors : List Monitor} {id : UInt64} {m : Monitor} (h : registers monitors id = some m) :
    m ∈ monitors ∧ active m = true ∧ m.id.val = id := by
  have hm := List.mem_of_getLast? h
  simp only [List.mem_filter, Bool.and_eq_true, decide_eq_true_eq] at hm
  exact hm

/-- The ids a resync keeps are the ones it registers. -/
theorem mem_seen_iff {monitors : List Monitor} {id : UInt64} :
    id ∈ (monitors.filter active).map (·.id.val) ↔ (registers monitors id).isSome := by
  rw [registers, List.getLast?_isSome, ← List.length_pos_iff, List.length_pos_iff_exists_mem]
  simp only [List.mem_map, List.mem_filter, Bool.and_eq_true, decide_eq_true_eq, and_assoc]

/-- The entry of a monitor after a resync: it keeps its deadline and counters if there was one, and is made if there was none. -/
def resyncedState (now : Instant) (state : Option MonitorState) (m : Monitor) : MonitorState :=
  match state with
  | some state => { state with monitor := m }
  | none => ⟨m, now, FlapState.default⟩

/-- One turn of the loop: a monitor that is active gets its entry, and an entry that is made leaves an event. -/
theorem resyncStep_eq (now : Instant) (acc : ResyncLoop) (m : Monitor) :
    (resyncStep now acc m).registry =
        (if active m then
          acc.registry.insert m.id.val (resyncedState now (acc.registry.lookup m.id.val) m)
        else acc.registry) ∧
      (resyncStep now acc m).events =
        acc.events ++ if active m ∧ acc.registry.lookup m.id.val = none then [.registered m.id.val] else [] := by
  unfold resyncStep active
  split
  · rename_i hv
    simp only [Bool.not_eq_true'] at hv
    simp [hv]
  · rename_i hv
    simp only [Bool.not_eq_true', Bool.not_eq_false] at hv
    split
    · rename_i hs
      simp [hs]
    · rename_i hs
      split
      · rename_i state hr
        simp [hv, hs, hr, resyncedState]
      · rename_i hr
        simp [hv, hs, hr, resyncedState]

theorem lookup_resyncStep (now : Instant) (acc : ResyncLoop) (m : Monitor) (id : UInt64) :
    (resyncStep now acc m).registry.lookup id =
      if active m && decide (m.id.val = id) then some (resyncedState now (acc.registry.lookup id) m)
      else acc.registry.lookup id := by
  rw [(resyncStep_eq now acc m).1]
  by_cases ha : active m = true
  · simp only [ha, if_true, HashMap.lookup_insert, Bool.true_and, decide_eq_true_eq]
    by_cases hid : m.id.val = id
    · subst hid
      simp
    · simp [hid, Ne.symm hid]
  · simp [ha]

/-- The loop of a resync, from any point on: what it registers, over what is there. -/
theorem lookup_foldl_resyncStep (now : Instant) (id : UInt64) :
    ∀ (monitors : List Monitor) (acc : ResyncLoop),
      (monitors.foldl (resyncStep now) acc).registry.lookup id =
        match registers monitors id with
        | none => acc.registry.lookup id
        | some m => some (resyncedState now (acc.registry.lookup id) m)
  | [], acc => rfl
  | m :: monitors, acc => by
    rw [List.foldl_cons, lookup_foldl_resyncStep now id monitors, lookup_resyncStep, registers_cons]
    by_cases hm : (active m && decide (m.id.val = id)) = true
    · simp only [hm, if_true]
      cases registers monitors id with
      | none => rfl
      | some m' => cases acc.registry.lookup id <;> rfl
    · simp only [hm, Bool.false_eq_true, if_false]

/-- The events of a resync tell of entries made, each under an id that had none. -/
theorem mem_events_foldl_resyncStep {now : Instant} {e : Event} :
    ∀ {monitors : List Monitor} {acc : ResyncLoop}, e ∈ (monitors.foldl (resyncStep now) acc).events →
      e ∈ acc.events ∨ ∃ id, e = .registered id ∧ acc.registry.lookup id = none ∧ (registers monitors id).isSome
  | [], acc, h => Or.inl h
  | m :: monitors, acc, h => by
    rcases mem_events_foldl_resyncStep (List.foldl_cons .. ▸ h) with h | ⟨id, rfl, hl, hr⟩
    · rw [(resyncStep_eq now acc m).2, List.mem_append] at h
      rcases h with h | h
      · exact Or.inl h
      · split at h
        · rename_i hm
          rw [List.mem_singleton.mp h]
          exact Or.inr ⟨m.id.val, rfl, hm.2, by simp [registers_cons, hm.1]⟩
        · cases h
    · rw [lookup_resyncStep] at hl
      split at hl
      · cases hl
      · rename_i hm
        exact Or.inr ⟨id, rfl, hl, by rwa [registers_cons, if_neg hm]⟩

/-- The registry after a resync. -/
theorem lookup_resync (s : Scheduler) (now : Instant) (monitors : List Monitor) (id : UInt64) :
    (s.resync now monitors).1.registry.lookup id =
      (registers monitors id).map (resyncedState now (s.registry.lookup id)) := by
  simp only [resync, lookup_foldl_resyncStep, HashMap.lookup_retain]
  cases h : registers monitors id with
  | none =>
    have hn : ¬ id ∈ (monitors.filter active).map (·.id.val) := by simp [mem_seen_iff, h]
    simp only [hn, decide_false, Option.map_none]
    cases s.registry.lookup id <;> rfl
  | some m =>
    have hs : id ∈ (monitors.filter active).map (·.id.val) := by simp [mem_seen_iff, h]
    simp only [hs, decide_true, Option.map_some]
    cases s.registry.lookup id <;> rfl

/-- An entry that a resync makes is of a monitor that had none. -/
theorem of_mem_events_resync {s : Scheduler} {now : Instant} {monitors : List Monitor} {e : Event}
    (h : e ∈ (s.resync now monitors).2) : ∃ id, e = .registered id ∧ s.registry.lookup id = none := by
  rcases mem_events_foldl_resyncStep h with h | ⟨id, rfl, hl, hr⟩
  · cases h
  · refine ⟨id, rfl, ?_⟩
    rw [HashMap.lookup_retain] at hl
    cases hs : s.registry.lookup id with
    | none => rfl
    | some state =>
      have hseen : id ∈ (monitors.filter active).map (·.id.val) := mem_seen_iff.mpr hr
      simp [hs, hseen] at hl

/-- A projection of the events that has nothing for entries made has nothing for a resync. -/
theorem filterMap_resync {β : Type} {f : Event → Option β} (hf : ∀ id, f (.registered id) = none) (s : Scheduler) (now : Instant)
    (monitors : List Monitor) : (s.resync now monitors).2.filterMap f = [] := by
  rw [List.filterMap_eq_nil_iff]
  intro e he
  obtain ⟨id, rfl, -⟩ := of_mem_events_resync he
  exact hf id

/-! ## Dispatch -/

/-- What the factory makes of a monitor's target and kind. -/
def builds (factory : Option K8sCollectorFactory) (m : Monitor) : Option K8sCollector :=
  match factory, parseK8sTarget m.target with
  | some factory, some (cluster, ns, name) => (factory.collectorFor cluster ns name m.kind).toOption
  | _, _ => none

/-- A collector comes from the ones kept, or it is built and kept. -/
theorem collector_eq_ok {s s' : Scheduler} {monitorId : MonitorId} {m : Monitor} {kept : KeptCollector}
    (h : s.collector monitorId m = (s', .ok kept)) :
    s.k8sCollectors.lookup monitorId.val = some kept ∧ s' = s ∨
      ∃ c, builds s.k8sFactory m = some c ∧ kept = ⟨c, monitorId.origin⟩ ∧
        s' = { s with k8sCollectors := s.k8sCollectors.insert monitorId.val kept } := by
  unfold collector at h
  split at h
  · rename_i kept' hc
    cases h
    exact Or.inl ⟨hc, rfl⟩
  · split at h
    · rename_i factory cluster ns name hf hp
      split at h
      · rename_i c hc
        cases h
        exact Or.inr ⟨c, by simp [builds, hf, hp, hc, Except.toOption], rfl, rfl⟩
      · cases h
    · cases h
    · cases h

/-- Without a collector nothing is kept. -/
theorem collector_eq_error {s s' : Scheduler} {monitorId : MonitorId} {m : Monitor} {reason : String}
    (h : s.collector monitorId m = (s', .error reason)) : s' = s := by
  unfold collector at h
  split at h
  · cases h
  · split at h
    · split at h
      · cases h
      · cases h
        rfl
    · cases h
      rfl
    · cases h
      rfl

/-- What the dispatch of one due monitor can do. -/
inductive Dispatches (now : Instant) (d : Dispatch) (id : UInt64) : Dispatch → Prop where
  | unknown (hr : d.scheduler.registry.lookup id = none) : Dispatches now d id d
  | queued {state agentId kind} (hr : d.scheduler.registry.lookup id = some state) (ha : state.monitor.agentId = some agentId)
      (hk : NetworkProbeKind.tryFrom state.monitor.kind = some kind) :
      Dispatches now d id
        { scheduler := { d.scheduler.advance now id state with
            assignments := d.scheduler.assignments.enqueue agentId
              ⟨⟨id, state.monitor.id.origin⟩, state.monitor.target, state.monitor.kind⟩ }
          tasks := d.tasks
          events := d.events ++
            [.enqueued agentId ⟨⟨id, state.monitor.id.origin⟩, state.monitor.target, state.monitor.kind⟩] }
  | probed {state kind} (hr : d.scheduler.registry.lookup id = some state)
      (hk : NetworkProbeKind.tryFrom state.monitor.kind = some kind) (ha : state.monitor.agentId = none) :
      Dispatches now d id
        (Dispatch.spawn { d with scheduler := d.scheduler.advance now id state }
          (.network ⟨id, state.monitor.id.origin⟩ kind state.monitor.target) (.network ⟨id, state.monitor.id.origin⟩))
  | left {state} (hr : d.scheduler.registry.lookup id = some state)
      (hk : NetworkProbeKind.tryFrom state.monitor.kind = none) (hh : state.monitor.kind = .hostAgentCheck) :
      Dispatches now d id { d with scheduler := d.scheduler.advance now id state }
  | polledKept {state kept} (hr : d.scheduler.registry.lookup id = some state)
      (hc : d.scheduler.k8sCollectors.lookup id = some kept)
      (hk : NetworkProbeKind.tryFrom state.monitor.kind = none) (hh : state.monitor.kind ≠ .hostAgentCheck) :
      Dispatches now d id
        (Dispatch.spawn { d with scheduler := d.scheduler.advance now id state }
          (.poll ⟨id, kept.origin⟩ kept.collector) (.collector ⟨id, state.monitor.id.origin⟩))
  | polledBuilt {state c} (hr : d.scheduler.registry.lookup id = some state)
      (hc : builds d.scheduler.k8sFactory state.monitor = some c)
      (hk : NetworkProbeKind.tryFrom state.monitor.kind = none) (hh : state.monitor.kind ≠ .hostAgentCheck) :
      Dispatches now d id
        (Dispatch.spawn
          { d with scheduler := { d.scheduler.advance now id state with
              k8sCollectors := d.scheduler.k8sCollectors.insert id ⟨c, state.monitor.id.origin⟩ } }
          (.poll ⟨id, state.monitor.id.origin⟩ c) (.collector ⟨id, state.monitor.id.origin⟩))
  | unpolled {state reason} (hr : d.scheduler.registry.lookup id = some state)
      (hk : NetworkProbeKind.tryFrom state.monitor.kind = none) (hh : state.monitor.kind ≠ .hostAgentCheck) :
      Dispatches now d id
        (Dispatch.spawn { d with scheduler := d.scheduler.advance now id state }
          (.noCollector ⟨id, state.monitor.id.origin⟩ reason) (.collector ⟨id, state.monitor.id.origin⟩))

theorem dispatches_dispatchOne (now : Instant) (d : Dispatch) (id : UInt64) : Dispatches now d id (dispatchOne now d id) := by
  unfold dispatchOne
  cases hr : d.scheduler.registry.lookup id with
  | none => exact .unknown hr
  | some state =>
    simp only
    split
    · rename_i hk ha
      exact .queued hr ha hk
    · rename_i hk ha
      exact .probed hr hk ha
    · rename_i hk
      split
      · rename_i hh
        exact .left hr hk hh
      · rename_i hh
        unfold dispatchK8s
        split
        · rename_i s kept hc
          rcases collector_eq_ok hc with ⟨hkept, rfl⟩ | ⟨c, hbuilt, rfl, rfl⟩
          · exact .polledKept hr hkept hk hh
          · exact .polledBuilt hr hbuilt hk hh
        · rename_i s reason hc
          cases collector_eq_error hc
          exact .unpolled hr hk hh

/-- A due monitor that is registered has its deadline moved; nothing else happens to the registry. -/
theorem registry_dispatchOne (now : Instant) (d : Dispatch) (id : UInt64) :
    (dispatchOne now d id).scheduler.registry =
      (d.scheduler.registry.lookup id).elim d.scheduler.registry fun state => (d.scheduler.advance now id state).registry := by
  have hdis := dispatches_dispatchOne now d id
  generalize dispatchOne now d id = d' at hdis
  cases hdis with
  | unknown hr | queued hr ha | probed hr | left hr | polledKept hr hc | polledBuilt hr hc | unpolled hr =>
    rw [hr]
    rfl

/-- Every monitor is due once. -/
theorem nodup_dueIds (s : Scheduler) (now : Instant) : (s.dueIds now).Nodup :=
  List.NodupKeys.sublist List.filter_sublist s.registry.nodupKeys

/-- What holds before a dispatch and is kept by the dispatch of each due monitor holds after it. -/
theorem dispatchDue_invariant {P : Dispatch → Prop} {s : Scheduler} {tasks : Tasks} {now : Instant} {due : List UInt64}
    (h0 : P ⟨s, tasks, []⟩) (hstep : ∀ d id d', P d → Dispatches now d id d' → P d') : P (s.dispatchDue tasks now due) :=
  List.foldlRecOn due (dispatchOne now) h0 fun d hd id _ => hstep d id _ hd (dispatches_dispatchOne now d id)

/-- A dispatch moves deadlines: what does not look at them sees the entries as they were. -/
theorem lookup_dispatchDue {β : Type} (f : MonitorState → β) (hf : ∀ state t, f { state with nextCheckAt := t } = f state)
    (s : Scheduler) (tasks : Tasks) (now : Instant) (due : List UInt64) (id : UInt64) :
    ((s.dispatchDue tasks now due).scheduler.registry.lookup id).map f = (s.registry.lookup id).map f := by
  refine List.foldlRecOn (motive := fun d => (d.scheduler.registry.lookup id).map f = (s.registry.lookup id).map f)
    due (dispatchOne now) ?_ fun d hd k _ => ?_
  · rfl
  rw [registry_dispatchOne, ← hd]
  cases hk : d.scheduler.registry.lookup k with
  | none => rfl
  | some state =>
    simp only [Option.elim_some, advance, HashMap.lookup_insert]
    split
    · rename_i hid
      subst hid
      rw [hk, Option.map_some, Option.map_some, hf]
    · rfl

/-- A dispatch leaves the registry as it is otherwise. -/
theorem of_lookup_dispatchDue {s : Scheduler} {tasks : Tasks} {now : Instant} {due : List UInt64} {k : UInt64}
    {state' : MonitorState} (h : (s.dispatchDue tasks now due).scheduler.registry.lookup k = some state') :
    ∃ state, s.registry.lookup k = some state ∧ state'.monitor = state.monitor ∧ state'.flap = state.flap := by
  have hview := lookup_dispatchDue (fun state => (state.monitor, state.flap)) (fun _ _ => rfl) s tasks now due k
  rw [h, Option.map_some] at hview
  obtain ⟨state, hr, heq⟩ := Option.map_eq_some_iff.mp hview.symm
  obtain ⟨hm, hf⟩ := Prod.mk.injEq .. ▸ heq
  exact ⟨state, hr, hm.symm, hf.symm⟩

/-- A dispatch spawns tasks and queues assignments. -/
theorem of_mem_events_dispatchDue {s : Scheduler} {tasks : Tasks} {now : Instant} {due : List UInt64} {e : Event}
    (h : e ∈ (s.dispatchDue tasks now due).events) :
    (∃ task, e = .spawned task) ∨ ∃ agentId assignment, e = .enqueued agentId assignment := by
  refine dispatchDue_invariant (P := fun d => ∀ e ∈ d.events,
    (∃ task, e = .spawned task) ∨ ∃ agentId assignment, e = .enqueued agentId assignment) ?_ ?_ e h
  · exact fun e h => absurd h List.not_mem_nil
  · intro d id d' hd hdis e he
    have hsnoc : ∀ e', e ∈ d.events ++ [e'] → e ∈ d.events ∨ e = e' := by simp
    cases hdis with
    | unknown => exact hd e he
    | left => exact hd e he
    | queued =>
      rcases hsnoc _ he with he | rfl
      · exact hd e he
      · exact Or.inr ⟨_, _, rfl⟩
    | probed | polledKept | polledBuilt | unpolled =>
      rcases hsnoc _ he with he | rfl
      · exact hd e he
      · exact Or.inl ⟨_, rfl⟩

/-- A projection that has nothing for tasks and assignments has nothing for a dispatch. -/
theorem filterMap_dispatchDue {β : Type} {f : Event → Option β} (hspawned : ∀ task, f (.spawned task) = none)
    (henqueued : ∀ agentId assignment, f (.enqueued agentId assignment) = none) (s : Scheduler) (tasks : Tasks) (now : Instant)
    (due : List UInt64) : (s.dispatchDue tasks now due).events.filterMap f = [] := by
  rw [List.filterMap_eq_nil_iff]
  intro e he
  rcases of_mem_events_dispatchDue he with ⟨task, rfl⟩ | ⟨agentId, assignment, rfl⟩
  · exact hspawned task
  · exact henqueued agentId assignment

/-! ## The queues of assignments -/

/-- An assignment queued for an agent was queued before, or is the one queued now. -/
theorem of_enqueue {h : AssignmentHandle} {agentId agentId' : UInt64} {a a' : Assignment} {queue : List Assignment}
    (hq : (h.enqueue agentId a).queues.lookup agentId' = some queue) (ha : a' ∈ queue) :
    a' = a ∨ ∃ queue₀, h.queues.lookup agentId' = some queue₀ ∧ a' ∈ queue₀ := by
  simp only [AssignmentHandle.enqueue, HashMap.lookup_insert] at hq
  split at hq
  · rename_i hid
    subst hid
    cases hq
    rcases List.mem_append.mp ha with ha | ha
    · right
      have ha' : a' ∈ (h.queues.lookup agentId').getD [] := by
        split at ha
        · exact List.mem_of_mem_drop ha
        · exact ha
      cases hl : h.queues.lookup agentId' with
      | none => simp [hl] at ha'
      | some queue₀ => exact ⟨queue₀, rfl, by simpa [hl] using ha'⟩
    · exact Or.inl (List.mem_singleton.mp ha)
  · exact Or.inr ⟨queue, hq, ha⟩

/-- What an agent pulls was queued, and so is what is left. -/
theorem of_drain (h : AssignmentHandle) (agentId : UInt64) :
    (∀ agentId' queue, (h.drain agentId).1.queues.lookup agentId' = some queue → ∀ a ∈ queue,
      ∃ queue₀, h.queues.lookup agentId' = some queue₀ ∧ a ∈ queue₀) ∧
    ∀ a ∈ (h.drain agentId).2, ∃ queue₀, h.queues.lookup agentId = some queue₀ ∧ a ∈ queue₀ := by
  unfold AssignmentHandle.drain
  cases hl : h.queues.lookup agentId with
  | none => exact ⟨fun agentId' queue hq a ha => ⟨queue, hq, ha⟩, fun a ha => by cases ha⟩
  | some queue₀ =>
    refine ⟨fun agentId' queue hq a ha => ?_, fun a ha => ⟨queue₀, rfl, ha⟩⟩
    simp only [HashMap.lookup_insert] at hq
    split at hq
    · cases hq
      cases ha
    · exact ⟨queue, hq, ha⟩

end Scheduler

end Monitra
