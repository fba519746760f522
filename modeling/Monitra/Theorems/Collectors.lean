import Mathlib.Data.List.TakeWhile
import Monitra.Lemmas.Steps

/-!
# The cache of collectors

A collector is built from the target and the kind a monitor has in the registry, and kept under the monitor's id. A resync
replaces the monitors of the registry and keeps the collectors by id, so a collector stays when its monitor's target changes,
or when the id passes to another monitor.
-/

namespace Monitra

open Runs

/-- Whether the scheduler polls a collector for monitors of this kind. -/
def MonitorKind.polled (kind : MonitorKind) : Bool := NetworkProbeKind.tryFrom kind = none ∧ kind ≠ .hostAgentCheck

/-- The collectors polled are the right ones: a collector polled for a monitor is the one the factory builds from the target
and the kind that the monitor has in the registry at the dispatch. The steps of the run are those that meet the condition. -/
def CollectorsCoherent (cfg : EngineConfig) (ok : System → Action → Bool) : Prop :=
  ∀ (k8sFactory : Option K8sCollectorFactory) (db : Db) (s s' : System) (log ev : List Event) (a : Action),
    Run (System.step cfg) (fun s a => ok s a = true) (System.start cfg k8sFactory db) s log →
    ok s a = true → s.step cfg a = some (s', ev) →
    ∀ task m c, Event.spawned ⟨task, .poll m c⟩ ∈ ev →
      ∃ state, s.scheduler.registry.lookup m.val = some state ∧ Scheduler.builds k8sFactory state.monitor = some c

/-- The condition. No resync gives an id whose collector is kept a monitor from which the factory would build another. -/
def collectorsKept (s : System) : Action → Bool
  | .scheduler .listReturned =>
    match s.pc with
    | .listed (.ok monitors) _ =>
      s.scheduler.k8sCollectors.entries.all fun e =>
        (Scheduler.registers monitors e.1).all fun m =>
          !m.kind.polled || decide (Scheduler.builds s.scheduler.k8sFactory m = some e.2.collector)
    | _ => true
  | _ => true

namespace CollectorsAux

open Scheduler

/-- Every collector kept under the id of a registered monitor that is polled is the one the factory builds from it. -/
structure Inv (k8sFactory : Option K8sCollectorFactory) (s : Scheduler) : Prop where
  factory : s.k8sFactory = k8sFactory
  kept : ∀ id kept state, s.k8sCollectors.lookup id = some kept → s.registry.lookup id = some state →
    state.monitor.kind.polled = true → builds k8sFactory state.monitor = some kept.collector

/-- A change of the registry that keeps the targets and the kinds keeps the collectors right. -/
theorem Inv.of_registry {k8sFactory : Option K8sCollectorFactory} {s s' : Scheduler} (hI : Inv k8sFactory s)
    (hf : s'.k8sFactory = s.k8sFactory) (hc : s'.k8sCollectors = s.k8sCollectors)
    (hr : ∀ id state', s'.registry.lookup id = some state' → ∃ state, s.registry.lookup id = some state ∧
      state'.monitor.target = state.monitor.target ∧ state'.monitor.kind = state.monitor.kind) : Inv k8sFactory s' where
  factory := hf.trans hI.factory
  kept id c state' hkept hreg hpolled := by
    obtain ⟨state, hreg', ht, hk⟩ := hr id state' hreg
    have hb := hI.kept id c state (hc ▸ hkept) hreg' (hk ▸ hpolled)
    simpa only [builds, ht, hk] using hb

theorem inv_handle {k8sFactory : Option K8sCollectorFactory} {s : Scheduler} (wall : UInt64) (cause : Handled)
    (hI : Inv k8sFactory s) : Inv k8sFactory (s.handle wall cause).scheduler := by
  have hframe := handle_frame s wall cause
  refine hI.of_registry (congrArg (·.k8sFactory) hframe) (congrArg (·.k8sCollectors) hframe) fun id state' hr' => ?_
  obtain ⟨state, hr, -, hm⟩ := of_lookup_handle hr'
  rw [hm]
  exact ⟨state, hr, rfl, rfl⟩

theorem inv_resync {k8sFactory : Option K8sCollectorFactory} {s : Scheduler} {now : Instant} {monitors : List Monitor}
    (hI : Inv k8sFactory s)
    (hok : ∀ id kept m, s.k8sCollectors.lookup id = some kept → registers monitors id = some m → m.kind.polled = true →
      builds k8sFactory m = some kept.collector) : Inv k8sFactory (s.resync now monitors).1 := by
  refine ⟨hI.factory, fun id c state hkept hreg hpolled => ?_⟩
  rw [lookup_resync] at hreg
  obtain ⟨m, hm, rfl⟩ := Option.map_eq_some_iff.mp hreg
  have hmon : ∀ st, (resyncedState now st m).monitor = m := by
    intro st
    cases st <;> rfl
  rw [hmon] at hpolled ⊢
  simp only [resync, HashMap.lookup_retain, Option.filter_eq_some_iff] at hkept
  exact hok id c m hkept.1 hm hpolled

/-- Moving a deadline leaves the monitors of the registry as they are. -/
theorem of_lookup_advance {s : Scheduler} {now : Instant} {id k : UInt64} {state state' : MonitorState}
    (hr : s.registry.lookup id = some state) (h : (s.advance now id state).registry.lookup k = some state') :
    ∃ st, s.registry.lookup k = some st ∧ state'.monitor = st.monitor := by
  simp only [advance, HashMap.lookup_insert] at h
  split at h
  · rename_i hk
    subst hk
    cases h
    exact ⟨state, hr, rfl⟩
  · exact ⟨state', h, rfl⟩

theorem inv_advance {k8sFactory : Option K8sCollectorFactory} {s : Scheduler} (now : Instant) {id : UInt64}
    {state : MonitorState} (hI : Inv k8sFactory s) (hr : s.registry.lookup id = some state) :
    Inv k8sFactory (s.advance now id state) := by
  refine hI.of_registry rfl rfl fun k state' h => ?_
  obtain ⟨st, hst, hm⟩ := of_lookup_advance hr h
  exact ⟨st, hst, by rw [hm], by rw [hm]⟩

/-- What a dispatch keeps, up to some due monitor: the collectors are right, the monitors of the registry are the ones before
the dispatch, and the collectors polled so far were right for these. -/
structure DispatchInv (k8sFactory : Option K8sCollectorFactory) (s : Scheduler) (d : Dispatch) : Prop where
  inv : Inv k8sFactory d.scheduler
  monitors : ∀ k state', d.scheduler.registry.lookup k = some state' →
    ∃ state, s.registry.lookup k = some state ∧ state'.monitor = state.monitor
  polled : ∀ task m c, Event.spawned ⟨task, .poll m c⟩ ∈ d.events →
    ∃ state, s.registry.lookup m.val = some state ∧ builds k8sFactory state.monitor = some c

theorem dispatchInv_step {k8sFactory : Option K8sCollectorFactory} {s : Scheduler} {now : Instant} {d d' : Dispatch}
    {id : UInt64} (hd : DispatchInv k8sFactory s d) (h : Dispatches now d id d') : DispatchInv k8sFactory s d' := by
  have hmon : ∀ {state}, d.scheduler.registry.lookup id = some state → ∀ k state',
      (d.scheduler.advance now id state).registry.lookup k = some state' →
      ∃ state, s.registry.lookup k = some state ∧ state'.monitor = state.monitor := by
    intro state hr k state' h
    obtain ⟨st, hst, hm⟩ := of_lookup_advance hr h
    obtain ⟨st', hst', hm'⟩ := hd.monitors k st hst
    exact ⟨st', hst', hm.trans hm'⟩
  -- a collector polled for the due monitor is right when it is what the factory builds from it
  have hpoll : ∀ {state c}, d.scheduler.registry.lookup id = some state → builds k8sFactory state.monitor = some c →
      ∀ origin task m c', Event.spawned ⟨task, .poll m c'⟩ ∈
        d.events ++ [.spawned ⟨d.tasks.nextId, .poll ⟨id, origin⟩ c⟩] →
      ∃ state, s.registry.lookup m.val = some state ∧ builds k8sFactory state.monitor = some c' := by
    intro state c hr hb origin task m c' hmem
    rcases List.mem_append.mp hmem with hmem | hmem
    · exact hd.polled task m c' hmem
    · cases List.mem_singleton.mp hmem
      obtain ⟨st, hst, hm⟩ := hd.monitors id state hr
      exact ⟨st, hst, hm ▸ hb⟩
  have hother : ∀ e, (∀ task m c, e ≠ Event.spawned ⟨task, .poll m c⟩) → ∀ task m c,
      Event.spawned ⟨task, .poll m c⟩ ∈ d.events ++ [e] →
      ∃ state, s.registry.lookup m.val = some state ∧ builds k8sFactory state.monitor = some c := by
    intro e he task m c hmem
    rcases List.mem_append.mp hmem with hmem | hmem
    · exact hd.polled task m c hmem
    · exact absurd (List.mem_singleton.mp hmem).symm (he task m c)
  cases h with
  | unknown hr => exact hd
  | left hr => exact ⟨inv_advance now hd.inv hr, hmon hr, hd.polled⟩
  | queued hr ha =>
    exact ⟨⟨(inv_advance now hd.inv hr).factory, (inv_advance now hd.inv hr).kept⟩, hmon hr,
      hother _ (by simp)⟩
  | probed hr => exact ⟨inv_advance now hd.inv hr, hmon hr, hother _ (by simp)⟩
  | unpolled hr => exact ⟨inv_advance now hd.inv hr, hmon hr, hother _ (by simp)⟩
  | @polledKept state kept hr hc hk hh =>
    have hb := hd.inv.kept id kept state hc hr (by simp [MonitorKind.polled, hk, hh])
    exact ⟨inv_advance now hd.inv hr, hmon hr, hpoll hr hb _⟩
  | @polledBuilt state c hr hb =>
    rw [hd.inv.factory] at hb
    refine ⟨⟨hd.inv.factory, fun k c' state' hkept hreg hpolled => ?_⟩, hmon hr, hpoll hr hb _⟩
    obtain ⟨st, hst, hm⟩ := of_lookup_advance hr hreg
    have hkept' : (d.scheduler.k8sCollectors.insert id ⟨c, state.monitor.id.origin⟩).lookup k = some c' := hkept
    rw [HashMap.lookup_insert] at hkept'
    split at hkept'
    · rename_i hk
      subst hk
      cases hkept'
      cases hr.symm.trans hst
      rw [hm]
      exact hb
    · rw [hm] at hpolled ⊢
      exact hd.inv.kept k c' st hkept' hst hpolled

/-- A dispatch keeps the collectors right, and polls the right ones. -/
theorem inv_dispatchDue {k8sFactory : Option K8sCollectorFactory} {s : Scheduler} (tasks : Tasks) (now : Instant)
    (due : List UInt64) (hI : Inv k8sFactory s) : DispatchInv k8sFactory s (s.dispatchDue tasks now due) := by
  refine dispatchDue_invariant ⟨hI, fun k state' h => ⟨state', h, rfl⟩, fun task m c h => ?_⟩ ?_
  · cases h
  · exact fun d id d' hd h => dispatchInv_step hd h

/-- Every step that meets the condition keeps the collectors right. -/
theorem inv_step {k8sFactory : Option K8sCollectorFactory} {cfg : EngineConfig} {s s' : System} {a : Action}
    {ev : List Event} (hI : Inv k8sFactory s.scheduler) (hok : collectorsKept s a = true) (he : Effect cfg s a s' ev) :
    Inv k8sFactory s'.scheduler := by
  cases he with
  | @resynced monitors after hpc =>
    refine inv_resync hI fun id c m hc hm hpolled => ?_
    simp only [collectorsKept, hpc, List.all_eq_true, hI.factory] at hok
    have hmem := hok ⟨id, c⟩ (AList.mem_lookup_iff.mp hc)
    simpa [hm, hpolled] using hmem
  | handled hpc => exact inv_handle _ _ hI
  | dispatched hpc => exact (inv_dispatchDue _ _ _ hI).inv
  | pulled => exact ⟨hI.factory, hI.kept⟩
  | _ => exact hI

/-- Tasks are spawned by dispatches only. -/
theorem dispatched_of_spawned {cfg : EngineConfig} {s s' : System} {a : Action} {ev : List Event} {task : Task}
    (he : Effect cfg s a s' ev) (h : Event.spawned task ∈ ev) :
    ∃ due, ev = (s.scheduler.dispatchDue s.tasks s.clock due).events := by
  cases he with
  | @dispatched due hpc => exact ⟨due, rfl⟩
  | resynced hpc =>
    obtain ⟨id, hreg, -⟩ := of_mem_events_resync h
    cases hreg
  | @handled cause hpc =>
    have hh := handles_handle s.scheduler s.wall cause
    generalize s.scheduler.handle s.wall cause = x at h hh
    cases hh <;> simp at h
  | wrote hpc | notWritten hpc =>
    simp only [List.mem_cons, reduceCtorEq, false_or, Persist.resume] at h
    split at h <;> simp at h
  | demoted | notDemoted => simp at h
  | _ => cases h

end CollectorsAux

/-- The condition is enough: the collectors polled are the right ones when no resync makes one of those kept the wrong one. -/
theorem collectors_coherent_when_kept (cfg : EngineConfig) : CollectorsCoherent cfg collectorsKept := by
  intro k8sFactory db s s' log ev a h hok hs task m c hmem
  have hI : CollectorsAux.Inv k8sFactory s.scheduler :=
    h.stateInvariant (I := fun s => CollectorsAux.Inv k8sFactory s.scheduler)
      ⟨rfl, fun id c state hc => by
        rw [System.start, Scheduler.new, HashMap.lookup_empty] at hc
        cases hc⟩
      fun _ _ _ _ hI hok hs => CollectorsAux.inv_step hI hok (effect_of_step hs)
  obtain ⟨due, rfl⟩ := CollectorsAux.dispatched_of_spawned (effect_of_step hs) hmem
  exact (CollectorsAux.inv_dispatchDue _ _ _ hI).polled task m c hmem

/-! ## Two runs -/

/-- A Kubernetes monitor is added, registered and polled, and another target is given to it. -/
def polledThenEdited : List Action := [
  .user (.addMonitor "api" "prod/web/api" .k8sDeployment 60 none fun _ => 0),
  .scheduler (.listMonitors false), .scheduler .listReturned, .scheduler (.dispatchDue [1]),
  .user (.editMonitor 1 none (some "prod/web/worker") none none)]

/-- A resync, and the time of the next poll. -/
def resyncedThenDue : List Action := [
  .scheduler .resyncTick, .scheduler (.listMonitors false), .scheduler .listReturned, .advance (Duration.fromSecs 60)]

/-- The wrong collector is polled: after the edit and a resync the monitor's target is `prod/web/worker`, and the collector of
`prod/web/api` is polled for it. -/
theorem stale_collector_polled : ¬ CollectorsCoherent EngineConfig.default always := by
  intro h
  let step := System.step EngineConfig.default
  let factory := some (Factory ["prod"])
  let s₀ := System.start EngineConfig.default factory Db.empty
  let x := after step always s₀ (polledThenEdited ++ resyncedThenDue)
  let x' := after step always x.1 [.scheduler (.dispatchDue [1])]
  have hr : Run step (fun s a => always s a = true) s₀ x.1 x.2 := run_after (by decide +kernel)
  have hs := step_after step always x.1 (.scheduler (.dispatchDue [1])) (by decide +kernel)
  have hmem : Event.spawned ⟨1, .poll ⟨1, 0⟩ ⟨"prod", "web", "api", .k8sDeployment⟩⟩ ∈ x'.2 := by decide +kernel
  obtain ⟨state, hreg, hb⟩ := h factory Db.empty x.1 x'.1 x.2 x'.2 _ hr rfl hs.2 1 _ _ hmem
  have hwant : (x.1.scheduler.registry.lookup 1).all fun state =>
      decide (Scheduler.builds factory state.monitor = some ⟨"prod", "web", "worker", .k8sDeployment⟩) := by
    decide +kernel
  rw [hreg] at hwant
  simp only [Option.all_some, decide_eq_true_eq] at hwant
  exact absurd (hwant.symm.trans hb) (by decide)

/-- Without the edit the collector polled a minute later is the right one. -/
theorem kept_collector_polled :
    ∃ (s : System) (state : MonitorState), s.scheduler.registry.lookup 1 = some state ∧
      Scheduler.builds (some (Factory ["prod"])) state.monitor = some ⟨"prod", "web", "api", .k8sDeployment⟩ := by
  let step := System.step EngineConfig.default
  let factory := some (Factory ["prod"])
  let s₀ := System.start EngineConfig.default factory Db.empty
  let x := after step collectorsKept s₀ (polledThenEdited.take 4 ++ resyncedThenDue)
  let x' := after step collectorsKept x.1 [.scheduler (.dispatchDue [1])]
  have hr : Run step (fun s a => collectorsKept s a = true) s₀ x.1 x.2 := run_after (by decide +kernel)
  have hs := step_after step collectorsKept x.1 (.scheduler (.dispatchDue [1]))
    (by decide +kernel)
  have hmem : Event.spawned ⟨1, .poll ⟨1, 0⟩ ⟨"prod", "web", "api", .k8sDeployment⟩⟩ ∈ x'.2 := by decide +kernel
  obtain ⟨state, hreg, hb⟩ := collectors_coherent_when_kept EngineConfig.default factory Db.empty x.1 x'.1 x.2 x'.2 _ hr hs.1
    hs.2 1 _ _ hmem
  exact ⟨x.1, state, hreg, hb⟩

/-! ## Targets -/

/-- The grammar of a target: a cluster and a namespace that are not empty and have no slash, and a name that is not empty. -/
structure IsTarget (target cluster ns name : String) : Prop where
  eq : target = cluster ++ "/" ++ ns ++ "/" ++ name
  cluster_ne : cluster ≠ ""
  ns_ne : ns ≠ ""
  name_ne : name ≠ ""
  cluster_free : '/' ∉ cluster.toList
  ns_free : '/' ∉ ns.toList

namespace TargetAux

/-- The part before the first separator is the first of the parts. -/
theorem splitn_append {sep : Char} {a : List Char} (h : sep ∉ a) (n : Nat) (rest : List Char) :
    splitn sep (n + 2) (a ++ sep :: rest) = a :: splitn sep (n + 1) rest := by
  have hpass : ∀ c ∈ a, (c != sep) = true := by
    intro c hc
    rw [bne_iff_ne]
    rintro rfl
    exact h hc
  have hdrop : (a ++ sep :: rest).dropWhile (· != sep) = sep :: rest := by
    rw [List.dropWhile_append_of_pos hpass, List.dropWhile_cons_of_neg (by simp)]
  have htake : (a ++ sep :: rest).takeWhile (· != sep) = a := by
    rw [List.takeWhile_append_of_pos hpass, List.takeWhile_cons_of_neg (by simp), List.append_nil]
  rw [splitn, hdrop, htake]

/-- Without a separator there is one part. -/
theorem splitn_of_not_mem {sep : Char} {l : List Char} (h : sep ∉ l) (n : Nat) : splitn sep (n + 1) l = [l] := by
  cases n with
  | zero => rfl
  | succ n =>
    have hdrop : l.dropWhile (· != sep) = [] := by
      rw [List.dropWhile_eq_nil_iff]
      intro c hc
      rw [bne_iff_ne]
      rintro rfl
      exact h hc
    rw [splitn, hdrop]

/-- Three parts are those before, between and after the first two separators. -/
theorem splitn_three_iff {sep : Char} {l a b c : List Char} :
    splitn sep 3 l = [a, b, c] ↔ l = a ++ sep :: (b ++ sep :: c) ∧ sep ∉ a ∧ sep ∉ b := by
  constructor
  · intro h
    by_cases hl : sep ∈ l
    · obtain ⟨a', rest, rfl, ha'⟩ := List.eq_append_cons_of_mem hl
      rw [splitn_append ha'] at h
      by_cases hrest : sep ∈ rest
      · obtain ⟨b', c', rfl, hb'⟩ := List.eq_append_cons_of_mem hrest
        rw [splitn_append hb'] at h
        cases h
        exact ⟨rfl, ha', hb'⟩
      · rw [splitn_of_not_mem hrest] at h
        cases h
    · rw [splitn_of_not_mem hl] at h
      cases h
  · rintro ⟨rfl, ha, hb⟩
    rw [splitn_append ha, splitn_append hb]
    rfl

/-- A target is parsed into the parts that the grammar finds in it. -/
theorem parseK8sTarget_eq_some_iff {target cluster ns name : String} :
    parseK8sTarget target = some (cluster, ns, name) ↔ IsTarget target cluster ns name := by
  have hempty : ∀ l : List Char, l.isEmpty = false ↔ String.ofList l ≠ "" := by
    intro l
    rw [List.isEmpty_eq_false_iff, ne_eq, ne_eq, ← String.toList_inj, String.toList_ofList]
    rfl
  constructor
  · intro h
    unfold parseK8sTarget at h
    split at h
    · rename_i a b c hsplit
      obtain ⟨htarget, ha, hb⟩ := splitn_three_iff.mp hsplit
      split at h
      · cases h
      · rename_i hne
        simp only [Bool.or_eq_true, not_or, Bool.not_eq_true, hempty] at hne
        cases h
        refine ⟨?_, hne.1.1, hne.1.2, hne.2, by rwa [String.toList_ofList], by rwa [String.toList_ofList]⟩
        rw [← String.toList_inj, htarget]
        simp
    · cases h
  · rintro ⟨rfl, hcluster, hns, hname, hcluster', hns'⟩
    have hsplit : splitn '/' 3 (cluster ++ "/" ++ ns ++ "/" ++ name).toList = [cluster.toList, ns.toList, name.toList] := by
      rw [splitn_three_iff]
      exact ⟨by simp, hcluster', hns'⟩
    unfold parseK8sTarget
    rw [hsplit]
    simp only [String.ofList_toList]
    rw [if_neg]
    simp only [Bool.or_eq_true, not_or, Bool.not_eq_true, hempty, String.ofList_toList]
    exact ⟨⟨hcluster, hns⟩, hname⟩

end TargetAux

/-- For every string: the parts parsed are those of a decomposition by the grammar, there is at most one decomposition, and the
result is none where there is none. -/
theorem parse_k8s_target_iff (target : String) :
    (∀ cluster ns name, parseK8sTarget target = some (cluster, ns, name) ↔ IsTarget target cluster ns name) ∧
      (∀ cluster ns name cluster' ns' name', IsTarget target cluster ns name → IsTarget target cluster' ns' name' →
        cluster = cluster' ∧ ns = ns' ∧ name = name') ∧
      ((¬∃ cluster ns name, IsTarget target cluster ns name) → parseK8sTarget target = none) := by
  refine ⟨fun _ _ _ => TargetAux.parseK8sTarget_eq_some_iff, ?_, fun hnone => ?_⟩
  · intro cluster ns name cluster' ns' name' h h'
    have hsome := TargetAux.parseK8sTarget_eq_some_iff.mpr h
    rw [TargetAux.parseK8sTarget_eq_some_iff.mpr h'] at hsome
    cases hsome
    exact ⟨rfl, rfl, rfl⟩
  · cases hparsed : parseK8sTarget target with
    | none => rfl
    | some parts => exact absurd ⟨_, _, _, TargetAux.parseK8sTarget_eq_some_iff.mp hparsed⟩ hnone

/-- A name with slashes, and two targets that are none. -/
theorem parse_k8s_target_slashes :
    parseK8sTarget "prod/web/a//b" = some ("prod", "web", "a//b") ∧ parseK8sTarget "/web/api" = none ∧
      parseK8sTarget "prod/web" = none := by
  refine ⟨((parse_k8s_target_iff _).1 _ _ _).mpr ?_, by decide +kernel, by decide +kernel⟩
  exact ⟨by decide +kernel, by decide, by decide, by decide, by decide +kernel, by decide +kernel⟩

end Monitra
