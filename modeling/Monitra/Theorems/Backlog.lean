import Monitra.Engine.Probing
import Monitra.Theorems.Tasks

/-!
# The backlog of probes

A dispatch looks at the deadlines only: a monitor that comes due while its last check still waits for a permit gets another
task. As long as every check comes back before its monitor is due again, the tasks are at most the monitors. When more checks
come due than the permits can serve, they pile up for as long as the daemon runs.
-/

namespace Monitra

open Runs

/-- The tasks of a monitor that are spawned and not joined. -/
def Tasks.outstanding (t : Tasks) (id : UInt64) : Nat := t.running.countP fun task => task.body.monitorId.val = id

/-- How many monitors are registered. -/
def System.registered (s : System) : Nat := s.scheduler.registry.keys.length

/-- Whether a due monitor is checked by a task of the scheduler. -/
def Scheduler.spawnsFor (m : Monitor) : Bool :=
  match NetworkProbeKind.tryFrom m.kind with
  | some _ => m.agentId.isNone
  | none => m.kind ≠ .hostAgentCheck

/-- No registered monitor has more outstanding tasks than the bound, and the others have none. -/
def System.Bounded (bound : Nat) (s : System) : Prop :=
  ∀ id, s.tasks.outstanding id ≤ if (s.scheduler.registry.lookup id).isSome then bound else 0

/-- The condition. A dispatch finds fewer outstanding tasks than the bound of every due monitor it spawns one for, and a resync
drops no monitor of which there is one. -/
def tasksComeBack (bound : Nat) (s : System) : Action → Bool
  | .scheduler (.dispatchDue due) =>
    due.all fun id => (s.scheduler.registry.lookup id).all fun state =>
      !Scheduler.spawnsFor state.monitor || decide (s.tasks.outstanding id < bound)
  | .scheduler .listReturned =>
    match s.pc with
    | .listed (.ok monitors) _ => s.tasks.running.all fun task => (Scheduler.registers monitors task.body.monitorId.val).isSome
    | _ => true
  | _ => true

/-- The condition on a step of the daemon with its tasks. -/
def probesComeBack (bound : Nat) (p : Probing) : ProbingAction → Bool
  | .system a => tasksComeBack bound p.system a
  | _ => true

namespace BacklogAux

open Scheduler

/-! ## A bounded backlog -/

/-- Items whose labels are among some keys, at most `bound` under each, are at most `bound` times the keys. -/
theorem length_le_of_countP_le {α κ : Type} [DecidableEq κ] {f : α → κ} {bound : Nat} :
    ∀ {keys : List κ} {l : List α}, (∀ x ∈ l, f x ∈ keys) → (∀ k, l.countP (fun x => f x = k) ≤ bound) →
      l.length ≤ bound * keys.length
  | [], l, hmem, _ => by
    have hnil : l = [] := List.eq_nil_iff_forall_not_mem.mpr fun x hx => List.not_mem_nil (hmem x hx)
    rw [hnil, List.length_nil]
    exact Nat.zero_le _
  | k :: keys, l, hmem, hbound => by
    have hrest : (l.filter fun x => !decide (f x = k)).length ≤ bound * keys.length := by
      refine length_le_of_countP_le (f := f) (fun x hx => ?_) fun k' => ?_
      · obtain ⟨hx, hk⟩ := List.mem_filter.mp hx
        rcases List.mem_cons.mp (hmem x hx) with hxk | hxk
        · simp [hxk] at hk
        · exact hxk
      · exact (List.Sublist.countP_le List.filter_sublist).trans (hbound k')
    have hsplit : l.length = l.countP (fun x => f x = k) + (l.filter fun x => !decide (f x = k)).length := by
      simpa [List.countP_eq_length_filter] using List.length_eq_countP_add_countP (fun x => decide (f x = k)) (l := l)
    have hk := hbound k
    rw [List.length_cons, Nat.mul_succ]
    omega

/-- In a bounded state the tasks are at most the bound times the registered monitors. -/
theorem length_le_of_bounded {bound : Nat} {s : System} (h : s.Bounded bound) :
    s.tasks.running.length ≤ bound * s.registered := by
  refine length_le_of_countP_le (f := fun task : Task => task.body.monitorId.val) (fun task ht => ?_) fun id => ?_
  · have hle := h task.body.monitorId.val
    have hpos : 0 < s.tasks.outstanding task.body.monitorId.val :=
      List.countP_pos_iff.mpr ⟨task, ht, decide_eq_true rfl⟩
    rw [← AList.mem_keys, ← AList.lookup_isSome]
    split at hle
    · rename_i hr
      exact hr
    · omega
  · refine (h id).trans ?_
    split
    · exact le_rfl
    · exact Nat.zero_le _

/-- The dispatch of one monitor spawns a task of it if it is registered and checked here, and none otherwise. -/
theorem outstanding_dispatchOne (now : Instant) (d : Dispatch) (k id : UInt64) :
    (dispatchOne now d k).tasks.outstanding id =
      d.tasks.outstanding id +
        if id = k ∧ (d.scheduler.registry.lookup k).any (fun state => spawnsFor state.monitor) then 1 else 0 := by
  have hspawn : ∀ (s' : Scheduler) (body : TaskBody) owner, body.monitorId.val = k →
      (Dispatch.spawn { d with scheduler := s' } body owner).tasks.outstanding id =
        d.tasks.outstanding id + if id = k then 1 else 0 := by
    intro s' body owner hb
    simp only [Dispatch.spawn, Tasks.spawn, Tasks.outstanding, List.countP_append, List.countP_singleton, hb, decide_eq_true_eq]
    simp only [eq_comm (a := id)]
  have hdis := dispatches_dispatchOne now d k
  generalize dispatchOne now d k = d' at hdis
  cases hdis with
  | unknown hr => simp [hr]
  | queued hr ha hk => simp [hr, spawnsFor, hk, ha]
  | left hr hk hh => simp [hr, spawnsFor, hh, NetworkProbeKind.tryFrom]
  | probed hr hk ha => rw [hspawn _ _ _ rfl]; simp [hr, spawnsFor, hk, ha]
  | polledKept hr hc hk hh => rw [hspawn _ _ _ rfl]; simp [hr, spawnsFor, hk, hh]
  | polledBuilt hr hc hk hh => rw [hspawn _ _ _ rfl]; simp [hr, spawnsFor, hk, hh]
  | unpolled hr hk hh => rw [hspawn _ _ _ rfl]; simp [hr, spawnsFor, hk, hh]

/-- A dispatch of monitors, each once, spawns a task of each that is registered and checked here. -/
theorem outstanding_foldl_dispatchOne (now : Instant) (id : UInt64) : ∀ (due : List UInt64) (d : Dispatch), due.Nodup →
    (due.foldl (dispatchOne now) d).tasks.outstanding id =
      d.tasks.outstanding id +
        if id ∈ due ∧ (d.scheduler.registry.lookup id).any (fun state => spawnsFor state.monitor) then 1 else 0
  | [], d, _ => by simp
  | k :: due, d, hnodup => by
    rw [List.nodup_cons] at hnodup
    rw [List.foldl_cons, outstanding_foldl_dispatchOne now id due _ hnodup.2, outstanding_dispatchOne, registry_dispatchOne]
    by_cases hk : id = k
    · subst hk
      simp [hnodup.1]
    · have hsame : ((d.scheduler.registry.lookup k).elim d.scheduler.registry
          fun state => (d.scheduler.advance now k state).registry).lookup id = d.scheduler.registry.lookup id := by
        cases d.scheduler.registry.lookup k with
        | none => rfl
        | some state => rw [Option.elim_some, advance, HashMap.lookup_insert, if_neg hk]
      rw [hsame]
      simp [hk]

/-- A dispatch leaves every entry of the registry in its place. -/
theorem isSome_lookup_dispatchDue (s : Scheduler) (tasks : Tasks) (now : Instant) (due : List UInt64) (id : UInt64) :
    ((s.dispatchDue tasks now due).scheduler.registry.lookup id).isSome = (s.registry.lookup id).isSome := by
  have hview := congrArg Option.isSome (lookup_dispatchDue (fun _ => ()) (fun _ _ => rfl) s tasks now due id)
  rwa [Option.isSome_map, Option.isSome_map] at hview

/-- The handling of an outcome leaves every entry of the registry in its place. -/
theorem isSome_lookup_handle (s : Scheduler) (wall : UInt64) (cause : Handled) (id : UInt64) :
    ((s.handle wall cause).scheduler.registry.lookup id).isSome = (s.registry.lookup id).isSome := by
  have hview := congrArg Option.isSome (lookup_handle (fun _ => ()) (fun _ _ _ => rfl) s wall cause id)
  rwa [Option.isSome_map, Option.isSome_map] at hview

/-- What a step leaves is bounded exactly when the step meets the condition. -/
theorem bounded_step_iff {cfg : EngineConfig} {bound : Nat} {s s' : System} {a : Action} {ev : List Event}
    (hI : s.Bounded bound) (he : Effect cfg s a s' ev) : s'.Bounded bound ↔ tasksComeBack bound s a = true := by
  cases he with
  | @dispatched due hpc hdue =>
    have hnodup : due.Nodup := hdue.nodup_iff.mpr (nodup_dueIds _ _)
    simp only [System.Bounded, isSome_lookup_dispatchDue]
    simp only [dispatchDue, outstanding_foldl_dispatchOne _ _ _ _ hnodup, tasksComeBack, List.all_eq_true, Option.all_eq_true,
      Bool.or_eq_true, Bool.not_eq_true', decide_eq_true_eq]
    refine forall_congr' fun id => ?_
    have hle := hI id
    cases hr : s.scheduler.registry.lookup id with
    | none =>
      rw [hr] at hle
      simpa using hle
    | some state =>
      rw [hr] at hle
      simp only [Option.isSome_some, if_true] at hle
      cases hs : spawnsFor state.monitor
      · simp [hs, hle]
      · by_cases hid : id ∈ due
        · simp only [hid, hs, Option.any_some, and_self, if_true, Option.isSome_some, Option.some.injEq, true_imp_iff, forall_eq',
            Bool.true_eq_false, false_or]
          exact Nat.succ_le_iff
        · simp [hs, hid, hle]
  | @resynced monitors after hpc =>
    simp only [System.Bounded, lookup_resync, Option.isSome_map, tasksComeBack, hpc, List.all_eq_true]
    constructor
    · intro h task ht
      have hpos : 0 < s.tasks.outstanding task.body.monitorId.val := List.countP_pos_iff.mpr ⟨task, ht, decide_eq_true rfl⟩
      by_contra hnone
      have hle := h task.body.monitorId.val
      rw [if_neg hnone] at hle
      omega
    · intro h id
      split
      · refine (hI id).trans ?_
        split
        · exact le_rfl
        · exact Nat.zero_le _
      · rename_i hnone
        rw [Nat.le_zero, Tasks.outstanding, List.countP_eq_zero]
        intro task ht hid
        exact hnone (of_decide_eq_true hid ▸ h task ht)
  | @joined joined hpc =>
    refine iff_of_true (fun id => le_trans ?_ (hI id)) rfl
    rw [Tasks.outstanding, TasksAux.running_joined]
    exact List.Sublist.countP_le List.filter_sublist
  | handled hpc =>
    refine iff_of_true (fun id => ?_) rfl
    rw [isSome_lookup_handle]
    exact hI id
  | notResynced hpc => exact iff_of_true hI (by simp [tasksComeBack, hpc])
  | _ => exact iff_of_true hI rfl

/-- A step of the daemon with its tasks is one of the daemon, or leaves the daemon as it is. -/
theorem of_step {cfg : EngineConfig} {scheduler : SchedulerConfig} {p p' : Probing} {a : ProbingAction} {ev : List Event}
    (h : p.step cfg scheduler a = some (p', ev)) :
    (∃ b, a = .system b ∧ p.system.step cfg b = some (p'.system, ev)) ∨ (∀ b, a ≠ .system b) ∧ p'.system = p.system := by
  cases a with
  | system b =>
    simp only [Probing.step] at h
    split at h
    · obtain ⟨⟨s', ev'⟩, hs, he⟩ := Option.map_eq_some_iff.mp h
      cases he
      exact Or.inl ⟨b, rfl, hs⟩
    · cases h
  | acquire id | finish joined =>
    simp only [Probing.step] at h
    split at h
    · cases h
      exact Or.inr ⟨nofun, rfl⟩
    · cases h

theorem bounded_of_step_iff {cfg : EngineConfig} {scheduler : SchedulerConfig} {bound : Nat} {p p' : Probing}
    {a : ProbingAction} {ev : List Event} (hI : p.system.Bounded bound) (h : p.step cfg scheduler a = some (p', ev)) :
    p'.system.Bounded bound ↔ probesComeBack bound p a = true := by
  rcases of_step h with ⟨b, rfl, hs⟩ | ⟨hother, hsame⟩
  · exact bounded_step_iff hI (effect_of_step hs)
  · rw [hsame]
    refine iff_of_true hI ?_
    cases a with
    | system b => exact absurd rfl (hother b)
    | _ => rfl

end BacklogAux

/-- In every run in which checks come back before their monitors are due again, `bound` of one monitor at most being out, and in
which resyncs drop no monitor with a check out, the tasks spawned and not joined are at most `bound` for each registered
monitor; and after the first step that does not meet the condition, some monitor has more. -/
theorem outstanding_bounded_when {cfg : EngineConfig} {scheduler : SchedulerConfig} {k8sFactory : Option K8sCollectorFactory}
    {db : Db} {bound : Nat} {p : Probing} {log : List Event}
    (h : Run (Probing.step cfg scheduler) (fun p a => probesComeBack bound p a = true) (Probing.start cfg k8sFactory db) p log) :
    p.system.tasks.running.length ≤ bound * p.system.registered ∧
      p.system.Bounded bound ∧
      ∀ a p' ev, p.step cfg scheduler a = some (p', ev) →
        (p'.system.Bounded bound ↔ probesComeBack bound p a = true) := by
  have hI : p.system.Bounded bound :=
    h.stateInvariant (I := fun p => p.system.Bounded bound) (fun id => Nat.zero_le _) fun p p' ev a hI hok hs =>
      (BacklogAux.bounded_of_step_iff hI hs).mpr hok
  exact ⟨BacklogAux.length_le_of_bounded hI, hI, fun a p' ev hs => BacklogAux.bounded_of_step_iff hI hs⟩

/-- A monitor is probed, its probe ends within its time, and a second later it is probed again. -/
def probedInTime : List ProbingAction := [
  .system (.user (.addMonitor "api" "http://api" .http 1 none fun _ => 0)),
  .system (.scheduler (.listMonitors false)), .system (.scheduler .listReturned), .system (.scheduler (.dispatchDue [1])),
  .acquire 0, .system (.advance 300000000), .finish (.ok (0, .network ⟨1, 0⟩ (.success 300))),
  .system (.scheduler (.join (.ok (0, .network ⟨1, 0⟩ (.success 300))))), .system (.scheduler .handle),
  .system (.scheduler (.setMonitorStatus false)), .system (.advance 700000000), .system (.scheduler (.dispatchDue [1]))]

/-- There is one task, of the one monitor. -/
theorem one_outstanding :
    ∃ (p : Probing) (log : List Event),
      Run (Probing.step EngineConfig.default SchedulerConfig.default) (fun p a => probesComeBack 1 p a = true)
          (Probing.start EngineConfig.default none Db.empty) p log ∧
        p.system.clock = Duration.fromSecs 1 ∧ p.system.registered = 1 ∧ p.system.tasks.running.length ≤ 1 := by
  let step := Probing.step EngineConfig.default SchedulerConfig.default
  let p₀ := Probing.start EngineConfig.default none Db.empty
  let x := after step (probesComeBack 1) p₀ probedInTime
  have h : Run step (fun p a => probesComeBack 1 p a = true) p₀ x.1 x.2 := run_after (by decide +kernel)
  have hregistered : x.1.system.registered = 1 := by decide +kernel
  have hle := (outstanding_bounded_when h).1
  rw [hregistered] at hle
  exact ⟨x.1, x.2, h, by decide +kernel, hregistered, hle⟩

namespace BacklogAux

open Scheduler

/-! ## A backlog that grows -/

/-- One state leads to another. -/
def Reaches (cfg : EngineConfig) (scheduler : SchedulerConfig) (p p' : Probing) : Prop :=
  ∃ log, Run (Probing.step cfg scheduler) (fun p a => always p a = true) p p' log

theorem Reaches.trans {cfg : EngineConfig} {scheduler : SchedulerConfig} {p p' p'' : Probing}
    (h : Reaches cfg scheduler p p') (h' : Reaches cfg scheduler p' p'') : Reaches cfg scheduler p p'' := by
  obtain ⟨log, h⟩ := h
  obtain ⟨log', h'⟩ := h'
  exact ⟨log ++ log', h.trans h'⟩

theorem reaches_of_step {cfg : EngineConfig} {scheduler : SchedulerConfig} {p p' : Probing} {a : ProbingAction} {ev : List Event}
    (h : p.step cfg scheduler a = some (p', ev)) : Reaches cfg scheduler p p' :=
  ⟨ev, Run.single rfl h⟩

/-- A step of the daemon that the tasks allow. -/
theorem reaches_of_system {cfg : EngineConfig} {scheduler : SchedulerConfig} {p : Probing} {s' : System} {a : Action}
    {ev : List Event} (ha : p.allows scheduler a = true) (hs : p.system.step cfg a = some (s', ev)) :
    Reaches cfg scheduler p { p with system := s', ended := p.endedAfter a } :=
  ⟨ev, Run.single (a := .system a) rfl (by rw [Probing.step, if_pos ha, hs, Option.map_some])⟩

/-- The interval of the monitors, a second. -/
abbrev second : Duration := Duration.fromSecs 1

theorem second_pos : 0 < second := by decide

/-- A monitor dispatched on time is put one interval ahead. -/
theorem advanceDeadline_now {now : Instant} {interval : Duration} (h : 0 < interval) :
    advanceDeadline now interval now = now + interval := by
  have heq : advanceDeadline now interval now =
      if now + interval ≤ now then now + min interval (Duration.fromSecs MAX_INTERVAL_SECS) else now + interval := rfl
  rw [heq, if_neg (Nat.not_le.mpr (Nat.lt_add_of_pos_right h))]

/-- Monitors that the scheduler probes every second and knows to be up. -/
def Watched (monitors : List Monitor) : Prop :=
  (monitors.map (·.id.val)).Nodup ∧
    ∀ m ∈ monitors, m.kind = .http ∧ m.agentId = none ∧ m.intervalSecs = 1 ∧ m.status = .up

/-- The registry holds the monitors, with given deadlines. -/
def Holds (monitors : List Monitor) (deadline : UInt64 → Instant) (registry : HashMap UInt64 MonitorState) : Prop :=
  ∀ id, ∃ flap, registry.lookup id = (registers monitors id).map fun m => ⟨m, deadline id, flap⟩

/-- Every task is a probe of one of the monitors. -/
def Probes (monitors : List Monitor) (t : Tasks) : Prop :=
  ∀ task ∈ t.running, ∃ m ∈ monitors, ∃ kind target, task.body = .network m.id kind target

variable {monitors : List Monitor}

theorem Watched.active (h : Watched monitors) {m : Monitor} (hm : m ∈ monitors) : active m = true := by
  obtain ⟨-, -, hi, hs⟩ := h.2 m hm
  simp [Scheduler.active, hi, hs, validIntervalSecs, MIN_INTERVAL_SECS, MAX_INTERVAL_SECS]

/-- The ids registered are those of the monitors. -/
theorem Watched.registers_iff (h : Watched monitors) (id : UInt64) :
    (registers monitors id).isSome ↔ id ∈ monitors.map (·.id.val) := by
  rw [← mem_seen_iff, List.filter_eq_self.mpr fun m hm => h.active hm]

/-- As many monitors are registered as there are. -/
theorem Holds.length_keys {deadline : UInt64 → Instant} {registry : HashMap UInt64 MonitorState}
    (hw : Watched monitors) (h : Holds monitors deadline registry) : registry.keys.length = monitors.length := by
  have hperm : registry.keys.Perm (monitors.map (·.id.val)) := by
    refine (List.perm_ext_iff_of_nodup (AList.keys_nodup registry) hw.1).mpr fun id => ?_
    obtain ⟨flap, hr⟩ := h id
    rw [← AList.mem_keys, ← AList.lookup_isSome, ← hw.registers_iff, hr, Option.isSome_map]
  rw [hperm.length_eq, List.length_map]

/-- The dispatch of monitors, each once, spawns a probe of each and puts it a second ahead. -/
theorem foldl_dispatchOne_watched (hw : Watched monitors) (now : Instant) : ∀ (due : List UInt64) (d : Dispatch), due.Nodup →
    (∀ id ∈ due, id ∈ monitors.map (·.id.val)) →
    Holds monitors (fun id => if id ∈ due then now else now + second) d.scheduler.registry →
    TasksAux.Sound d.tasks → Probes monitors d.tasks →
    let d' := due.foldl (dispatchOne now) d
    Holds monitors (fun _ => now + second) d'.scheduler.registry ∧ TasksAux.Sound d'.tasks ∧ Probes monitors d'.tasks ∧
      d.tasks.running <+: d'.tasks.running ∧ d'.tasks.running.length = d.tasks.running.length + due.length
  | [], d, _, _, hh, hs, hp => ⟨by simpa using hh, hs, hp, List.prefix_refl _, rfl⟩
  | k :: due, d, hnodup, hdue, hh, hs, hp => by
    rw [List.nodup_cons] at hnodup
    -- the first monitor is registered and due, and of a kind that is probed here
    obtain ⟨flap, hk⟩ := hh k
    obtain ⟨m, hm⟩ := Option.isSome_iff_exists.mp ((hw.registers_iff k).mpr (hdue k List.mem_cons_self))
    obtain ⟨hmem, -, hid⟩ := of_registers hm
    obtain ⟨hkind, hagent, hinterval, -⟩ := hw.2 m hmem
    simp only [hm, Option.map_some, List.mem_cons_self, if_true] at hk
    have hdis := dispatches_dispatchOne now d k
    rw [List.foldl_cons]
    generalize dispatchOne now d k = d' at hdis
    cases hdis with
    | unknown hr => cases hk.symm.trans hr
    | queued hr ha hk' =>
      cases hk.symm.trans hr
      cases hagent.symm.trans ha
    | left hr hk' | polledKept hr _ hk' | polledBuilt hr _ hk' | unpolled hr hk' =>
      cases hk.symm.trans hr
      simp [hkind, NetworkProbeKind.tryFrom] at hk'
    | @probed state kind hr hk' ha =>
      cases hk.symm.trans hr
      have hnext : Holds monitors (fun id => if id ∈ due then now else now + second)
          (d.scheduler.advance now k ⟨m, now, flap⟩).registry := by
        intro id
        obtain ⟨flap', hid'⟩ := hh id
        simp only [advance, HashMap.lookup_insert]
        split
        · rename_i heq
          subst heq
          refine ⟨flap, ?_⟩
          simp only [hm, hnodup.1, if_false, Option.map_some, hinterval]
          rw [advanceDeadline_now second_pos]
        · rename_i hne
          refine ⟨flap', ?_⟩
          rw [hid']
          simp [hne]
      have hprobes : Probes monitors (d.tasks.spawn (.network ⟨k, m.id.origin⟩ kind m.target) (.network ⟨k, m.id.origin⟩)) := by
        intro task ht
        simp only [Tasks.spawn, List.mem_append, List.mem_singleton] at ht
        rcases ht with ht | rfl
        · exact hp task ht
        · exact ⟨m, hmem, kind, m.target, by rw [← hid]⟩
      have hsound : TasksAux.Sound (d.tasks.spawn (.network ⟨k, m.id.origin⟩ kind m.target) (.network ⟨k, m.id.origin⟩)) :=
        hs.spawn (by exact ⟨kind, m.target, rfl⟩)
      let d₁ := Dispatch.spawn { d with scheduler := d.scheduler.advance now k ⟨m, now, flap⟩ }
        (.network ⟨k, m.id.origin⟩ kind m.target) (.network ⟨k, m.id.origin⟩)
      obtain ⟨hh', hs', hp', hpre, hlen⟩ := foldl_dispatchOne_watched hw now due d₁ hnodup.2
        (fun id hid => hdue id (List.mem_cons_of_mem _ hid)) hnext hsound hprobes
      have hlen₁ : d₁.tasks.running.length = d.tasks.running.length + 1 := by simp [d₁, Dispatch.spawn, Tasks.spawn]
      refine ⟨hh', hs', hp', (List.prefix_append _ _).trans hpre, ?_⟩
      rw [hlen, hlen₁, List.length_cons]
      omega

/-- The daemon at work on the monitors: they come due at `next`, their probes are in the set of tasks, and those that hold a
permit have held it since `since` at the earliest. -/
structure Busy (scheduler : SchedulerConfig) (monitors : List Monitor) (since next : Instant) (p : Probing) : Prop where
  pc : p.system.pc = .select
  draining : p.system.draining = false
  listed : p.system.db.listMonitors = .ok monitors
  registry : Holds monitors (fun _ => next) p.system.scheduler.registry
  sound : TasksAux.Sound p.system.tasks
  probes : Probes monitors p.system.tasks
  ended : p.ended = []
  permits : p.holding.length ≤ scheduler.permits
  held : ∀ h ∈ p.holding, since ≤ h.2 ∧ h.1 ∈ p.system.tasks.running.map (·.id)

variable (cfg : EngineConfig) {scheduler : SchedulerConfig} {since next : Instant} {p : Probing}

/-- A resync changes nothing. -/
theorem Busy.resync (h : Busy scheduler monitors since next p) :
    ∃ p', Reaches cfg scheduler p p' ∧ Busy scheduler monitors since next p' ∧ p'.system.tasks = p.system.tasks ∧
      p'.system.clock = p.system.clock := by
  let s₁ : System := { p.system with pc := .listing none }
  let s₂ : System := { s₁ with pc := .listed (.ok monitors) none }
  let x := s₂.scheduler.resync s₂.clock monitors
  let s₃ : System := { s₂ with scheduler := x.1, pc := .select }
  have h₁ : p.system.step cfg (.scheduler .resyncTick) = some (s₁, []) := by
    simp only [System.step, System.schedulerStep, h.pc, h.draining, s₁]
  have h₂ : s₁.step cfg (.scheduler (.listMonitors false)) = some (s₂, []) := by
    simp only [System.step, System.schedulerStep, answer, s₁, s₂, h.listed, Bool.false_eq_true, if_false]
  have h₃ : s₂.step cfg (.scheduler .listReturned) = some (s₃, x.2) := rfl
  have hreach : Reaches cfg scheduler p { p with system := s₃ } :=
    ((reaches_of_system rfl h₁).trans (reaches_of_system (p := { p with system := s₁ }) rfl h₂)).trans
      (reaches_of_system (p := { p with system := s₂ }) rfl h₃)
  refine ⟨{ p with system := s₃ }, hreach, ⟨rfl, h.draining, h.listed, fun id => ?_, h.sound, h.probes, h.ended, h.permits,
    h.held⟩, rfl, rfl⟩
  obtain ⟨flap, hr⟩ := h.registry id
  refine ⟨flap, ?_⟩
  have hres := lookup_resync s₂.scheduler s₂.clock monitors id
  rw [hres, hr]
  cases registers monitors id with
  | none => rfl
  | some m => rfl

/-- A dispatch on time spawns a probe of every monitor. -/
theorem Busy.dispatch (hw : Watched monitors) (h : Busy scheduler monitors since p.system.clock p) :
    ∃ p', Reaches cfg scheduler p p' ∧ Busy scheduler monitors since (p.system.clock + second) p' ∧
      p'.system.tasks.running.length = p.system.tasks.running.length + monitors.length ∧
      p'.system.clock = p.system.clock := by
  let s := p.system
  let due := s.scheduler.dueIds s.clock
  let d := s.scheduler.dispatchDue s.tasks s.clock due
  let s₁ : System := { s with scheduler := d.scheduler, tasks := d.tasks }
  have hs : s.step cfg (.scheduler (.dispatchDue due)) = some (s₁, d.events) := by
    have hperm : due.Perm (s.scheduler.dueIds s.clock) := List.Perm.refl _
    simp only [System.step, System.schedulerStep, s, s₁, d, h.pc, h.draining, if_pos hperm]
  -- every monitor is due
  have hkeys : due = s.scheduler.registry.keys := by
    have hall : ∀ e ∈ s.scheduler.registry.entries, decide (e.2.nextCheckAt ≤ s.clock) = true := by
      rintro ⟨id, state⟩ he
      obtain ⟨flap, hr⟩ := h.registry id
      rw [HashMap.mem_entries_iff] at he
      obtain ⟨m, -, rfl⟩ := Option.map_eq_some_iff.mp (hr.symm.trans he)
      exact decide_eq_true le_rfl
    simp only [due, dueIds, List.filter_eq_self.mpr hall]
    rfl
  have hmem : ∀ id, id ∈ due ↔ id ∈ monitors.map (·.id.val) := by
    intro id
    obtain ⟨flap, hr⟩ := h.registry id
    rw [hkeys, ← AList.mem_keys, ← AList.lookup_isSome, hr, Option.isSome_map, hw.registers_iff]
  have hreg : Holds monitors (fun id => if id ∈ due then s.clock else s.clock + second) s.scheduler.registry := by
    intro id
    obtain ⟨flap, hr⟩ := h.registry id
    refine ⟨flap, hr.trans ?_⟩
    cases hm : registers monitors id with
    | none => rfl
    | some m =>
      have hin : id ∈ due := (hmem id).mpr ((hw.registers_iff id).mp (by rw [hm, Option.isSome_some]))
      simp only [Option.map_some, hin, if_true, s]
  obtain ⟨hh, hsound, hprobes, hpre, hlen⟩ := foldl_dispatchOne_watched hw s.clock due ⟨s.scheduler, s.tasks, []⟩
    (nodup_dueIds _ _) (fun id hid => (hmem id).mp hid) hreg h.sound h.probes
  refine ⟨{ p with system := s₁ }, reaches_of_system rfl hs, ⟨h.pc, h.draining, h.listed, hh, hsound, hprobes, h.ended,
    h.permits, fun x hx => ⟨(h.held x hx).1, ?_⟩⟩, ?_, rfl⟩
  · exact (hpre.sublist.map _).subset (h.held x hx).2
  · have hcount : due.length = monitors.length := by rw [hkeys, h.registry.length_keys hw]
    rw [hcount] at hlen
    exact hlen

/-- Every free permit is taken, as long as a task waits. -/
theorem Busy.fill (h : Busy scheduler monitors since next p) (hsince : since ≤ p.system.clock) :
    ∃ p', Reaches cfg scheduler p p' ∧ Busy scheduler monitors since next p' ∧ p'.system = p.system ∧
      (scheduler.permits ≤ p'.holding.length ∨ (p'.unfinished.all fun task => !p'.waits task) = true) := by
  generalize hk : scheduler.permits - p.holding.length = k
  induction k generalizing p with
  | zero => exact ⟨p, ⟨[], Run.nil⟩, h, rfl, Or.inl (by omega)⟩
  | succ k ih =>
    by_cases hall : (p.unfinished.all fun task => !p.waits task) = true
    · exact ⟨p, ⟨[], Run.nil⟩, h, rfl, Or.inr hall⟩
    · simp only [List.all_eq_true, Bool.not_eq_true', not_forall, Bool.not_eq_false] at hall
      obtain ⟨task, ht, hwait⟩ := hall
      let p₁ : Probing := { p with holding := p.holding ++ [(task.id, p.system.clock)] }
      have hlen : p₁.holding.length = p.holding.length + 1 := by simp [p₁]
      have hs : p.step cfg scheduler (.acquire task.id) = some (p₁, []) := by
        have hroom : p.holding.length < scheduler.permits := by omega
        have hany : (p.unfinished.any fun t => decide (t.id = task.id ∧ p.waits t)) = true :=
          List.any_eq_true.mpr ⟨task, ht, by simp [hwait]⟩
        rw [Probing.step, if_pos ⟨hroom, hany⟩]
      have hb : Busy scheduler monitors since next p₁ := by
        refine ⟨h.pc, h.draining, h.listed, h.registry, h.sound, h.probes, h.ended, by omega, fun x hx => ?_⟩
        rcases List.mem_append.mp hx with hx | hx
        · exact h.held x hx
        · rw [List.mem_singleton.mp hx]
          exact ⟨hsince, List.mem_map_of_mem (List.mem_filter.mp ht).1⟩
      obtain ⟨p', hreach, hb', hsys, hfull⟩ := ih (p := p₁) hb hsince (by omega)
      exact ⟨p', (reaches_of_step hs).trans hreach, hb', hsys, hfull⟩

/-- Time passes when no permit is free while a task waits, and no probe exceeds its timeout. -/
theorem Busy.pass {d : Duration} (h : Busy scheduler monitors since next p)
    (hfull : scheduler.permits ≤ p.holding.length ∨ (p.unfinished.all fun task => !p.waits task) = true)
    (htime : p.system.clock + d ≤ since + scheduler.probeTimeout) :
    Reaches cfg scheduler p { p with system := { p.system with clock := p.system.clock + d } } ∧
      Busy scheduler monitors since next { p with system := { p.system with clock := p.system.clock + d } } := by
  have hin : (p.holding.all fun x => decide (p.system.clock + d ≤ x.2 + scheduler.probeTimeout)) = true := by
    refine List.all_eq_true.mpr fun x hx => decide_eq_true ?_
    exact htime.trans (Nat.add_le_add_right (h.held x hx).1 _)
  have hallows : p.allows scheduler (.advance d) = true := by
    simp only [Probing.allows, Probing.mayPass, hin, Bool.true_and, Bool.or_eq_true, decide_eq_true_eq]
    exact hfull
  exact ⟨reaches_of_system hallows rfl,
    ⟨h.pc, h.draining, h.listed, h.registry, h.sound, h.probes, h.ended, h.permits, h.held⟩⟩

/-- In a second every monitor gets one more probe. -/
theorem Busy.seconds (hw : Watched monitors) : ∀ (k : Nat) {p : Probing}, Busy scheduler monitors since p.system.clock p →
    since ≤ p.system.clock → p.system.clock + k * second ≤ since + scheduler.probeTimeout →
    ∃ p', Reaches cfg scheduler p p' ∧ Busy scheduler monitors since p'.system.clock p' ∧
      p'.system.tasks.running.length = p.system.tasks.running.length + k * monitors.length ∧
      p'.system.clock = p.system.clock + k * second
  | 0, p, h, _, _ => ⟨p, ⟨[], Run.nil⟩, h, by simp, by simp⟩
  | k + 1, p, h, hsince, htime => by
    have hstep : (k + 1) * second = second + k * second := by rw [Nat.succ_mul, Nat.add_comm]
    rw [hstep, ← Nat.add_assoc] at htime
    obtain ⟨p₁, hr₁, hb₁, hlen₁, hclock₁⟩ := h.dispatch cfg hw
    obtain ⟨p₂, hr₂, hb₂, hsys₂, hfull⟩ := hb₁.fill cfg (hclock₁ ▸ hsince)
    have hclock₂ : p₂.system.clock = p.system.clock := by rw [hsys₂, hclock₁]
    have htime₂ : p₂.system.clock + second ≤ since + scheduler.probeTimeout := by
      rw [hclock₂]
      exact (Nat.le_add_right _ _).trans htime
    obtain ⟨hr₃, hb₃⟩ := hb₂.pass cfg hfull htime₂
    rw [← hclock₂] at hb₃ htime hsince
    let p₃ : Probing := { p₂ with system := { p₂.system with clock := p₂.system.clock + second } }
    obtain ⟨p', hr, hb, hlen, hclock⟩ := Busy.seconds hw k (p := p₃) hb₃ (hsince.trans (Nat.le_add_right _ _)) htime
    refine ⟨p', ((hr₁.trans hr₂).trans hr₃).trans hr, hb, ?_, ?_⟩
    · have hsame : p₃.system.tasks.running.length = p₁.system.tasks.running.length := by simp only [p₃, hsys₂]
      rw [hlen, hsame, hlen₁, Nat.succ_mul]
      omega
    · have hnow : p₃.system.clock = p.system.clock + second := by simp only [p₃, hclock₂]
      rw [hclock, hnow, hstep, Nat.add_assoc]

/-- The ids that are left when one of distinct ones is joined are one less. -/
theorem length_joined {t : Tasks} (h : TasksAux.Sound t) {joined : Except JoinError (TaskId × Outcome)} {task : Task}
    (ht : task ∈ t.running) (hid : task.id = joinedId joined) :
    t.running.length = (Scheduler.handleJoined t joined).1.running.length + 1 := by
  have haccounts : TasksAux.Accounts t t.running [] :=
    ⟨h, h.fresh, h.nodup, fun _ ht => ht, by rw [List.append_nil]⟩
  have hperm := (haccounts.join ht hid).perm.length_eq
  simpa using hperm

/-- A probe that ends in a success, is joined and handled: its permit is free, its task is gone, and the registry has the same
deadlines. -/
theorem Busy.retire (hw : Watched monitors) (h : Busy scheduler monitors since next p) {x : TaskId × Instant}
    (hx : x ∈ p.holding) :
    ∃ p', Reaches cfg scheduler p p' ∧ Busy scheduler monitors since next p' ∧
      p'.holding = (p.holding.filter fun y => y.1 ≠ x.1) ∧
      p.system.tasks.running.length = p'.system.tasks.running.length + 1 ∧ p'.system.clock = p.system.clock := by
  obtain ⟨task, ht, hid⟩ := List.mem_map.mp (h.held x hx).2
  obtain ⟨m, hm, kind, target, hbody⟩ := h.probes task ht
  let cause : Handled := .outcome (.network m.id (.success 0))
  let joined : Except JoinError (TaskId × Outcome) := .ok (x.1, .network m.id (.success 0))
  let s := p.system
  -- the task ends
  let p₁ : Probing := { p with holding := p.holding.filter fun y => y.1 ≠ x.1, ended := [joined] }
  have hjoinable : s.joinable joined = true := by
    refine List.any_eq_true.mpr ⟨task, ht, ?_⟩
    simp [hid, hbody, TaskBody.mayReturn]
  have hends : p.step cfg scheduler (.finish joined) = some (p₁, []) := by
    have hany : (p.unfinished.any fun t => decide (t.id = joinedId joined ∧ !p.waits t)) = true := by
      refine List.any_eq_true.mpr ⟨task, List.mem_filter.mpr ⟨ht, by simp [h.ended]⟩, ?_⟩
      have hholds : x.1 ∈ p.holding.map (·.1) := List.mem_map_of_mem hx
      have hnot : p.waits task = false := by rw [Probing.waits, hid, decide_eq_false (not_not_intro hholds), Bool.and_false]
      simp [joinedId, joined, hid, hnot]
    rw [Probing.step, if_pos ⟨hjoinable, hany⟩, h.ended]
    rfl
  -- it is joined
  let t := (Scheduler.handleJoined s.tasks joined).1
  let s₂ : System := { s with tasks := t, pc := .handling cause }
  have hjoins : s.step cfg (.scheduler (.join joined)) = some (s₂, []) := by
    simp only [System.step, System.schedulerStep, s, h.pc, hjoinable, if_true]
    rfl
  have hjoined : p₁.endedAfter (.scheduler (.join joined)) = [] := by
    simp only [Probing.endedAfter, p₁, List.erase_cons_head]
  -- its outcome is handled
  obtain ⟨flap, hlook⟩ := h.registry m.id.val
  obtain ⟨m', hm'⟩ := Option.isSome_iff_exists.mp ((hw.registers_iff m.id.val).mpr (List.mem_map_of_mem hm))
  obtain ⟨-, -, -, hup⟩ := hw.2 m' (of_registers hm').1
  rw [hm', Option.map_some] at hlook
  let x' := s.scheduler.handle s.wall cause
  have hcounted : x'.persist = none ∧
      x'.scheduler.registry = s.scheduler.registry.insert m.id.val ⟨m', next, flap.count true⟩ :=
    handle_counted s.wall cause hlook rfl (by simp [FlapState.observe_success, hup])
  let s₃ : System := { s₂ with
    scheduler := x'.scheduler, pc := .select, writer := s.writer.submit cfg.writerCapacity (System.submissions x'.events) }
  have hhandles : s₂.step cfg (.scheduler .handle) = some (s₃, x'.events) := by
    simp only [System.step, System.schedulerStep, s₂, s₃]
    rw [hcounted.1]
    rfl
  let p' : Probing := { p₁ with system := s₃, ended := [] }
  have hreach : Reaches cfg scheduler p p' := by
    have hallows : p₁.allows scheduler (.scheduler (.join joined)) = true := by simp [Probing.allows, p₁]
    have hr₂ := reaches_of_system (p := p₁) hallows hjoins
    rw [hjoined] at hr₂
    have hr₃ : Reaches cfg scheduler { p₁ with system := s₂, ended := [] } p' :=
      reaches_of_system (p := { p₁ with system := s₂, ended := [] }) rfl hhandles
    exact ((reaches_of_step hends).trans hr₂).trans hr₃
  refine ⟨p', hreach, ⟨rfl, h.draining, h.listed, fun id => ?_, h.sound.joined joined, fun task' ht' => ?_, rfl,
    (List.length_filter_le _ _).trans h.permits, fun y hy => ?_⟩, rfl, length_joined h.sound ht hid, rfl⟩
  · obtain ⟨flap', hr⟩ := h.registry id
    have hreg : p'.system.scheduler.registry.lookup id =
        if id = m.id.val then some ⟨m', next, flap.count true⟩ else s.scheduler.registry.lookup id := by
      rw [← HashMap.lookup_insert, ← hcounted.2]
    rw [hreg]
    split
    · rename_i heq
      rw [heq, hm']
      exact ⟨_, rfl⟩
    · exact ⟨flap', hr⟩
  · have hrun : task' ∈ s.tasks.running.filter fun t => t.id ≠ x.1 := ht'
    exact h.probes task' (List.mem_filter.mp hrun).1
  · obtain ⟨hy, hne⟩ := List.mem_filter.mp hy
    obtain ⟨hsince, hheld⟩ := h.held y hy
    obtain ⟨task', ht', hid'⟩ := List.mem_map.mp hheld
    refine ⟨hsince, List.mem_map.mpr ⟨task', ?_, hid'⟩⟩
    have hrun : task' ∈ s.tasks.running.filter fun t => t.id ≠ x.1 :=
      List.mem_filter.mpr ⟨ht', by simpa [hid'] using hne⟩
    exact hrun

/-- All the probes that hold a permit end. -/
theorem Busy.retireAll (hw : Watched monitors) (h : Busy scheduler monitors since next p) :
    ∃ p', Reaches cfg scheduler p p' ∧ Busy scheduler monitors since next p' ∧ p'.holding = [] ∧
      p.system.tasks.running.length ≤ p'.system.tasks.running.length + p.holding.length ∧
      p'.system.clock = p.system.clock := by
  generalize hk : p.holding.length = k
  induction k using Nat.strong_induction_on generalizing p with
  | _ k ih =>
    cases hp : p.holding with
    | nil => exact ⟨p, ⟨[], Run.nil⟩, h, hp, Nat.le_add_right _ _, rfl⟩
    | cons x rest =>
      obtain ⟨p₁, hr₁, hb₁, hhold₁, hlen₁, hclock₁⟩ := h.retire cfg hw (x := x) (by rw [hp]; exact List.mem_cons_self)
      have hless : p₁.holding.length < k := by
        have hle := List.length_filter_le (fun y : TaskId × Instant => decide (y.1 ≠ x.1)) rest
        rw [← hk, hhold₁, hp, List.filter_cons_of_neg (by simp), List.length_cons]
        omega
      obtain ⟨p', hr, hb, hhold, hlen, hclock⟩ := ih _ hless hb₁ rfl
      exact ⟨p', hr₁.trans hr, hb, hhold, by omega, hclock.trans hclock₁⟩

/-- With no permit taken, the probes to come are the ones that count. -/
theorem Busy.idle (h : Busy scheduler monitors since next p) (hp : p.holding = []) (since' : Instant) :
    Busy scheduler monitors since' next p :=
  ⟨h.pc, h.draining, h.listed, h.registry, h.sound, h.probes, h.ended, h.permits, fun x hx => by rw [hp] at hx; cases hx⟩

/-- A round: resyncs, and `k` seconds after each, and then all the probes that hold a permit end. What came due is one task for
each monitor and second, and what went is at most the permits. -/
theorem Busy.round (hw : Watched monitors) {k : Nat} (htime : k * second + k * second ≤ scheduler.probeTimeout)
    (h : Busy scheduler monitors since p.system.clock p) (hp : p.holding = []) :
    ∃ p' since', Reaches cfg scheduler p p' ∧ Busy scheduler monitors since' p'.system.clock p' ∧ p'.holding = [] ∧
      p.system.tasks.running.length + (k + k) * monitors.length ≤ p'.system.tasks.running.length + scheduler.permits := by
  obtain ⟨p₁, hr₁, hb₁, htasks₁, hclock₁⟩ := (h.idle hp p.system.clock).resync cfg
  rw [← hclock₁] at hb₁
  have htime₁ : p₁.system.clock + k * second ≤ p₁.system.clock + scheduler.probeTimeout :=
    Nat.add_le_add_left ((Nat.le_add_right _ _).trans htime) _
  obtain ⟨p₂, hr₂, hb₂, hlen₂, hclock₂⟩ := hb₁.seconds cfg hw k le_rfl htime₁
  obtain ⟨p₃, hr₃, hb₃, htasks₃, hclock₃⟩ := hb₂.resync cfg
  rw [← hclock₃] at hb₃
  have hnow₃ : p₃.system.clock = p₁.system.clock + k * second := hclock₃.trans hclock₂
  have htime₃ : p₃.system.clock + k * second ≤ p₁.system.clock + scheduler.probeTimeout := by
    rw [hnow₃, Nat.add_assoc]
    exact Nat.add_le_add_left htime _
  obtain ⟨p₄, hr₄, hb₄, hlen₄, hclock₄⟩ := hb₃.seconds cfg hw k (by rw [hnow₃]; exact Nat.le_add_right _ _) htime₃
  obtain ⟨p', hr', hb', hhold', hlen', hclock'⟩ := hb₄.retireAll cfg hw
  rw [← hclock'] at hb'
  refine ⟨p', p₁.system.clock, (((hr₁.trans hr₂).trans hr₃).trans hr₄).trans hr', hb', hhold', ?_⟩
  rw [htasks₁] at hlen₂
  rw [htasks₃] at hlen₄
  rw [Nat.add_mul]
  have hpermits := hb₄.permits
  omega

/-- The daemon started on the monitors, after its first resync. -/
theorem busy_start (k8sFactory : Option K8sCollectorFactory) {db : Db} (hdb : db.listMonitors = .ok monitors) :
    ∃ p, Reaches cfg scheduler (Probing.start cfg k8sFactory db) p ∧ Busy scheduler monitors 0 p.system.clock p ∧
      p.holding = [] := by
  let s₀ := System.start cfg k8sFactory db
  let s₁ : System := { s₀ with pc := .listed (.ok monitors) none }
  let x := s₁.scheduler.resync s₁.clock monitors
  let s₂ : System := { s₁ with scheduler := x.1, pc := .select }
  have h₁ : s₀.step cfg (.scheduler (.listMonitors false)) = some (s₁, []) := by
    have hlisted : s₀.db.listMonitors = .ok monitors := hdb
    simp only [System.step, System.schedulerStep, s₁, answer, hlisted, Bool.false_eq_true, if_false]
    rfl
  have h₂ : s₁.step cfg (.scheduler .listReturned) = some (s₂, x.2) := rfl
  refine ⟨⟨s₂, [], []⟩, (reaches_of_system (p := ⟨s₀, [], []⟩) rfl h₁).trans (reaches_of_system (p := ⟨s₁, [], []⟩) rfl h₂),
    ⟨rfl, rfl, hdb, fun id => ?_, ⟨List.nodup_nil, List.forall_mem_nil _, List.forall_mem_nil _, fun id hid => ?_⟩,
      List.forall_mem_nil _, rfl, Nat.zero_le _, List.forall_mem_nil _⟩, rfl⟩
  rotate_left
  · cases hid
  refine ⟨FlapState.default, ?_⟩
  have hres := lookup_resync s₁.scheduler s₁.clock monitors id
  rw [hres]
  have hempty : s₁.scheduler.registry.lookup id = none := HashMap.lookup_empty id
  rw [hempty]
  rfl

/-- When more probes come due than the permits can serve in their time, the tasks grow beyond any number. -/
theorem backlog_grows (hw : Watched monitors) {k : Nat} (htime : k * second + k * second ≤ scheduler.probeTimeout)
    (hload : scheduler.permits < (k + k) * monitors.length) (k8sFactory : Option K8sCollectorFactory) {db : Db}
    (hdb : db.listMonitors = .ok monitors) (n : Nat) :
    ∃ p, Reaches cfg scheduler (Probing.start cfg k8sFactory db) p ∧ p.system.registered = monitors.length ∧
      n ≤ p.system.tasks.running.length := by
  suffices h : ∃ p since, Reaches cfg scheduler (Probing.start cfg k8sFactory db) p ∧
      Busy scheduler monitors since p.system.clock p ∧ p.holding = [] ∧ n ≤ p.system.tasks.running.length by
    obtain ⟨p, since, hreach, hb, -, hn⟩ := h
    exact ⟨p, hreach, hb.registry.length_keys hw, hn⟩
  induction n with
  | zero =>
    obtain ⟨p, hreach, hb, hp⟩ := busy_start cfg k8sFactory hdb
    exact ⟨p, 0, hreach, hb, hp, Nat.zero_le _⟩
  | succ n ih =>
    obtain ⟨p, since, hreach, hb, hp, hn⟩ := ih
    obtain ⟨p', since', hr, hb', hp', hlen⟩ := hb.round cfg hw htime hp
    exact ⟨p', since', hreach.trans hr, hb', hp', by omega⟩

end BacklogAux

/-- A database of monitors that are checked every second. -/
def everySecond : Nat → Db
  | 0 => Db.empty
  | n + 1 =>
    match (everySecond n).insertMonitor ⟨⟨0, 0⟩, "api", "http://api", .http, 1, .up, none⟩ fun _ => 0 with
    | .ok (db, _) => db
    | .error _ => everySecond n

/-- The tasks spawned and not joined have no bound. Seven monitors are checked every second with the default configuration, and
every probe ends, after ten seconds at most: seventy probes come due in ten seconds, and sixty-four are served. -/
theorem outstanding_not_bounded :
    ¬∃ bound : SchedulerConfig → Nat → Nat, ∀ (cfg : EngineConfig) (scheduler : SchedulerConfig)
      (k8sFactory : Option K8sCollectorFactory) (db : Db) (p : Probing) (log : List Event),
      Run (Probing.step cfg scheduler) (fun p a => always p a = true) (Probing.start cfg k8sFactory db) p log →
        p.system.tasks.running.length ≤ bound scheduler p.system.registered := by
  rintro ⟨bound, h⟩
  let monitors : List Monitor :=
    (List.range 7).map fun i => ⟨⟨UInt64.ofNat (i + 1), i⟩, "api", "http://api", .http, 1, .up, none⟩
  have hw : BacklogAux.Watched monitors := ⟨by decide, by decide⟩
  have hdb : (everySecond 7).listMonitors = .ok monitors := by decide +kernel
  obtain ⟨p, ⟨log, hrun⟩, hregistered, hn⟩ : ∃ p, BacklogAux.Reaches EngineConfig.default SchedulerConfig.default
      (Probing.start EngineConfig.default none (everySecond 7)) p ∧ p.system.registered = monitors.length ∧
        bound SchedulerConfig.default 7 + 1 ≤ p.system.tasks.running.length :=
    BacklogAux.backlog_grows _ (k := 5) hw (by decide) (by decide) none hdb _
  have hle := h _ _ _ _ p log hrun
  rw [hregistered] at hle
  have hseven : monitors.length = 7 := rfl
  rw [hseven] at hle
  omega

end Monitra
