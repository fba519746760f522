import Monitra.Lemmas.Steps

/-!
# Alerts and status changes

Alerts are submitted with the writes of the scheduler and with those of the watchdog that the store took. The scheduler submits
one whatever the store answered, and neither looks at the status that the write replaced. So the alerts of a step are true exactly
when a write of the scheduler is taken and replaces another status, and a write of the watchdog that is taken replaces another
status.

What makes a write replace another status lies before it. Up and Down are written by the scheduler alone, so while the store takes
what it writes, its copies say Up and Down wherever the store does, through resyncs and through whatever the users call. Stale has
two writers: the watchdog's is in the registry's copy from the next resync on, and the scheduler's in no list that a sweep has read.
-/

namespace Monitra

open Runs

/-- The alert requests that events submit. -/
def alerts (ev : List Event) : List AlertRequest :=
  ev.filterMap fun
    | .alert request => some request
    | _ => none

/-- One alert for each status change of a step, and none without: an alert request tells of a change of the stored status to the
announced one, and the monitor whose status the engine changed has exactly one. -/
structure AlertsTrue (s : System) (a : Action) (s' : System) (ev : List Event) : Prop where
  announced : ∀ request ∈ alerts ev, ∃ t, s.db.status? request.monitorId.val = some t ∧
    t ≠ monitorStatusToStr request.transitionedTo ∧
    s'.db.status? request.monitorId.val = some (monitorStatusToStr request.transitionedTo)
  complete : (∀ u, a ≠ .user u) → ∀ id, s'.db.status? id ≠ s.db.status? id →
    (alerts ev).countP (fun request => request.monitorId.val == id) = 1

/-- The alerts are true in every step of a run. The steps of the run are those that meet the condition. -/
def AlertsHold (cfg : EngineConfig) (ok : System → Action → Bool) : Prop :=
  ∀ (k8sFactory : Option K8sCollectorFactory) (db : Db) (s s' : System) (log ev : List Event) (a : Action),
    Run (System.step cfg) (fun s a => ok s a = true) (System.start cfg k8sFactory db) s log →
    ok s a = true → s.step cfg a = some (s', ev) → AlertsTrue s a s' ev

/-- Whether the write of a step changes a status, if it makes one: the store takes the status that the scheduler writes, and it held
another; when it takes one that the watchdog writes, it held another. -/
def writesChange (s : System) : Action → Bool
  | .scheduler (.setMonitorStatus fault) =>
    match s.pc with
    | .persisting p =>
      !fault && (s.db.status? p.cause.monitorId.val).any fun t => t != monitorStatusToStr p.status
    | _ => true
  | .watchdog (.next fault) =>
    match s.watchdog with
    | .sweeping stale (m :: _) =>
      !Watchdog.demotes stale m || fault || (s.db.status? m.id.val).all fun t => t != monitorStatusToStr .stale
    | _ => true
  | _ => true

/-- Whether a sweep under way still has a monitor to mark stale. -/
def Watchdog.awaits (id : UInt64) : Watchdog → Bool
  | .sweeping stale rest => rest.any fun m => Watchdog.demotes stale m && m.id.val == id
  | _ => false

/-- Whether the scheduler waits to write Stale for a monitor. -/
def Pc.persistsStale (id : UInt64) : Pc → Bool
  | .persisting p => p.status == .stale && p.cause.monitorId.val == id
  | _ => false

/-- The condition. The store takes what the scheduler writes: it does not fail, and it still has the monitor. An outcome that says
nothing about its target is handled only when the registry's copy says Stale if the store does. And the two writers of Stale keep
out of each other's way: the scheduler writes it for no monitor that a sweep under way still has to mark, and a sweep marks none that
the scheduler waits to write it for. -/
def writersAgree (s : System) : Action → Bool
  | .scheduler .handle =>
    match s.pc with
    | .handling cause =>
      match cause.verdict with
      | .stale _ =>
        s.db.status? cause.monitorId.val != some (monitorStatusToStr .stale) ||
          (s.scheduler.registry.lookup cause.monitorId.val).all fun state => state.monitor.status == .stale
      | .applied _ _ _ => true
    | _ => true
  | .scheduler (.setMonitorStatus fault) =>
    match s.pc with
    | .persisting p =>
      !fault && (s.db.row? p.cause.monitorId.val).isSome &&
        (p.status != .stale || !s.watchdog.awaits p.cause.monitorId.val)
    | _ => true
  | .watchdog (.next fault) =>
    match s.watchdog with
    | .sweeping stale (m :: _) => !Watchdog.demotes stale m || fault || !s.pc.persistsStale m.id.val
    | _ => true
  | _ => true

namespace AlertsAux

/-- Events that set no status submit no alert. -/
theorem alerts_eq_nil {ev : List Event} (h : ∀ e ∈ ev, e.sets = none) : alerts ev = [] := by
  unfold alerts
  rw [List.filterMap_eq_nil_iff]
  intro e he
  have hs := h e he
  cases e <;> simp_all [Event.sets]

/-- The scheduler submits one alert with a write, whether or not the store took it. -/
theorem alerts_persist (p : Scheduler.Persist) (wall : UInt64) (written : Bool) :
    alerts (.wrote p.cause.monitorId p.status written :: p.resume wall) =
      [⟨p.cause.monitorId, p.monitorName, p.status⟩] := by
  unfold Scheduler.Persist.resume alerts
  split <;> rfl

/-- A step that submits no alert and changes no stored status. -/
theorem alertsTrue_of_nil {s s' : System} {a : Action} {ev : List Event} (hev : alerts ev = [])
    (hdb : (∀ u, a ≠ .user u) → ∀ id, s'.db.status? id = s.db.status? id) : AlertsTrue s a s' ev where
  announced request h := by
    rw [hev] at h
    cases h
  complete ha id hne := absurd (hdb ha id) hne

/-- A write that the store took, with its alert: it is true exactly when it replaced another status. -/
theorem alertsTrue_write_iff {s s' : System} {a : Action} {ev : List Event} {m : MonitorId} {name : String}
    {status : MonitorStatus} (hev : alerts ev = [⟨m, name, status⟩])
    (hdb : s.db.setMonitorStatus m.val status = .ok s'.db) :
    AlertsTrue s a s' ev ↔ ∃ t, s.db.status? m.val = some t ∧ t ≠ monitorStatusToStr status := by
  have hst := Db.status?_of_setMonitorStatus hdb
  constructor
  · intro h
    obtain ⟨t, ht, hne, -⟩ := h.announced ⟨m, name, status⟩ (by simp [hev])
    exact ⟨t, ht, hne⟩
  · rintro ⟨t, ht, hne⟩
    refine ⟨fun request hreq => ?_, fun _ id hid => ?_⟩
    · rw [hev, List.mem_singleton] at hreq
      subst hreq
      exact ⟨t, ht, hne, by rw [hst, if_pos rfl]⟩
    · rw [hst] at hid
      split at hid
      · rename_i he
        simp [hev, he]
      · exact absurd rfl hid

/-- A status that the store did not take must not be announced. -/
theorem not_alertsTrue_of_not_written {s s' : System} {a : Action} {ev : List Event} {request : AlertRequest}
    (hev : request ∈ alerts ev) (hdb : s'.db = s.db) : ¬ AlertsTrue s a s' ev := by
  intro h
  obtain ⟨t, ht, hne, ht'⟩ := h.announced request hev
  rw [hdb, ht] at ht'
  exact hne (Option.some.inj ht')

/-- The monitors are stored as they were. -/
theorem status_eq {db db' : Db} (h : db'.monitors = db.monitors) (id : UInt64) : db'.status? id = db.status? id := by
  rw [Db.status?, Db.row?, h, Db.status?, Db.row?]

/-- A status is not taken when the store fails or has no row. -/
theorem of_not_written {db : Db} {fault : Bool} {id : UInt64} {status : MonitorStatus} {e : StorageError}
    (h : answer fault (db.setMonitorStatus id status) = .error e) : fault = true ∨ db.status? id = none := by
  cases fault with
  | true => exact Or.inl rfl
  | false =>
    refine Or.inr (Option.map_eq_none_iff.mpr ?_)
    cases hr : db.row? id with
    | none => rfl
    | some row =>
      obtain ⟨db', hdb⟩ := Db.setMonitorStatus_of_row hr status
      cases hdb.symm.trans h

/-- The alerts of a step are true exactly when its write changes a status. -/
theorem alertsTrue_iff {cfg : EngineConfig} {s s' : System} {a : Action} {ev : List Event} (he : Effect cfg s a s' ev) :
    AlertsTrue s a s' ev ↔ writesChange s a = true := by
  cases he with
  | @wrote p fault db hpc hdb =>
    refine (alertsTrue_write_iff (alerts_persist p s.wall true) (answer_eq_ok hdb).2).trans ?_
    simp [writesChange, hpc, (answer_eq_ok hdb).1, Option.any_eq_true]
  | @notWritten p fault e hpc hdb =>
    refine iff_of_false (not_alertsTrue_of_not_written (by rw [alerts_persist]; exact List.mem_cons_self) rfl) ?_
    rcases of_not_written hdb with rfl | hnone
    · simp [writesChange, hpc]
    · simp [writesChange, hpc, hnone]
  | @demoted stale m rest fault db hw hd hdb =>
    refine (alertsTrue_write_iff rfl (answer_eq_ok hdb).2).trans ?_
    obtain ⟨⟨row, hrow⟩, -⟩ := Db.setMonitorStatus_eq_ok (answer_eq_ok hdb).2
    have hst : s.db.status? m.id.val = some row.status := Db.status?_eq_some_iff.mpr ⟨row, hrow, rfl⟩
    simp [writesChange, hw, hd, (answer_eq_ok hdb).1, hst]
  | @notDemoted stale m rest fault e hw hd hdb =>
    refine iff_of_true (alertsTrue_of_nil rfl fun _ _ => rfl) ?_
    rcases of_not_written hdb with rfl | hnone
    · simp [writesChange, hw]
    · simp [writesChange, hw, hnone]
  | @passedOver stale m rest fault hw hd =>
    simp only [writesChange, hw, hd, Bool.not_false, Bool.true_or, iff_true]
    exact alertsTrue_of_nil rfl fun _ _ => rfl
  | resynced hpc =>
    refine iff_of_true (alertsTrue_of_nil (alerts_eq_nil fun e he => ?_) fun _ _ => rfl) rfl
    obtain ⟨id, rfl, -⟩ := Scheduler.of_mem_events_resync he
    rfl
  | dispatched hpc =>
    refine iff_of_true (alertsTrue_of_nil (alerts_eq_nil fun e he => ?_) fun _ _ => rfl) rfl
    rcases Scheduler.of_mem_events_dispatchDue he with ⟨task, rfl⟩ | ⟨agentId, assignment, rfl⟩ <;> rfl
  | handled hpc =>
    exact iff_of_true (alertsTrue_of_nil (alerts_eq_nil (sets_handle _ _ _)) fun _ _ => rfl) rfl
  | flushed hw => exact iff_of_true (alertsTrue_of_nil rfl fun _ => status_eq (monitors_of_flush hw).1) rfl
  | heartbeat hm => exact iff_of_true (alertsTrue_of_nil rfl fun _ => status_eq hm) rfl
  | called hc => exact iff_of_true (alertsTrue_of_nil rfl fun ha => absurd rfl (ha _)) rfl
  | _ => exact iff_of_true (alertsTrue_of_nil rfl fun _ _ => rfl) rfl

/-! ## What is settled when a status is written -/

/-- The invariant: wherever the store says Up or Down, so do the registry's copy, unless its status is on its way to the store, and the
list that a resync has read; a status that the scheduler waits to write is in its copy and not in the store; and the store says Stale
of no monitor that a sweep still has to mark. -/
structure Settled (s : System) : Prop where
  apt : s.Apt
  copied : ∀ id state status, s.scheduler.registry.lookup id = some state →
    (∀ p, s.pc = .persisting p → p.cause.monitorId.val ≠ id) → status = .up ∨ status = .down →
    s.db.status? id = some (monitorStatusToStr status) → state.monitor.status = status
  listed : ∀ monitors after m status, s.pc = .listed (.ok monitors) after → m ∈ monitors → Scheduler.active m = true →
    status = .up ∨ status = .down → s.db.status? m.id.val = some (monitorStatusToStr status) → m.status = status
  decided : ∀ p, s.pc = .persisting p → s.db.status? p.cause.monitorId.val ≠ some (monitorStatusToStr p.status) ∧
    ∀ state, s.scheduler.registry.lookup p.cause.monitorId.val = some state → state.monitor.status = p.status
  awaited : ∀ stale rest, s.watchdog = .sweeping stale rest → (rest.map fun m => m.id.val.toInt64).Nodup ∧
    ∀ m ∈ rest, Watchdog.demotes stale m = true → s.db.status? m.id.val ≠ some (monitorStatusToStr .stale)

theorem settled_start (cfg : EngineConfig) (k8sFactory : Option K8sCollectorFactory) (db : Db) :
    Settled (System.start cfg k8sFactory db) where
  apt := by
    intro p hp
    cases hp
  copied := by
    intro id state status hr
    cases hr
  listed := by
    intro monitors after m status hpc
    cases hpc
  decided := by
    intro p hp
    cases hp
  awaited := by
    intro stale rest hw
    cases hw

section

variable {cfg : EngineConfig} {s s' : System} {a : Action} {ev : List Event}

/-- A status that no user writes was stored before a step, or the scheduler or the watchdog has written it. -/
theorem stored_of_effect {id : UInt64} {status : MonitorStatus} (he : Effect cfg s a s' ev)
    (hstatus : status = .up ∨ status = .down ∨ status = .stale) (hst : s'.db.status? id = some (monitorStatusToStr status)) :
    s.db.status? id = some (monitorStatusToStr status) ∨
      (∃ fault p, a = .scheduler (.setMonitorStatus fault) ∧ s.pc = .persisting p ∧ p.cause.monitorId.val = id ∧
        p.status = status) ∨
      ∃ fault stale m rest, a = .watchdog (.next fault) ∧ s.watchdog = .sweeping stale (m :: rest) ∧
        Watchdog.demotes stale m = true ∧ m.id.val = id ∧ status = .stale := by
  rcases monitors_of_effect he with hm | ⟨m, status', hmem, hset⟩ | ⟨u, rfl, hc⟩
  · exact Or.inl (by rwa [status_eq hm] at hst)
  · rw [Db.status?_of_setMonitorStatus hset] at hst
    split at hst
    · rename_i hid
      obtain rfl := monitorStatusToStr_inj.mp (Option.some.inj hst)
      rcases sets_of_effect he hmem rfl with ⟨fault, p, ha, hpc, hp, hps⟩ | ⟨fault, stale, m', rest, ha, hw, hd, hm', hs⟩
      · exact Or.inr (Or.inl ⟨fault, p, ha, hpc, by rw [hp, hid], hps⟩)
      · exact Or.inr (Or.inr ⟨fault, stale, m', rest, ha, hw, hd, by rw [hm', hid], hs⟩)
    · exact Or.inl hst
  · rcases status_of_call hc hst with hst | hst | ⟨hst, -⟩
    · exact Or.inl hst
    · rcases hstatus with rfl | rfl | rfl <;> exact absurd hst (by decide)
    · rcases hstatus with rfl | rfl | rfl <;> exact absurd hst (by decide)

/-- Up and Down are written by the scheduler alone. -/
theorem judged_of_effect {id : UInt64} {status : MonitorStatus} (he : Effect cfg s a s' ev)
    (hstatus : status = .up ∨ status = .down) (hst : s'.db.status? id = some (monitorStatusToStr status)) :
    s.db.status? id = some (monitorStatusToStr status) ∨
      ∃ fault p, a = .scheduler (.setMonitorStatus fault) ∧ s.pc = .persisting p ∧ p.cause.monitorId.val = id ∧
        p.status = status := by
  rcases stored_of_effect he (hstatus.elim Or.inl fun h => Or.inr (Or.inl h)) hst with h | h | ⟨_, _, _, _, _, _, _, _, rfl⟩
  · exact Or.inl h
  · exact Or.inr h
  · rcases hstatus with h | h <;> cases h

/-- The status that an outcome can move its monitor to is one that no user writes. -/
theorem status_verdict (v : Verdict) : v.status = .up ∨ v.status = .down ∨ v.status = .stale := by
  unfold Verdict.status
  split <;> simp

/-- A transition is to another status than the copy's. -/
theorem ne_of_transitions {state : MonitorState} {v : Verdict} (h : Scheduler.transitions state v = true) :
    state.monitor.status ≠ v.status := by
  cases v with
  | stale message => simpa [Scheduler.transitions, Verdict.status] using h
  | applied success message latencyMs =>
    intro heq
    cases success with
    | true => simp [Scheduler.transitions, FlapState.observe_success, heq, Verdict.status] at h
    | false => simp [Scheduler.transitions, FlapState.observe_failure, heq, Verdict.status] at h

/-- The copy of the monitor has the status that is on its way to the store. -/
theorem copy_of_persist {sch : Scheduler} {wall : UInt64} {cause : Handled} {p : Scheduler.Persist} {state : MonitorState}
    (h : (sch.handle wall cause).persist = some p)
    (hr : (sch.handle wall cause).scheduler.registry.lookup cause.monitorId.val = some state) : state.monitor.status = p.status := by
  have hh := Scheduler.handles_handle sch wall cause
  generalize sch.handle wall cause = x at h hr hh
  cases hh with
  | goesStale | transition =>
    cases h
    rw [HashMap.lookup_insert, if_pos rfl] at hr
    cases hr
    rfl
  | staysStale | unregistered | counted => cases h

/-- An outcome with nothing to persist leaves the statuses of the copies. -/
theorem copy_of_not_persist {sch : Scheduler} {wall : UInt64} {cause : Handled} {state : MonitorState}
    (h : (sch.handle wall cause).persist = none)
    (hr : (sch.handle wall cause).scheduler.registry.lookup cause.monitorId.val = some state) :
    ∃ state₀, sch.registry.lookup cause.monitorId.val = some state₀ ∧ state.monitor.status = state₀.monitor.status := by
  have hh := Scheduler.handles_handle sch wall cause
  generalize sch.handle wall cause = x at h hr hh
  cases hh with
  | goesStale | transition => cases h
  | staysStale => exact ⟨state, hr, rfl⟩
  | unregistered => exact ⟨state, hr, rfl⟩
  | counted hv hr₀ =>
    rw [HashMap.lookup_insert, if_pos rfl] at hr
    cases hr
    exact ⟨_, hr₀, rfl⟩

/-- A write of the scheduler that meets the condition is taken. -/
theorem written_of_agree {p : Scheduler.Persist} {fault : Bool} {e : StorageError}
    (hok : writersAgree s (.scheduler (.setMonitorStatus fault)) = true) (hpc : s.pc = .persisting p)
    (hdb : answer fault (s.db.setMonitorStatus p.cause.monitorId.val p.status) = .error e) : False := by
  simp only [writersAgree, hpc, Bool.and_eq_true, Bool.not_eq_true'] at hok
  obtain ⟨⟨rfl, hsome⟩, -⟩ := hok
  obtain ⟨row, hrow⟩ := Option.isSome_iff_exists.mp hsome
  obtain ⟨db, hset⟩ := Db.setMonitorStatus_of_row hrow p.status
  cases hdb.symm.trans hset

/-- The copies keep up with the store. -/
theorem copied_step (hI : Settled s) (hok : writersAgree s a = true) (he : Effect cfg s a s' ev) (id : UInt64)
    (state : MonitorState) (status : MonitorStatus) (hr : s'.scheduler.registry.lookup id = some state)
    (hp : ∀ p, s'.pc = .persisting p → p.cause.monitorId.val ≠ id) (hstatus : status = .up ∨ status = .down)
    (hst : s'.db.status? id = some (monitorStatusToStr status)) : state.monitor.status = status := by
  have hst₀ := judged_of_effect he hstatus hst
  cases he with
  | @wrote p fault db hpc hdb =>
    have hset := Db.status?_of_setMonitorStatus (answer_eq_ok hdb).2 id
    by_cases hid : id = p.cause.monitorId.val
    · subst hid
      rw [if_pos rfl] at hset
      rw [(hI.decided p hpc).2 state hr]
      exact monitorStatusToStr_inj.mp (Option.some.inj (hset.symm.trans hst))
    · rw [if_neg hid] at hset
      refine hI.copied id state status hr (fun p' hp' => ?_) hstatus (hset.symm.trans hst)
      cases hpc.symm.trans hp'
      exact Ne.symm hid
  | notWritten hpc hdb => exact (written_of_agree hok hpc hdb).elim
  | resynced hpc =>
    -- the copy is the one listed
    rw [Scheduler.lookup_resync] at hr
    obtain ⟨m, hm, rfl⟩ := Option.map_eq_some_iff.mp hr
    obtain ⟨hmem, hactive, rfl⟩ := Scheduler.of_registers hm
    have hcopy : (Scheduler.resyncedState s.clock (s.scheduler.registry.lookup m.id.val) m).monitor = m := by
      unfold Scheduler.resyncedState
      split <;> rfl
    rw [hcopy]
    exact hI.listed _ _ m status hpc hmem hactive hstatus hst
  | dispatched hpc =>
    obtain ⟨state₀, hr₀, hm, -⟩ := Scheduler.of_lookup_dispatchDue hr
    rw [hm]
    exact hI.copied id state₀ status hr₀ (by simp [hpc]) hstatus hst
  | @handled cause hpc =>
    by_cases hid : id = cause.monitorId.val
    · subst hid
      cases hpersist : (s.scheduler.handle s.wall cause).persist with
      | some p =>
        -- the status is on its way to the store
        obtain ⟨hcause, -⟩ := Scheduler.persist_handle hpersist
        exact absurd (congrArg (·.monitorId.val) hcause) (hp p ((Pc.handled_eq_persisting _ _).mpr hpersist))
      | none =>
        obtain ⟨state₀, hr₀, hs⟩ := copy_of_not_persist hpersist hr
        rw [hs]
        exact hI.copied _ state₀ status hr₀ (by simp [hpc]) hstatus hst
    · rw [Scheduler.lookup_handle_of_ne _ _ hid] at hr
      exact hI.copied id state status hr (by simp [hpc]) hstatus hst
  | resyncTick hpc | listedMonitors hpc | notResynced hpc | joined hpc | received hpc | receivedUnknown hpc | stopped hpc =>
    exact hI.copied id state status hr (by simp [hpc]) hstatus hst
  | _ =>
    refine hI.copied id state status hr hp hstatus (hst₀.resolve_right ?_)
    rintro ⟨_, _, h, -⟩
    cases h

/-- What is listed is as the store has it. -/
theorem status_of_listed {db : Db} {monitors : List Monitor} {m : Monitor} {t : String} (h : db.listMonitors = .ok monitors)
    (hm : m ∈ monitors) (hvalid : validIntervalSecs m.intervalSecs = true) (hst : db.status? m.id.val = some t) :
    t = monitorStatusToStr m.status := by
  obtain ⟨row, hrow, hread⟩ := Db.row_of_mem_listMonitors h hm
  obtain ⟨row', hrow', rfl⟩ := Db.status?_eq_some_iff.mp hst
  cases hrow.symm.trans hrow'
  have hstatus := (rowToMonitor_eq_ok hread).2.2.2.2.2.2
  rwa [if_pos hvalid] at hstatus

/-- The list of a resync keeps up with the store until it is applied. -/
theorem listed_step (hI : Settled s) (he : Effect cfg s a s' ev) (monitors : List Monitor) (after : Option PushedResult)
    (m : Monitor) (status : MonitorStatus) (hpc' : s'.pc = .listed (.ok monitors) after) (hm : m ∈ monitors)
    (hactive : Scheduler.active m = true) (hstatus : status = .up ∨ status = .down)
    (hst : s'.db.status? m.id.val = some (monitorStatusToStr status)) : m.status = status := by
  have hst₀ := judged_of_effect he hstatus hst
  cases he with
  | @listedMonitors fault after hpc =>
    injection hpc' with hlist
    have hvalid : validIntervalSecs m.intervalSecs = true := by
      simp only [Scheduler.active, decide_eq_true_eq] at hactive
      exact hactive.2
    exact (monitorStatusToStr_inj.mp (status_of_listed (answer_eq_ok hlist).2 hm hvalid hst)).symm
  | @resynced _ after' | @notResynced _ after' => cases after' <;> cases hpc'
  | @joined joined hpc =>
    cases hj : (Scheduler.handleJoined s.tasks joined).2 <;> simp [hj] at hpc'
  | @handled cause hpc =>
    cases hpersist : (s.scheduler.handle s.wall cause).persist <;> simp [hpersist] at hpc'
  | resyncTick | received | receivedUnknown | wrote | notWritten | stopped => cases hpc'
  | dispatched hpc | shutdown hpc => cases hpc.symm.trans hpc'
  | _ =>
    refine hI.listed monitors after m status hpc' hm hactive hstatus (hst₀.resolve_right ?_)
    rintro ⟨_, _, h, -⟩
    cases h

/-- A status is on its way to the store only when it is news to it. -/
theorem decided_step (hI : Settled s) (hok : writersAgree s a = true) (he : Effect cfg s a s' ev) (p : Scheduler.Persist)
    (hpc' : s'.pc = .persisting p) : s'.db.status? p.cause.monitorId.val ≠ some (monitorStatusToStr p.status) ∧
      ∀ state, s'.scheduler.registry.lookup p.cause.monitorId.val = some state → state.monitor.status = p.status := by
  have hapt := apt_step hI.apt he p hpc'
  have hst₀ := fun (hst : s'.db.status? p.cause.monitorId.val = some (monitorStatusToStr p.status)) =>
    stored_of_effect he (hapt ▸ status_verdict p.cause.verdict) hst
  cases he with
  | @handled cause hpc =>
    have hpersist := (Pc.handled_eq_persisting _ _).mp hpc'
    obtain ⟨rfl, -, state, hr, htrans⟩ := Scheduler.persist_handle hpersist
    refine ⟨fun hst => ?_, fun state hr => copy_of_persist hpersist hr⟩
    refine ne_of_transitions htrans ?_
    rw [← hapt]
    rcases status_verdict p.cause.verdict with hv | hv | hv
    · exact hI.copied _ state _ hr (by simp [hpc]) (Or.inl (hapt.trans hv)) hst
    · exact hI.copied _ state _ hr (by simp [hpc]) (Or.inr (hapt.trans hv)) hst
    · -- the copy says Stale if the store does
      rw [hapt.trans hv] at hst ⊢
      cases hverdict : p.cause.verdict with
      | stale message => simpa [writersAgree, hpc, hverdict, hst, hr] using hok
      | applied success => cases success <;> simp [hverdict, Verdict.status] at hv
  | resyncTick | listedMonitors | received | receivedUnknown | wrote | notWritten | stopped => cases hpc'
  | resynced | notResynced => exact absurd hpc' (Pc.resume_ne_persisting _ _)
  | joined => exact absurd hpc' (Pc.joined_ne_persisting _ _)
  | dispatched hpc | shutdown hpc => cases hpc.symm.trans hpc'
  | @demoted stale m rest fault db hw hd hdb =>
    refine ⟨fun hst => ?_, (hI.decided p hpc').2⟩
    rcases hst₀ hst with hst | ⟨_, _, h, -⟩ | ⟨_, _, _, _, -, hw', -, hid, hs⟩
    · exact (hI.decided p hpc').1 hst
    · cases h
    · -- a sweep marks no monitor that the scheduler waits to write Stale for
      cases hw.symm.trans hw'
      have hpc : s.pc = .persisting p := hpc'
      simp [writersAgree, hw, hd, (answer_eq_ok hdb).1, Pc.persistsStale, hpc, hid, hs] at hok
  | notDemoted | passedOver => exact hI.decided p hpc'
  | _ =>
    refine ⟨fun hst => (hI.decided p hpc').1 ((hst₀ hst).resolve_right ?_), (hI.decided p hpc').2⟩
    rintro (⟨_, _, h, -⟩ | ⟨_, _, _, _, h, -⟩) <;> cases h

/-- A sweep under way has turned to the monitors that are left of its list. -/
theorem of_goOn {stale stale' : List UInt64} {rest rest' : List Monitor}
    (h : Watchdog.goOn stale rest = .sweeping stale' rest') : stale' = stale ∧ rest' = rest := by
  unfold Watchdog.goOn at h
  split at h
  · cases h
  · cases h
    exact ⟨rfl, rfl⟩

/-- The monitors that a sweep has still to mark are not stored as stale. -/
theorem awaited_step (hI : Settled s) (hok : writersAgree s a = true) (he : Effect cfg s a s' ev) (stale : List UInt64)
    (rest : List Monitor) (hw' : s'.watchdog = .sweeping stale rest) : (rest.map fun m => m.id.val.toInt64).Nodup ∧
      ∀ m ∈ rest, Watchdog.demotes stale m = true → s'.db.status? m.id.val ≠ some (monitorStatusToStr .stale) := by
  have hst₀ := fun (m : Monitor) (hst : s'.db.status? m.id.val = some (monitorStatusToStr .stale)) =>
    stored_of_effect he (Or.inr (Or.inr rfl)) hst
  cases he with
  | @sweepBegins stale' fault monitors hw hl =>
    obtain ⟨rfl, rfl⟩ := of_goOn hw'
    have hlist := (answer_eq_ok hl).2
    refine ⟨Db.nodup_listMonitors hlist, fun m hm hd hst => ?_⟩
    -- a monitor that was listed as stale, or as one whose interval is no interval, is not marked
    unfold Watchdog.demotes at hd
    split at hd
    · cases hd
    · simp only [decide_eq_true_eq] at hd
      obtain ⟨-, -, hne, hknown⟩ := hd
      obtain ⟨row, -, hread⟩ := Db.row_of_mem_listMonitors hlist hm
      have hstatus := (rowToMonitor_eq_ok hread).2.2.2.2.2.2
      by_cases hvalid : validIntervalSecs m.intervalSecs = true
      · exact hne (monitorStatusToStr_inj.mp (status_of_listed hlist hm hvalid hst)).symm
      · rw [if_neg hvalid] at hstatus
        exact hknown hstatus
  | @demoted stale' m rest' fault db hw hd hdb =>
    obtain ⟨rfl, rfl⟩ := of_goOn hw'
    obtain ⟨hnodup, hrest⟩ := hI.awaited _ _ hw
    rw [List.map_cons, List.nodup_cons] at hnodup
    refine ⟨hnodup.2, fun m' hm' hd' hst => ?_⟩
    rw [Db.status?_of_setMonitorStatus (answer_eq_ok hdb).2] at hst
    split at hst
    · rename_i hid
      -- the list has every monitor once
      exact hnodup.1 (List.mem_map.mpr ⟨m', hm', by rw [hid]⟩)
    · exact hrest m' (List.mem_cons_of_mem _ hm') hd' hst
  | @notDemoted stale' m rest' fault e hw | @passedOver stale' m rest' fault hw =>
    obtain ⟨rfl, rfl⟩ := of_goOn hw'
    obtain ⟨hnodup, hrest⟩ := hI.awaited _ _ hw
    rw [List.map_cons, List.nodup_cons] at hnodup
    exact ⟨hnodup.2, fun m' hm' => hrest m' (List.mem_cons_of_mem _ hm')⟩
  | agentsListed hw hnot => exact absurd hw' (hnot _ _)
  | sweepSkipped => cases hw'
  | notWritten => exact hI.awaited _ _ hw'
  | @wrote p fault db hpc hdb =>
    refine ⟨(hI.awaited _ _ hw').1, fun m hm hd hst => ?_⟩
    rcases hst₀ m hst with hst | ⟨_, p', -, hpc', hid, hs⟩ | ⟨_, _, _, _, h, -⟩
    · exact (hI.awaited _ _ hw').2 m hm hd hst
    · -- the scheduler writes Stale for no monitor that the sweep has still to mark
      cases hpc.symm.trans hpc'
      have hw : s.watchdog = .sweeping stale rest := hw'
      simp only [writersAgree, hpc, hs, bne_self_eq_false, Bool.false_or, Watchdog.awaits, hw, Bool.and_eq_true,
        Bool.not_eq_true', List.any_eq_false, Bool.and_eq_true, beq_iff_eq, not_and] at hok
      exact hok.2 m hm hd hid.symm
    · cases h
  | _ =>
    refine ⟨(hI.awaited _ _ hw').1, fun m hm hd hst => (hI.awaited _ _ hw').2 m hm hd ((hst₀ m hst).resolve_right ?_)⟩
    rintro (⟨_, _, h, -⟩ | ⟨_, _, _, _, h, -⟩) <;> cases h

/-- Every step that meets the condition keeps the invariant. -/
theorem settled_step (hI : Settled s) (hok : writersAgree s a = true) (he : Effect cfg s a s' ev) : Settled s' where
  apt := apt_step hI.apt he
  copied := copied_step hI hok he
  listed := listed_step hI he
  decided := decided_step hI hok he
  awaited := awaited_step hI hok he

end

theorem settled_of_run {cfg : EngineConfig} {k8sFactory : Option K8sCollectorFactory} {db : Db} {s : System} {log : List Event}
    (h : Run (System.step cfg) (fun s a => writersAgree s a = true) (System.start cfg k8sFactory db) s log) : Settled s :=
  h.stateInvariant (settled_start cfg k8sFactory db) fun _ _ _ _ hI hok hs => settled_step hI hok (effect_of_step hs)

/-- In a settled state the write of a step that meets the condition changes a status. -/
theorem writesChange_of_settled {s : System} {a : Action} (hI : Settled s) (hok : writersAgree s a = true) :
    writesChange s a = true := by
  unfold writesChange
  split
  · rename_i fault
    split
    · rename_i p hpc
      obtain ⟨hnews, -⟩ := hI.decided p hpc
      simp only [writersAgree, hpc, Bool.and_eq_true, Bool.not_eq_true'] at hok
      obtain ⟨⟨rfl, hsome⟩, -⟩ := hok
      obtain ⟨row, hrow⟩ := Option.isSome_iff_exists.mp hsome
      have hst : s.db.status? p.cause.monitorId.val = some row.status := Db.status?_eq_some_iff.mpr ⟨row, hrow, rfl⟩
      rw [hst] at hnews ⊢
      simpa using hnews
    · rfl
  · rename_i fault
    split
    · rename_i stale m rest hw
      obtain ⟨-, hrest⟩ := hI.awaited _ _ hw
      cases hd : Watchdog.demotes stale m with
      | false => rfl
      | true =>
        have hnews := hrest m List.mem_cons_self hd
        cases hst : s.db.status? m.id.val with
        | none => simp
        | some t =>
          rw [hst] at hnews
          simpa using Or.inr hnews
    · rfl
  · rfl

end AlertsAux

/-- The condition is enough: in every run whose steps meet it, the alerts of every step are true. -/
theorem alerts_hold_when_writers_agree (cfg : EngineConfig) : AlertsHold cfg writersAgree := by
  intro k8sFactory db s s' log ev a hrun hok hs
  have hsettled := AlertsAux.settled_of_run hrun
  exact (AlertsAux.alertsTrue_iff (effect_of_step hs)).mpr (AlertsAux.writesChange_of_settled hsettled hok)

/-! ## Two runs -/

/-- An agent is registered, a monitor that it checks is added and registered, and the agent falls silent: the watchdog makes
the monitor stale and announces it. -/
def wentSilent : List Action := [
  .user (.registerAgent "edge" "host" none "secret" fun _ => 0),
  .user (.addMonitor "disk" "/" .hostAgentCheck 60 (some 1) fun _ => 0),
  .scheduler (.listMonitors false), .scheduler .listReturned, .agent (.configure 1 1), .wallClock 100,
  .watchdog (.listAgents false), .watchdog (.listMonitors false), .watchdog (.next false)]

/-- The agent pushes an outcome of the monitor, and the scheduler takes it up. -/
def pushes (outcome : ProbeOutcome) : List Action := [
  .agent (.ingest 1 ⟨1, 0⟩ outcome), .scheduler .recv, .scheduler .handle]

/-- A change is announced twice: the agent's next push could not run the check, the registry's copy is not stale yet, and the
scheduler announces stale of a monitor that is stored as stale. -/
theorem stale_announced_twice : ¬ AlertsHold EngineConfig.default always := by
  intro h
  let step := System.step EngineConfig.default
  let s₀ := System.start EngineConfig.default none Db.empty
  let x := after step always s₀ (wentSilent ++ pushes (.unavailable "no df"))
  let x' := after step always x.1 [.scheduler (.setMonitorStatus false)]
  have hr : Run step (fun s a => always s a = true) s₀ x.1 x.2 := run_after (by decide +kernel)
  have hs := step_after step always x.1 (.scheduler (.setMonitorStatus false)) (by decide +kernel)
  have hmem : (⟨⟨1, 0⟩, "disk", .stale⟩ : AlertRequest) ∈ alerts x'.2 := by decide +kernel
  obtain ⟨t, ht, hne, -⟩ := (h none Db.empty x.1 x'.1 x.2 x'.2 _ hr rfl hs.2).announced _ hmem
  have hst : x.1.db.status? 1 = some "stale" := by decide +kernel
  cases hst.symm.trans ht
  exact hne rfl

/-- The next resync lists the monitors. -/
def resyncs : List Action := [.scheduler .resyncTick, .scheduler (.listMonitors false), .scheduler .listReturned]

/-- When a resync comes before the outcome that could not be had, nothing is announced again; when the push after it is a success, the
scheduler announces a change. -/
theorem recovery_announced :
    ∃ s s' : System, s.db.status? 1 = some "stale" ∧ s'.db.status? 1 = some "up" := by
  let step := System.step EngineConfig.default
  let s₀ := System.start EngineConfig.default none Db.empty
  let x := after step writersAgree s₀ (wentSilent ++ resyncs ++ pushes (.unavailable "no df") ++ pushes (.success 2))
  let x' := after step writersAgree x.1 [.scheduler (.setMonitorStatus false)]
  have hr : Run step (fun s a => writersAgree s a = true) s₀ x.1 x.2 := run_after (by decide +kernel)
  have hs := step_after step writersAgree x.1 (.scheduler (.setMonitorStatus false))
    (by decide +kernel)
  have hmem : (⟨⟨1, 0⟩, "disk", .up⟩ : AlertRequest) ∈ alerts x'.2 := by decide +kernel
  obtain ⟨-, -, -, hup⟩ :=
    (alerts_hold_when_writers_agree EngineConfig.default none Db.empty x.1 x'.1 x.2 x'.2 _ hr hs.1 hs.2).announced _ hmem
  exact ⟨x.1, x'.1, by decide +kernel, hup⟩

end Monitra
