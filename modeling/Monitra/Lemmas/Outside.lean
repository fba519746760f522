import Monitra.Lemmas.Hiding

/-!
# A step from outside a domain

For each party of the daemon, what its step leaves outside a domain is what is seen of the step makes of what was there
(`outside_step`). A step on account of the domain's agent leaves it as it was.
-/

namespace Monitra
namespace IsolationAux

open Results

variable {D : Domain} {db : Db} {cfg : EngineConfig} {s s' : System} {ev : List Event}

/-! ## The scheduler -/

/-- The monitors outside the domain are those of the list that are. -/
theorem monitors_outside {monitors : List Monitor} (h : s.db.listMonitors = .ok monitors) :
    (s.outside D).monitors D = monitors.filter fun m => !D.has m.id.val := by
  have hrows := forall₂_of_mapM h
  unfold Outside.monitors
  simp only [System.outside, Domain.hideDb, Table.mask]
  generalize s.db.monitors.rows = rows at hrows
  clear h
  induction hrows with
  | nil => rfl
  | @cons row m rows monitors hrow _ ih =>
    have hid : row.id.toUInt64 = m.id.val := by
      rw [(rowToMonitor_eq_ok hrow).1]
    rw [List.map_cons, List.filter_cons, List.filter_cons, D.monitorMask.key_apply, hid]
    by_cases hm : D.has m.id.val = true
    · simp only [hm, Bool.not_true, Bool.false_eq_true, if_false]
      exact ih
    · have hm : D.has m.id.val = false := by simpa using hm
      simp only [hm, Bool.not_false, if_true, List.filterMap_cons]
      rw [monitorMask_apply (hid ▸ hm), hrow]
      exact congrArg (m :: ·) ih

/-- The entry of an id is what the registry has for it, without the deadline. -/
theorem lookup_entry (v : Outside) (id : UInt64) : ((v.entry id).registry.lookup id).map MonitorState.core = v.registry id := by
  unfold Outside.entry
  cases v.registry id with
  | none => rfl
  | some entry =>
    simp only [HashMap.lookup_insert, if_true]
    rfl

/-- Of the listed monitors the ones outside the domain decide what a resync registers outside it. -/
theorem registers_filter {monitors : List Monitor} {id : UInt64} (hid : D.has id = false) :
    Scheduler.registers (monitors.filter fun m => !D.has m.id.val) id = Scheduler.registers monitors id := by
  unfold Scheduler.registers
  rw [List.filter_filter]
  congr 1
  refine List.filter_congr fun m _ => ?_
  by_cases hm : m.id.val = id
  · simp [hm, hid]
  · simp [hm]

theorem registers_filter_has {monitors : List Monitor} {id : UInt64} (hid : D.has id = true) :
    Scheduler.registers (monitors.filter fun m => !D.has m.id.val) id = none := by
  unfold Scheduler.registers
  rw [List.filter_filter, List.filter_eq_nil_iff.mpr]
  · rfl
  · intro m _
    by_cases hm : m.id.val = id
    · simp [hm, hid]
    · simp [hm]

/-- A resync makes of an entry what it makes of it without its deadline. -/
theorem core_resync (s s' : Scheduler) (now now' : Instant) (monitors : List Monitor) (id : UInt64)
    (h : (s.registry.lookup id).map MonitorState.core = (s'.registry.lookup id).map MonitorState.core) :
    ((s.resync now monitors).1.registry.lookup id).map MonitorState.core =
      ((s'.resync now' monitors).1.registry.lookup id).map MonitorState.core := by
  rw [Scheduler.lookup_resync, Scheduler.lookup_resync]
  cases Scheduler.registers monitors id with
  | none => rfl
  | some m =>
    simp only [Option.map_some, Option.some.injEq]
    cases hs : s.registry.lookup id <;> cases hs' : s'.registry.lookup id <;> rw [hs, hs'] at h
    · rfl
    · cases h
    · cases h
    · simp only [Option.map_some, Option.some.injEq, MonitorState.core, Prod.mk.injEq] at h
      simp only [Scheduler.resyncedState, MonitorState.core, h.2]

/-- After a resync the scheduler handles the pushed result that it was for, unless that is hidden. -/
theorem hidePc_resume (after : Option PushedResult) : D.hidePc (.resume after) = .resume (D.hideAfter after) := by
  cases after with
  | none => rfl
  | some pushed =>
    by_cases hp : D.has pushed.monitorId.val = true <;>
      simp [Pc.resume, Domain.hidePc, Domain.hideAfter, Handled.monitorId, Option.filter, hp]

theorem outside_resync {monitors : List Monitor} {after : Option PushedResult} (hpc : s.pc = .listed (.ok monitors) after) :
    System.outside D { s with scheduler := (s.scheduler.resync s.clock monitors).1, pc := .resume after } =
      (s.outside D).step D cfg .listReturned := by
  have hpc' : (s.outside D).pc = .listed (.ok (monitors.filter fun m => !D.has m.id.val)) (D.hideAfter after) := by
    simp only [System.outside, hpc, Domain.hidePc]
  simp only [Outside.step, hpc', Outside.resync]
  simp only [System.outside, hidePc_resume]
  congr 1
  funext id
  split
  · rename_i hid
    rw [Scheduler.lookup_resync, registers_filter_has hid]
    rfl
  · rename_i hid
    have hid : D.has id = false := by simpa using hid
    have hcore : (s.scheduler.registry.lookup id).map MonitorState.core =
        (((s.outside D).entry id).registry.lookup id).map MonitorState.core := by
      rw [lookup_entry]
      simp [System.outside, hid]
    rw [Scheduler.lookup_resync (Outside.entry _ id), registers_filter hid, ← Scheduler.lookup_resync]
    exact core_resync _ _ _ _ _ _ hcore

/-- The handling of an outcome depends on the entry of its monitor alone, and not on the deadline in it. -/
theorem handle_of_core (wall : UInt64) {s s' : Scheduler} {cause : Handled}
    (h : (s.registry.lookup cause.monitorId.val).map MonitorState.core =
      (s'.registry.lookup cause.monitorId.val).map MonitorState.core) :
    (s.handle wall cause).events = (s'.handle wall cause).events ∧
      (s.handle wall cause).persist = (s'.handle wall cause).persist ∧
      ((s.handle wall cause).scheduler.registry.lookup cause.monitorId.val).map MonitorState.core =
        ((s'.handle wall cause).scheduler.registry.lookup cause.monitorId.val).map MonitorState.core := by
  unfold Scheduler.handle Scheduler.markStaleAndRecord Scheduler.applyResult
  cases hs : s.registry.lookup cause.monitorId.val <;> cases hs' : s'.registry.lookup cause.monitorId.val <;>
    rw [hs, hs'] at h
  · cases cause.verdict <;> simp [hs, hs']
  · cases h
  · cases h
  · rename_i state state'
    obtain ⟨monitor, nextCheckAt, flap⟩ := state
    obtain ⟨monitor', nextCheckAt', flap'⟩ := state'
    simp only [Option.map_some, MonitorState.core, Option.some.injEq, Prod.mk.injEq] at h
    obtain ⟨rfl, rfl⟩ := h
    cases cause.verdict with
    | applied success message latencyMs =>
      simp only [hs, hs']
      rcases flap.observe success monitor.status with ⟨flap₁, _ | newStatus⟩ <;>
        simp [MonitorState.core]
    | stale message =>
      simp only [hs, hs']
      split <;> simp [hs, hs', MonitorState.core]

/-- Results submitted with room for them join those in the channel. -/
theorem hideResults_sendAll {capacity : Nat} {queue results : List CheckResult} (hone : results.length ≤ 1)
    (hroom : (D.hideResults results).isEmpty = true ∨ queue.length < capacity) :
    D.hideResults (Channel.sendAll capacity queue results) = D.hideResults queue ++ D.hideResults results := by
  rw [Channel.sendAll_eq]
  unfold Domain.hideResults at *
  rw [List.filter_append]
  congr 1
  rcases hroom with hnone | hlt
  · have hnil := List.isEmpty_iff.mp hnone
    rw [hnil, List.filter_eq_nil_iff]
    intro r hr
    exact List.filter_eq_nil_iff.mp hnil r (List.mem_of_mem_take hr)
  · rw [List.take_of_length_le (by omega)]

theorem length_submissions_handle (s : Scheduler) (wall : UInt64) (cause : Handled) :
    (System.submissions (s.handle wall cause).events).length ≤ 1 := by
  have hh := Scheduler.handles_handle s wall cause
  generalize s.handle wall cause = x at hh
  cases hh <;> simp [System.submissions]

theorem length_submissions_resume (p : Scheduler.Persist) (wall : UInt64) :
    (System.submissions (p.resume wall)).length ≤ 1 := by
  unfold Scheduler.Persist.resume
  split <;> simp [System.submissions]

/-- The results of one monitor are hidden all, or none. -/
theorem hideResults_of {results : List CheckResult} {m : MonitorId} (h : ∀ r ∈ results, r.monitorId = m) :
    D.hideResults results = if D.has m.val then [] else results := by
  unfold Domain.hideResults
  split
  · rename_i hm
    exact List.filter_eq_nil_iff.mpr fun r hr => by simp [h r hr, hm]
  · rename_i hm
    exact List.filter_eq_self.mpr fun r hr => by simp [h r hr, hm]

theorem hideResults_handle (D : Domain) (s : Scheduler) (wall : UInt64) (cause : Handled) :
    D.hideResults (System.submissions (s.handle wall cause).events) =
      if D.has cause.monitorId.val then [] else System.submissions (s.handle wall cause).events :=
  hideResults_of fun _ hr => of_submissions_handle hr

theorem hideResults_resume (D : Domain) (p : Scheduler.Persist) (wall : UInt64) :
    D.hideResults (System.submissions (p.resume wall)) =
      if D.has p.cause.monitorId.val then [] else System.submissions (p.resume wall) :=
  hideResults_of fun _ hr => of_submissions_resume hr

/-- The state after the handling of an outcome up to its first await. -/
abbrev handledState (cfg : EngineConfig) (s : System) (cause : Handled) : System :=
  { s with
    scheduler := (s.scheduler.handle s.wall cause).scheduler
    pc := (s.scheduler.handle s.wall cause).persist.elim .select .persisting
    writer := s.writer.submit cfg.writerCapacity (System.submissions (s.scheduler.handle s.wall cause).events) }

/-- The scheduler after the handling of an outcome waits for it, or for nothing. -/
theorem hidePc_handle {s : Scheduler} {wall : UInt64} {cause : Handled} :
    D.hidePc ((s.handle wall cause).persist.elim .select .persisting) =
      if D.has cause.monitorId.val then .select else (s.handle wall cause).persist.elim .select .persisting := by
  cases hp : (s.handle wall cause).persist with
  | none => simp [Domain.hidePc]
  | some p =>
    rw [Option.elim_some]
    simp only [Domain.hidePc, (Scheduler.persist_handle hp).1]

theorem outside_handle {cause : Handled} (hpc : s.pc = .handling cause) (hid : D.has cause.monitorId.val = false)
    (hroom : (D.hideResults (System.submissions (s.scheduler.handle s.wall cause).events)).isEmpty = true ∨
      s.writer.queue.length < cfg.writerCapacity) :
    (handledState cfg s cause).outside D = (s.outside D).step D cfg .handle := by
  have hcore : (s.scheduler.registry.lookup cause.monitorId.val).map MonitorState.core =
      (((s.outside D).entry cause.monitorId.val).registry.lookup cause.monitorId.val).map MonitorState.core := by
    rw [lookup_entry]
    simp [System.outside, hid]
  obtain ⟨hevents, hpersist, hentry⟩ := handle_of_core s.wall hcore
  have hpc' : (s.outside D).pc = .handling cause := by
    simp only [System.outside, hpc, Domain.hidePc, hid, Bool.false_eq_true, if_false]
  have hsub := hideResults_handle D s.scheduler s.wall cause
  simp only [Outside.step, hpc']
  refine Outside.ext rfl rfl rfl ?_ rfl ?_ rfl ?_ rfl
  · funext id
    simp only [System.outside, Outside.handle]
    by_cases h : id = cause.monitorId.val
    · subst h
      simp only [hid, Bool.false_eq_true, if_false, Function.update_self]
      exact hentry
    · rw [Function.update_of_ne h, Scheduler.lookup_handle_of_ne _ _ h]
  · simp only [System.outside, Outside.handle]
    rw [hidePc_handle, hid, if_neg Bool.false_ne_true, hpersist]
    rfl
  · simp only [System.outside, Outside.handle, Writer.submit]
    rw [hideResults_sendAll (length_submissions_handle _ _ _) hroom, hsub, hid, if_neg Bool.false_ne_true, hevents]
    rfl

/-- The handling of an outcome of one of the domain's monitors is not seen. -/
theorem outside_handle_has {cause : Handled} (hpc : s.pc = .handling cause) (hid : D.has cause.monitorId.val = true)
    (hroom : (D.hideResults (System.submissions (s.scheduler.handle s.wall cause).events)).isEmpty = true ∨
      s.writer.queue.length < cfg.writerCapacity) :
    (handledState cfg s cause).outside D = s.outside D := by
  have hsub := hideResults_handle D s.scheduler s.wall cause
  refine Outside.ext rfl rfl rfl ?_ rfl ?_ rfl ?_ rfl
  · funext id
    simp only [System.outside]
    by_cases h : id = cause.monitorId.val
    · subst h
      simp only [hid, if_true]
    · rw [Scheduler.lookup_handle_of_ne _ _ h]
  · simp only [System.outside]
    rw [hidePc_handle, hid, if_pos rfl, hpc]
    simp only [Domain.hidePc, hid, if_true]
  · simp only [System.outside, Writer.submit]
    rw [hideResults_sendAll (length_submissions_handle _ _ _) hroom, hsub, hid, if_pos rfl, List.append_nil]

/-! ## Writes of statuses -/

/-- The database after a write of a status, or as it was when the store fails. -/
def putStatus (db : Db) (fault : Bool) (id : UInt64) (status : MonitorStatus) : Db :=
  match answer fault (db.setMonitorStatus id status) with
  | .ok db => db
  | .error _ => db

theorem put_setMonitorStatus (s : System) (fault : Bool) (id : UInt64) (status : MonitorStatus) :
    (s.outside D).put D (answer fault ((s.outside D).db.setMonitorStatus id status)) =
      D.hideDb (putStatus s.db fault id status) := by
  unfold putStatus
  cases fault with
  | true => rfl
  | false =>
    simp only [answer, Bool.false_eq_true, if_false]
    cases hset : s.db.setMonitorStatus id status with
    | ok db =>
      obtain ⟨db', h', hdb⟩ := setMonitorStatus_hideDb (D := D) hset
      have h'' : (s.outside D).db.setMonitorStatus id status = .ok db' := h'
      rw [h'']
      exact hdb
    | error e =>
      have hmissing : ∃ e', (s.outside D).db.setMonitorStatus id status = .error e' := by
        unfold Db.setMonitorStatus at hset ⊢
        simp only [System.outside, Domain.hideDb, Table.get?_mask]
        cases hrow : s.db.monitors.get? id.toInt64 with
        | none => exact ⟨_, rfl⟩
        | some row =>
          rw [hrow] at hset
          cases hset
      obtain ⟨e', h'⟩ := hmissing
      rw [h']
      rfl

theorem hideDb_putStatus {fault : Bool} {id : UInt64} {status : MonitorStatus} (hid : D.has id = true) :
    D.hideDb (putStatus db fault id status) = D.hideDb db := by
  unfold putStatus
  split
  · rename_i db' hset
    exact hideDb_setMonitorStatus (answer_eq_ok hset).2 hid
  · rfl

theorem recorded_putStatus (db : Db) (fault : Bool) (id : UInt64) (status : MonitorStatus) :
    (putStatus db fault id status).checkResults = db.checkResults := by
  unfold putStatus
  split
  · rename_i db' hset
    exact (Db.setMonitorStatus_eq_ok (answer_eq_ok hset).2).2.1
  · rfl

/-- What is seen of a step does to what is left, if anything is seen. -/
def see (D : Domain) (cfg : EngineConfig) (v : Outside) (seen : Option Seen) : Outside := seen.elim v (v.step D cfg)

theorem outside_persisted (cfg : EngineConfig) {p : Scheduler.Persist} (fault : Bool) (hpc : s.pc = .persisting p)
    (hroom : (D.hideResults (System.submissions (p.resume s.wall))).isEmpty = true ∨
      s.writer.queue.length < cfg.writerCapacity) :
    System.outside D { s with
      db := putStatus s.db fault p.cause.monitorId.val p.status, pc := .select
      writer := s.writer.submit cfg.writerCapacity (System.submissions (p.resume s.wall)) } =
      see D cfg (s.outside D) (s.schedulerSeen D (.setMonitorStatus fault)) := by
  have hsub := hideResults_resume D p s.wall
  have hqueue := hideResults_sendAll (D := D) (length_submissions_resume p s.wall) hroom
  have hresults := recorded_putStatus s.db fault p.cause.monitorId.val p.status
  rw [hsub] at hqueue
  by_cases hid : D.has p.cause.monitorId.val = true
  · -- the domain's own
    rw [hid, if_pos rfl, List.append_nil] at hqueue
    simp only [System.schedulerSeen, hpc, hid, if_true, see, Option.elim_none]
    refine Outside.ext rfl (hideDb_putStatus hid) ?_ rfl rfl ?_ rfl hqueue rfl
    · simp only [System.outside, hresults]
    · simp only [System.outside, hpc, Domain.hidePc, hid, if_true]
  · have hid : D.has p.cause.monitorId.val = false := by simpa using hid
    rw [hid, if_neg Bool.false_ne_true] at hqueue
    have hpc' : (s.outside D).pc = .persisting p := by
      simp only [System.outside, hpc, Domain.hidePc, hid, Bool.false_eq_true, if_false]
    simp only [System.schedulerSeen, hpc, hid, Bool.false_eq_true, if_false, see, Option.elim_some, Outside.step, hpc']
    refine Outside.ext rfl (put_setMonitorStatus s fault _ _).symm ?_ rfl rfl rfl rfl hqueue rfl
    simp only [System.outside, hresults]

/-! ## The watchdog -/

/-- The monitors a sweep has still to come to were not linked to the agent when they were listed, unless they are the domain's. -/
def Apart (D : Domain) (s : System) : Prop :=
  ∀ stale rest, s.watchdog = .sweeping stale rest → ∀ m ∈ rest, D.has m.id.val = false → m.agentId ≠ some D.agent

theorem apart_of_covers {monitors : List Monitor} (hD : D.covers s.db = true) (h : s.db.listMonitors = .ok monitors) :
    ∀ m ∈ monitors, D.has m.id.val = false → m.agentId ≠ some D.agent := by
  intro m hm hid hagent
  obtain ⟨row, hrow, hread⟩ := Db.row_of_mem_listMonitors h hm
  have hcover := List.all_eq_true.mp hD row (Table.mem_of_get? hrow)
  have hkey : row.id.toUInt64 = m.id.val := by rw [(rowToMonitor_eq_ok hread).1]
  have hlink : row.agentId = some D.agent.toInt64 := by
    have hrowAgent := (rowToMonitor_eq_ok hread).2.2.2.2.2.1
    rw [hagent] at hrowAgent
    exact Word.map_toUInt64_eq_some.mp hrowAgent.symm
  simp [hlink, hkey, hid] at hcover

theorem hideWatchdog_goOn (stale : List UInt64) (rest : List Monitor) :
    D.hideWatchdog (Watchdog.goOn stale rest) =
      if (D.others stale).isEmpty then .select
      else Watchdog.goOn (D.others stale) (rest.filter fun m => !D.has m.id.val) := by
  unfold Watchdog.goOn
  cases rest with
  | nil => simp [Domain.hideWatchdog]
  | cons m rest => simp [Domain.hideWatchdog, Watchdog.goOn]

/-- Whether a monitor outside the domain is demoted does not depend on the domain's agent. -/
theorem demotes_others (stale : List UInt64) {m : Monitor} (hm : m.agentId ≠ some D.agent) :
    Watchdog.demotes (D.others stale) m = Watchdog.demotes stale m := by
  unfold Watchdog.demotes
  cases ha : m.agentId with
  | none => rfl
  | some agentId =>
    have hne : agentId ≠ D.agent := fun h => hm (by rw [ha, h])
    simp [Domain.others, hne]

/-- The agents found quiet, apart from the domain's. -/
theorem staleAgentIds_outside (timeout wall : UInt64) (rows : List AgentRow) :
    D.others (Watchdog.staleAgentIds timeout wall ((rows.map D.agentMask.apply).map rowToAgent)) =
      D.others (Watchdog.staleAgentIds timeout wall (rows.map rowToAgent)) := by
  unfold Domain.others Watchdog.staleAgentIds
  induction rows with
  | nil => rfl
  | cons row rows ih =>
    simp only [List.map_cons, List.filter_cons]
    by_cases hid : row.id = D.agent.toInt64
    · have hid' : (rowToAgent row).id = D.agent := by
        simp only [rowToAgent, hid, UInt64.toUInt64_toInt64]
      have hmask : (rowToAgent (D.agentMask.apply row)).id = D.agent := by
        simp only [rowToAgent, D.agentMask.key_apply, hid, UInt64.toUInt64_toInt64]
      split <;> split <;>
        simp only [List.map_cons, List.filter_cons, hid', hmask, ne_eq, not_true_eq_false, decide_false, Bool.false_eq_true,
          if_false, ih]
    · have hmask : D.agentMask.apply row = row := by simp [Domain.agentMask, hid]
      rw [hmask]
      split <;> simp only [List.map_cons, List.filter_cons, ih]

theorem outside_listAgents {fault : Bool} (hw : s.watchdog = .select)
    (h : s.watchdogStep cfg (.listAgents fault) = some (s', ev)) :
    s'.outside D = see D cfg (s.outside D) (s.watchdogSeen D cfg (.listAgents fault)) := by
  simp only [System.watchdogStep, hw] at h
  simp only [System.watchdogSeen]
  cases ha : answer fault s.db.listAgents with
  | error e =>
    rw [ha] at h
    cases h
    rfl
  | ok agents =>
    rw [ha] at h
    cases h
    obtain ⟨-, hl⟩ := answer_eq_ok ha
    cases hl
    let stale := Watchdog.staleAgentIds cfg.heartbeatTimeoutSecs s.wall (s.db.agents.rows.map rowToAgent)
    have hstale : D.others (Watchdog.staleAgentIds cfg.heartbeatTimeoutSecs s.wall
        ((s.outside D).db.agents.rows.map rowToAgent)) = D.others stale := staleAgentIds_outside _ _ _
    have hwatch : D.hideWatchdog (if stale.isEmpty then .select else .listing stale) =
        if (D.others stale).isEmpty then .select else .listing (D.others stale) := by
      cases hs : stale with
      | nil => rfl
      | cons id ids => rfl
    by_cases hnone : (D.others stale).isEmpty = true
    · simp only [stale] at hnone hwatch
      simp only [hnone, if_true, see, Option.elim_none] at hwatch ⊢
      refine Outside.ext rfl rfl rfl rfl rfl rfl ?_ rfl rfl
      simp only [System.outside, hw]
      exact hwatch
    · simp only [stale] at hnone hwatch hstale
      simp only [hnone, Bool.false_eq_true, if_false, see, Option.elim_some, Outside.step] at hwatch ⊢
      refine Outside.ext rfl rfl rfl rfl rfl rfl ?_ rfl rfl
      refine hwatch.trans ?_
      exact congrArg Watchdog.listing hstale.symm

theorem outside_sweepMonitors {fault : Bool} {stale : List UInt64} (hw : s.watchdog = .listing stale)
    (h : s.watchdogStep cfg (.listMonitors fault) = some (s', ev)) :
    s'.outside D = see D cfg (s.outside D) (s.watchdogSeen D cfg (.listMonitors fault)) := by
  simp only [System.watchdogStep, hw] at h
  simp only [System.watchdogSeen, hw]
  have hwatch : (s.outside D).watchdog =
      if (D.others stale).isEmpty then .select else .listing (D.others stale) := by
    simp only [System.outside, hw, Domain.hideWatchdog]
  by_cases hnone : (D.others stale).isEmpty = true
  · rw [if_pos hnone] at hwatch ⊢
    cases ha : answer fault s.db.listMonitors with
    | error e =>
      rw [ha] at h
      cases h
      exact Outside.ext rfl rfl rfl rfl rfl rfl hwatch.symm rfl rfl
    | ok monitors =>
      rw [ha] at h
      cases h
      refine Outside.ext rfl rfl rfl rfl rfl rfl ?_ rfl rfl
      refine (hideWatchdog_goOn stale monitors).trans ?_
      rw [if_pos hnone]
      exact hwatch.symm
  · rw [if_neg hnone] at hwatch ⊢
    simp only [see, Option.elim_some, Outside.step, hwatch]
    cases ha : answer fault s.db.listMonitors with
    | error e =>
      rw [ha] at h
      cases h
      rfl
    | ok monitors =>
      rw [ha] at h
      cases h
      refine Outside.ext rfl rfl rfl rfl rfl rfl ?_ rfl rfl
      refine (hideWatchdog_goOn stale monitors).trans ?_
      rw [if_neg hnone, ← monitors_outside (answer_eq_ok ha).2]
      rfl

theorem outside_sweepNext (cfg : EngineConfig) (fault : Bool) {stale : List UInt64} {m : Monitor} {rest : List Monitor} (hI : Apart D s)
    (hw : s.watchdog = .sweeping stale (m :: rest)) :
    System.outside D { s with
      db := if Watchdog.demotes stale m then putStatus s.db fault m.id.val .stale else s.db
      watchdog := Watchdog.goOn stale rest } =
      see D cfg (s.outside D) (s.watchdogSeen D cfg (.next fault)) := by
  have hresults : (if Watchdog.demotes stale m then putStatus s.db fault m.id.val .stale else s.db).checkResults =
      s.db.checkResults := by
    split
    · exact recorded_putStatus _ _ _ _
    · rfl
  have hgoOn := hideWatchdog_goOn (D := D) stale rest
  have hwatch : (s.outside D).watchdog = if (D.others stale).isEmpty then .select
      else Watchdog.goOn (D.others stale) ((m :: rest).filter fun m => !D.has m.id.val) := by
    simp only [System.outside, hw, Domain.hideWatchdog]
  have hagent : D.has m.id.val = false → m.agentId ≠ some D.agent := hI _ _ hw m List.mem_cons_self
  simp only [System.watchdogSeen, hw]
  by_cases hid : D.has m.id.val = true
  · -- the domain's own
    simp only [hid, Bool.or_true, if_true, see, Option.elim_none]
    refine Outside.ext rfl ?_ ?_ rfl rfl rfl ?_ rfl rfl
    · simp only [System.outside]
      split
      · exact hideDb_putStatus hid
      · rfl
    · simp only [System.outside, hresults]
    · rw [hwatch, List.filter_cons_of_neg (by simp [hid])]
      exact hgoOn
  · have hid : D.has m.id.val = false := by simpa using hid
    have hdemotes := demotes_others stale (hagent hid)
    by_cases hnone : (D.others stale).isEmpty = true
    · -- only the domain's agent is quiet, and it is not this monitor's
      have hnot : Watchdog.demotes stale m = false := by
        rw [← hdemotes, List.isEmpty_iff.mp hnone]
        unfold Watchdog.demotes
        split <;> simp
      simp only [hnone, Bool.true_or, if_true, see, Option.elim_none, hnot, Bool.false_eq_true, if_false]
      refine Outside.ext rfl rfl rfl rfl rfl rfl ?_ rfl rfl
      rw [hwatch, if_pos hnone]
      rw [if_pos hnone] at hgoOn
      exact hgoOn
    · rw [if_neg hnone, List.filter_cons_of_pos (by simp [hid])] at hwatch
      have hwatch' : (s.outside D).watchdog =
          .sweeping (D.others stale) (m :: rest.filter fun m => !D.has m.id.val) := hwatch
      rw [if_neg hnone] at hgoOn
      simp only [hnone, hid, Bool.or_self, Bool.false_eq_true, if_false, see, Option.elim_some, Outside.step, hwatch', hdemotes]
      refine Outside.ext rfl ?_ ?_ rfl rfl rfl hgoOn rfl rfl
      · simp only [System.outside]
        split
        · exact (put_setMonitorStatus s fault _ _).symm
        · rfl
      · simp only [System.outside, hresults]

/-! ## The writer -/

theorem hideResults_append (l l' : List CheckResult) : D.hideResults (l ++ l') = D.hideResults l ++ D.hideResults l' :=
  List.filter_append ..

theorem outside_writerRecv {writer : Writer} (hw : s.writer.recv cfg.writerBatchSize s.pc.isStopped = some writer) :
    System.outside D { s with writer } = see D cfg (s.outside D) (s.writerSeen D .recv) := by
  rcases recv_eq_some hw with ⟨result, hq, hb⟩ | ⟨hq, hq', hb⟩
  · simp only [System.writerSeen, hq]
    by_cases hid : D.has result.monitorId.val = true
    · simp only [hid, if_true, see, Option.elim_none]
      refine Outside.ext rfl rfl rfl rfl rfl rfl rfl ?_ ?_
      · simp [System.outside, hq, Domain.hideResults, hid]
      · simp [System.outside, hb, Domain.hideResults, hid]
    · have hid : D.has result.monitorId.val = false := by simpa using hid
      have hqueue : (s.outside D).queue = result :: D.hideResults writer.queue := by
        simp [System.outside, hq, Domain.hideResults, hid]
      simp only [hid, Bool.false_eq_true, if_false, see, Option.elim_some, Outside.step, hqueue]
      refine Outside.ext rfl rfl rfl rfl rfl rfl rfl rfl ?_
      simp only [System.outside, hb, hideResults_append]
      simp [Domain.hideResults, hid]
  · simp only [System.writerSeen, hq, see, Option.elim_none]
    refine Outside.ext rfl rfl rfl rfl rfl rfl rfl ?_ ?_
    · simp only [System.outside, hq, hq']
    · simp only [System.outside, hb]

/-- How often a result outside the domain is in a batch. -/
theorem count_hideResults {batch : List CheckResult} {r : CheckResult} (hr : D.has r.monitorId.val = false) :
    (D.hideResults batch).count r = batch.count r :=
  List.count_filter (by simp [hr])

theorem outside_flush {fault : Bool} {pick : List Int64 → Int64} {writer : Writer}
    (hw : s.writer.flush s.db fault pick = some (writer, db)) :
    System.outside D { s with writer, db } = see D cfg (s.outside D) (s.writerSeen D (.flush fault pick)) := by
  obtain ⟨hb, hq, hdb⟩ := flush_eq_some hw
  have hhide : D.hideDb db = D.hideDb s.db := by
    rcases hdb with ha | ⟨rfl, -⟩
    · obtain ⟨hm, hagents, hi, -⟩ := Db.insertCheckResults_eq_ok (answer_eq_ok ha).2
      simp only [Domain.hideDb, hm, hagents, hi]
    · rfl
  have hresults : (System.outside D { s with writer, db }).results =
      if (answer fault (s.db.insertCheckResults pick s.writer.batch)).isOk then
        fun r => (D.hideResults s.writer.batch).count r + (s.outside D).results r
      else (s.outside D).results := by
    rcases hdb with ha | ⟨rfl, e, he⟩
    · have hcount := (Db.insertCheckResults_eq_ok (answer_eq_ok ha).2).2.2.2.2.1
      have hok : (Except.ok db : Except StorageError Db).isOk = true := rfl
      rw [ha, if_pos hok]
      funext r
      simp only [System.outside]
      by_cases hr : D.has r.monitorId.val = true
      · have hnot : r ∉ D.hideResults s.writer.batch := by simp [Domain.hideResults, hr]
        simp only [hr, if_true, List.count_eq_zero_of_not_mem hnot]
      · have hr : D.has r.monitorId.val = false := by simpa using hr
        simp only [hr, Bool.false_eq_true, if_false, count_hideResults hr]
        exact hcount r
    · rw [he]
      rfl
  simp only [System.writerSeen]
  by_cases hnone : (D.hideResults s.writer.batch).isEmpty = true
  · have hnil := List.isEmpty_iff.mp hnone
    simp only [hnone, if_true, see, Option.elim_none]
    refine Outside.ext rfl hhide ?_ rfl rfl rfl rfl ?_ ?_
    · rw [hresults, hnil]
      split
      · funext r
        simp
      · rfl
    · simp only [System.outside, hq]
    · simp only [System.outside, hb]
      exact hnil.symm
  · simp only [hnone, Bool.false_eq_true, if_false, see, Option.elim_some, Outside.step]
    refine Outside.ext rfl hhide hresults rfl rfl rfl rfl ?_ ?_
    · simp only [System.outside, hq]
    · simp only [System.outside, hb]
      rfl

/-! ## The agents -/

theorem getMonitor_outside {id : UInt64} (hid : D.has id = false) : (s.outside D).db.getMonitor id = s.db.getMonitor id := by
  have hrow : (D.hideDb s.db).monitors.get? id.toInt64 = s.db.monitors.get? id.toInt64 := row?_hideDb hid
  unfold Db.getMonitor
  simp only [System.outside, hrow]

theorem accepts_iff {agentId : UInt64} {monitorId : MonitorId} :
    s.accepts agentId monitorId = true ↔
      ∃ monitor, s.db.getMonitor monitorId.val = .ok (some monitor) ∧ monitor.agentId = some agentId := by
  unfold System.accepts
  constructor
  · intro h
    split at h
    · rename_i monitor hm
      exact ⟨monitor, hm, of_decide_eq_true h⟩
    · cases h
  · rintro ⟨monitor, hm, hlink⟩
    rw [hm]
    exact decide_eq_true hlink

/-- The agent of a domain that covers its monitors has no results accepted for others. -/
theorem not_accepts {monitorId : MonitorId} (hD : D.covers s.db = true) (hid : D.has monitorId.val = false) :
    s.accepts D.agent monitorId = false := by
  refine Bool.eq_false_iff.mpr fun hacc => ?_
  obtain ⟨monitor, hm, hlink⟩ := accepts_iff.mp hacc
  unfold Db.getMonitor at hm
  split at hm
  · cases hm
  · rename_i row hrow
    obtain ⟨m, hread, hsome⟩ := map_eq_ok hm
    cases hsome
    rw [(rowToMonitor_eq_ok hread).2.2.2.2.2.1, Word.map_toUInt64_eq_some] at hlink
    have hcover := List.all_eq_true.mp hD row (Table.mem_of_get? hrow)
    have hkey : row.id.toUInt64 = monitorId.val := by rw [Table.key_of_get? hrow, UInt64.toUInt64_toInt64]
    simp [hlink, hkey, hid] at hcover

/-- What a push does to the channel. -/
theorem ingest_eq {agentId : UInt64} {monitorId : MonitorId} {outcome : ProbeOutcome}
    (h : s.agentStep cfg (.ingest agentId monitorId outcome) = some (s', ev)) :
    s' = { s with pushRx :=
      if s.accepts agentId monitorId then Channel.trySend cfg.ingestCapacity s.pushRx ⟨monitorId, outcome⟩ else s.pushRx } := by
  simp only [System.agentStep] at h
  split at h
  · cases hacc : s.accepts agentId monitorId with
    | true =>
      obtain ⟨monitor, hm, hlink⟩ := accepts_iff.mp hacc
      simp only [hm, hlink, if_true] at h
      cases h
      rfl
    | false =>
      split at h
      · rename_i monitor hm
        split at h
        · rename_i hlink
          cases hacc.symm.trans (accepts_iff.mpr ⟨monitor, hm, hlink⟩)
        · cases h
          rfl
      · cases h
        rfl
  · cases h

theorem outside_ingest {agentId : UInt64} {monitorId : MonitorId} {outcome : ProbeOutcome} (hD : D.covers s.db = true)
    (hroom : s.accepts agentId monitorId = true → D.has monitorId.val = false → s.pushRx.length < cfg.ingestCapacity)
    (h : s.agentStep cfg (.ingest agentId monitorId outcome) = some (s', ev)) :
    s'.outside D = see D cfg (s.outside D) (System.agentSeen D (.ingest agentId monitorId outcome)) := by
  cases ingest_eq h
  simp only [System.agentSeen]
  by_cases hid : D.has monitorId.val = true
  · simp only [hid, Bool.or_true, if_true, see, Option.elim_none]
    refine Outside.ext rfl rfl rfl rfl ?_ rfl rfl rfl rfl
    simp only [System.outside, Channel.trySend, Domain.hidePushed]
    split
    · split
      · simp [hid]
      · rfl
    · rfl
  · have hid : D.has monitorId.val = false := by simpa using hid
    by_cases hagent : agentId = D.agent
    · subst hagent
      simp only [not_accepts hD hid, decide_true, Bool.true_or, if_true, see, Option.elim_none, Bool.false_eq_true, if_false]
    · simp only [hagent, hid, decide_false, Bool.or_self, Bool.false_eq_true, if_false, see, Option.elim_some, Outside.step,
        getMonitor_outside hid]
      cases hacc : s.accepts agentId monitorId with
      | true =>
        have hsend : Channel.trySend cfg.ingestCapacity s.pushRx ⟨monitorId, outcome⟩ = s.pushRx ++ [⟨monitorId, outcome⟩] :=
          if_pos (hroom hacc hid)
        obtain ⟨monitor, hm, hlink⟩ := accepts_iff.mp hacc
        simp only [hm, hlink, if_true, hsend]
        refine Outside.ext rfl rfl rfl rfl ?_ rfl rfl rfl rfl
        simp [System.outside, Domain.hidePushed, hid]
      | false =>
        simp only [Bool.false_eq_true, if_false]
        split
        · rename_i monitor hm
          split
          · rename_i hlink
            cases hacc.symm.trans (accepts_iff.mpr ⟨monitor, hm, hlink⟩)
          · rfl
        · rfl

theorem outside_heartbeat {agentId : UInt64} (hc : db.checkResults = s.db.checkResults)
    (hb : s.db.heartbeatAgent agentId s.wall = .ok db) :
    System.outside D { s with db } = see D cfg (s.outside D) (System.agentSeen D (.heartbeat agentId)) := by
  have hresults : (System.outside D { s with db }).results = (s.outside D).results := by simp only [System.outside, hc]
  simp only [System.agentSeen]
  by_cases hagent : agentId = D.agent
  · subst hagent
    simp only [if_true, see, Option.elim_none]
    exact Outside.ext rfl (hideDb_heartbeatAgent hb) hresults rfl rfl rfl rfl rfl rfl
  · obtain ⟨db', h', hdb⟩ := heartbeatAgent_hideDb (D := D) hb
    have h'' : (s.outside D).db.heartbeatAgent agentId (s.outside D).wall = .ok db' := h'
    simp only [hagent, if_false, see, Option.elim_some, Outside.step, h'']
    exact Outside.ext rfl hdb.symm hresults rfl rfl rfl rfl rfl rfl

/-! ## Steps -/

theorem roomy_submissions {a : Action} (hroom : s.roomy D cfg a = true) (h : s.step cfg a = some (s', ev)) :
    (D.hideResults (System.submissions ev)).isEmpty = true ∨ s.writer.queue.length < cfg.writerCapacity := by
  unfold System.roomy at hroom
  rw [h] at hroom
  simpa using (Bool.and_eq_true_iff.mp hroom).2

theorem roomy_ingest {agentId : UInt64} {monitorId : MonitorId} {outcome : ProbeOutcome}
    (hroom : s.roomy D cfg (.agent (.ingest agentId monitorId outcome)) = true) (hacc : s.accepts agentId monitorId = true)
    (hid : D.has monitorId.val = false) : s.pushRx.length < cfg.ingestCapacity := by
  unfold System.roomy at hroom
  have hpush := (Bool.and_eq_true_iff.mp hroom).1
  simpa [hacc, hid] using hpush

/-- The monitors of a sweep that goes on are among those it had to come to. -/
theorem apart_goOn {stale : List UInt64} {rest : List Monitor}
    (h : ∀ m ∈ rest, D.has m.id.val = false → m.agentId ≠ some D.agent) {stale' : List UInt64} {rest' : List Monitor}
    (hw : Watchdog.goOn stale rest = .sweeping stale' rest') : ∀ m ∈ rest', D.has m.id.val = false → m.agentId ≠ some D.agent := by
  unfold Watchdog.goOn at hw
  split at hw
  · cases hw
  · cases hw
    exact h

theorem apart_step {a : Action} (hI : Apart D s) (hD : D.covers s.db = true) (h : s.step cfg a = some (s', ev)) :
    Apart D s' := by
  cases effect_of_step h with
  | agentsListed hw hw' hs => exact fun stale rest hsweep => absurd hsweep (hw' stale rest)
  | sweepBegins hw hl => exact fun stale rest hsweep => apart_goOn (apart_of_covers hD (answer_eq_ok hl).2) hsweep
  | sweepSkipped hw => exact fun stale rest hsweep => by cases hsweep
  | demoted hw hd hdb | notDemoted hw hd hdb | passedOver hw hd =>
    exact fun stale rest hsweep => apart_goOn (fun m hm => hI _ _ hw m (List.mem_cons_of_mem _ hm)) hsweep
  | _ => exact hI

theorem outside_step {a : Action} (hI : Apart D s) (hD : D.covers s.db = true) (hroom : s.roomy D cfg a = true)
    (h : s.step cfg a = some (s', ev)) : s'.outside D = see D cfg (s.outside D) (s.seen D cfg a) := by
  have hsubs := roomy_submissions hroom h
  cases effect_of_step h with
  | advance | shutdown | configured | forgotten | pulled | wallClock | resyncTick => rfl
  | @listedMonitors fault after hpc =>
    have hpc' : (s.outside D).pc = .listing (D.hideAfter after) := by simp only [System.outside, hpc, Domain.hidePc]
    simp only [System.seen, System.schedulerSeen, see, Option.elim_some, Outside.step, hpc']
    refine Outside.ext rfl rfl rfl rfl rfl ?_ rfl rfl rfl
    cases ha : answer fault s.db.listMonitors with
    | error e => rfl
    | ok monitors =>
      rw [monitors_outside (answer_eq_ok ha).2]
      rfl
  | resynced hpc =>
    simp only [System.seen, System.schedulerSeen, hpc, see, Option.elim_some]
    exact outside_resync hpc
  | notResynced hpc =>
    simp only [System.seen, System.schedulerSeen, hpc, see, Option.elim_none]
    refine Outside.ext rfl rfl rfl rfl rfl ?_ rfl rfl rfl
    simp only [System.outside, hpc]
    exact hidePc_resume _
  | dispatched hpc hdue =>
    refine Outside.ext rfl rfl rfl ?_ rfl rfl rfl rfl rfl
    funext id
    simp only [System.outside, Scheduler.lookup_dispatchDue MonitorState.core fun _ _ => rfl]
    rfl
  | @joined joined hpc hj =>
    simp only [System.seen, System.schedulerSeen]
    cases ho : (Scheduler.handleJoined s.tasks joined).2 with
    | none =>
      refine Outside.ext rfl rfl rfl rfl rfl ?_ rfl rfl rfl
      simp only [System.outside, hpc]
      rfl
    | some outcome =>
      by_cases hid : D.has (Handled.outcome outcome).monitorId.val = true
      · simp only [Option.filter_some, hid, Bool.not_true, Bool.false_eq_true, if_false, Option.map_none, see, Option.elim_none]
        refine Outside.ext rfl rfl rfl rfl rfl ?_ rfl rfl rfl
        simp [System.outside, hpc, Domain.hidePc, hid]
      · have hid : D.has (Handled.outcome outcome).monitorId.val = false := by simpa using hid
        simp only [Option.filter_some, hid, Bool.not_false, if_true, Option.map_some, see, Option.elim_some, Outside.step]
        refine Outside.ext rfl rfl rfl rfl rfl ?_ rfl rfl rfl
        simp [System.outside, Domain.hidePc, hid]
  | @received pushed pushRx hpc hq hr =>
    simp only [System.seen, System.schedulerSeen, hq]
    by_cases hid : D.has pushed.monitorId.val = true
    · simp only [hid, Bool.not_true, Bool.false_eq_true, if_false, hr, if_true, see, Option.elim_none]
      refine Outside.ext rfl rfl rfl rfl ?_ ?_ rfl rfl rfl
      · simp [System.outside, hq, Domain.hidePushed, hid]
      · simp [System.outside, hpc, Domain.hidePc, Handled.monitorId, hid]
    · have hid : D.has pushed.monitorId.val = false := by simpa using hid
      have hqueue : (s.outside D).pushRx = pushed :: D.hidePushed pushRx := by
        simp [System.outside, hq, Domain.hidePushed, hid]
      have hreg : ((s.outside D).registry pushed.monitorId.val).isSome = true := by
        simpa [System.outside, hid] using hr
      simp only [hid, Bool.not_false, if_true, see, Option.elim_some, Outside.step, hqueue, hreg]
      refine Outside.ext rfl rfl rfl rfl rfl ?_ rfl rfl rfl
      simp [System.outside, Domain.hidePc, Handled.monitorId, hid]
  | @receivedUnknown pushed pushRx hpc hq hr =>
    simp only [System.seen, System.schedulerSeen, hq]
    by_cases hid : D.has pushed.monitorId.val = true
    · -- a push for the domain makes the scheduler resync, and the resync is seen
      simp only [hid, Bool.not_true, Bool.false_eq_true, if_false, hr, Option.isSome_none, see, Option.elim_some, Outside.step]
      refine Outside.ext rfl rfl rfl rfl ?_ ?_ rfl rfl rfl
      · simp [System.outside, hq, Domain.hidePushed, hid]
      · simp [System.outside, Domain.hidePc, Domain.hideAfter, Option.filter, hid]
    · have hid : D.has pushed.monitorId.val = false := by simpa using hid
      have hqueue : (s.outside D).pushRx = pushed :: D.hidePushed pushRx := by
        simp [System.outside, hq, Domain.hidePushed, hid]
      have hreg : ((s.outside D).registry pushed.monitorId.val).isSome = false := by
        simp [System.outside, hid, hr]
      simp only [hid, Bool.not_false, if_true, see, Option.elim_some, Outside.step, hqueue, hreg, Bool.false_eq_true, if_false]
      refine Outside.ext rfl rfl rfl rfl rfl ?_ rfl rfl rfl
      simp [System.outside, Domain.hidePc, Domain.hideAfter, Option.filter, hid]
  | @handled cause hpc =>
    simp only [System.seen, System.schedulerSeen, hpc]
    by_cases hid : D.has cause.monitorId.val = true
    · simp only [hid, if_true]
      exact outside_handle_has hpc hid hsubs
    · have hid : D.has cause.monitorId.val = false := by simpa using hid
      simp only [hid, Bool.false_eq_true, if_false]
      exact outside_handle hpc hid hsubs
  | @wrote p fault db hpc hdb =>
    have hput : putStatus s.db fault p.cause.monitorId.val p.status = db := by rw [putStatus, hdb]
    have hout := outside_persisted cfg fault hpc hsubs
    rw [hput] at hout
    exact hout
  | @notWritten p fault e hpc hdb =>
    have hput : putStatus s.db fault p.cause.monitorId.val p.status = s.db := by rw [putStatus, hdb]
    have hout := outside_persisted cfg fault hpc hsubs
    rw [hput] at hout
    exact hout
  | stopped hpc ht =>
    refine Outside.ext rfl rfl rfl rfl rfl ?_ rfl rfl rfl
    simp only [System.outside, hpc, Domain.hidePc]
    rfl
  | agentsListed hw hw' hs => exact outside_listAgents hw h
  | sweepBegins hw hl => exact outside_sweepMonitors hw h
  | sweepSkipped hw => exact outside_sweepMonitors hw h
  | @demoted stale m rest fault db hw hd hdb =>
    have hput : putStatus s.db fault m.id.val .stale = db := by rw [putStatus, hdb]
    have hout := outside_sweepNext cfg fault hI hw
    rw [hd, if_pos rfl, hput] at hout
    exact hout
  | @notDemoted stale m rest fault e hw hd hdb =>
    have hput : putStatus s.db fault m.id.val .stale = s.db := by rw [putStatus, hdb]
    have hout := outside_sweepNext cfg fault hI hw
    rw [hd, if_pos rfl, hput] at hout
    exact hout
  | @passedOver stale m rest fault hw hd =>
    have hout := outside_sweepNext cfg fault hI hw
    rw [hd, if_neg Bool.false_ne_true] at hout
    exact hout
  | writerReceived hw => exact outside_writerRecv hw
  | writerTicked hw =>
    obtain ⟨hq, hb⟩ := tick_eq_some hw
    refine Outside.ext rfl rfl rfl rfl rfl rfl rfl ?_ ?_
    · simp only [System.outside, hq]
      rfl
    · simp only [System.outside, hb]
      rfl
  | flushed hw => exact outside_flush hw
  | heartbeat hm hc hi hb => exact outside_heartbeat hc hb
  | ingested hh => exact outside_ingest hD (roomy_ingest hroom) h
  | refused hh => exact outside_ingest hD (roomy_ingest hroom) h
  | called _ hc => exact outside_user cfg hc

end IsolationAux
end Monitra
