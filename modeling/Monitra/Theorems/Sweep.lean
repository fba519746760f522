import Monitra.Engine.Sweep
import Monitra.Theorems.Alerts

/-!
# What a sweep of the watchdog leaves

Which monitors a sweep marks stale and whom it alerts, for any agents and monitors listed and any writes that fail. The loop does
nothing to a row but under its own id, so what happens to a monitor depends on its own row and its own write alone.
-/

namespace Monitra

open Runs

/-- The monitor is linked to an agent whose heartbeat is longer ago than the timeout. -/
def quiet (heartbeatTimeoutSecs now : UInt64) (agents : List Agent) (m : Monitor) : Prop :=
  ∃ agent ∈ agents, m.agentId = some agent.id ∧ heartbeatTimeoutSecs.toNat < now.toNat - agent.lastHeartbeatAt.toNat

instance (heartbeatTimeoutSecs now : UInt64) (agents : List Agent) (m : Monitor) :
    Decidable (quiet heartbeatTimeoutSecs now agents m) :=
  inferInstanceAs (Decidable (∃ agent ∈ agents,
    m.agentId = some agent.id ∧ heartbeatTimeoutSecs.toNat < now.toNat - agent.lastHeartbeatAt.toNat))

/-- The monitors a sweep is to mark: quiet ones with a status that a check can have given, whose write succeeds. -/
def toMark (heartbeatTimeoutSecs now : UInt64) (agents : List Agent) (fails : UInt64 → Bool) (m : Monitor) : Bool :=
  quiet heartbeatTimeoutSecs now agents m ∧ (m.status = .pending ∨ m.status = .up ∨ m.status = .down) ∧ fails m.id.val = false

/-- The store holds a monitor, and it reads as listed. -/
def Db.Holds (db : Db) (m : Monitor) : Prop := ∃ row, db.row? m.id.val = some row ∧ rowToMonitor row = .ok m

/-- The alert of a monitor marked stale. -/
def staleAlert (m : Monitor) : AlertRequest := ⟨m.id, m.name, .stale⟩

namespace SweepAux

open Watchdog

/-- The loop writes for a monitor whose agent is quiet and whose status is one a check can have given it. -/
theorem demotes_iff (heartbeatTimeoutSecs now : UInt64) (agents : List Agent) (m : Monitor) :
    demotes (staleAgentIds heartbeatTimeoutSecs now agents) m = true ↔
      quiet heartbeatTimeoutSecs now agents m ∧ (m.status = .pending ∨ m.status = .up ∨ m.status = .down) := by
  unfold demotes quiet
  cases hm : m.agentId with
  | none => simp
  | some agentId =>
    have hstatus : (m.status ≠ .paused ∧ m.status ≠ .stale ∧ m.status ≠ .unknown) ↔
        (m.status = .pending ∨ m.status = .up ∨ m.status = .down) := by
      cases m.status <;> decide
    rw [decide_eq_true_iff, hstatus]
    simp only [staleAgentIds, List.mem_map, List.mem_filter, decide_eq_true_eq, Option.some.injEq]
    refine and_congr_left fun _ => exists_congr fun agent => ?_
    constructor
    · rintro ⟨⟨hmem, hlt⟩, rfl⟩
      exact ⟨hmem, rfl, hlt⟩
    · rintro ⟨hmem, rfl, hlt⟩
      exact ⟨⟨hmem, hlt⟩, rfl⟩

/-- The write of a turn is made and taken. -/
def marks (fails : UInt64 → Bool) (staleAgentIds : List UInt64) (m : Monitor) : Bool := demotes staleAgentIds m && !fails m.id.val

theorem marks_eq (heartbeatTimeoutSecs now : UInt64) (agents : List Agent) (fails : UInt64 → Bool) :
    marks fails (staleAgentIds heartbeatTimeoutSecs now agents) = toMark heartbeatTimeoutSecs now agents fails := by
  funext m
  rw [Bool.eq_iff_iff, marks, Bool.and_eq_true, demotes_iff, toMark, decide_eq_true_iff, Bool.not_eq_true', and_assoc]

/-- Among monitors with distinct ids only the monitor itself has its id. -/
theorem any_marks {monitors : List Monitor} (hids : (monitors.map (·.id.val)).Nodup) {m : Monitor} (hm : m ∈ monitors)
    (p : Monitor → Bool) : (monitors.any fun m' => p m' && decide (m'.id.val = m.id.val)) = p m := by
  rw [Bool.eq_iff_iff, List.any_eq_true]
  constructor
  · rintro ⟨m', hm', h⟩
    rw [Bool.and_eq_true, decide_eq_true_iff] at h
    rw [← List.inj_on_of_nodup_map hids hm' hm h.2]
    exact h.1
  · intro h
    exact ⟨m, hm, by simp [h]⟩

/-- One turn: the row of a monitor that is marked goes stale, and no other row changes. -/
theorem sweepOne_eq {alertCapacity : Nat} {fails : UInt64 → Bool} {stale : List UInt64} {s : Sweep} {m : Monitor}
    (hrow : (s.db.row? m.id.val).isSome) :
    (∀ k, (sweepOne alertCapacity fails stale s m).db.row? k = (s.db.row? k).map fun row =>
        if marks fails stale m && decide (m.id.val = k) then { row with status := "stale" } else row) ∧
      (sweepOne alertCapacity fails stale s m).alertRx =
        Channel.sendAll alertCapacity s.alertRx (if marks fails stale m then [staleAlert m] else []) := by
  unfold sweepOne marks
  by_cases hd : demotes stale m = true
  · cases hf : fails m.id.val with
    | true => simp [hd, answer]
    | false =>
      obtain ⟨row, hr⟩ := Option.isSome_iff_exists.mp hrow
      obtain ⟨db, hdb⟩ := Db.setMonitorStatus_of_row hr .stale
      obtain ⟨-, -, -, -, hget⟩ := Db.setMonitorStatus_eq_ok hdb
      simp only [hd, hdb, answer, if_true, Bool.false_eq_true, if_false, Bool.not_false, Bool.and_true, Bool.true_and]
      refine ⟨fun k => ?_, rfl⟩
      rw [hget]
      simp only [decide_eq_true_eq, eq_comm (a := k)]
      rfl
  · simp [hd]

/-- The loop over any monitors: the rows of those that are marked go stale, no other row changes, and those are the alerts. -/
theorem foldl_sweepOne (alertCapacity : Nat) (fails : UInt64 → Bool) (stale : List UInt64) :
    ∀ (monitors : List Monitor) (s : Sweep), (∀ m ∈ monitors, (s.db.row? m.id.val).isSome) →
      (∀ k, (monitors.foldl (sweepOne alertCapacity fails stale) s).db.row? k = (s.db.row? k).map fun row =>
          if monitors.any fun m => marks fails stale m && decide (m.id.val = k) then { row with status := "stale" } else row) ∧
        (monitors.foldl (sweepOne alertCapacity fails stale) s).alertRx =
          Channel.sendAll alertCapacity s.alertRx ((monitors.filter (marks fails stale)).map staleAlert)
  | [], s, _ => by simp
  | m :: monitors, s, hrows => by
    obtain ⟨hrow, halert⟩ := @sweepOne_eq alertCapacity fails stale s m (hrows m List.mem_cons_self)
    obtain ⟨hrow', halert'⟩ := foldl_sweepOne alertCapacity fails stale monitors (sweepOne alertCapacity fails stale s m)
      fun m' hm' => by
        rw [hrow, Option.isSome_map]
        exact hrows m' (List.mem_cons_of_mem _ hm')
    rw [List.foldl_cons]
    constructor
    · intro k
      rw [hrow', hrow, Option.map_map]
      congr 1
      funext row
      simp only [Function.comp_apply, List.any_cons, Bool.or_eq_true]
      by_cases hk : (marks fails stale m && decide (m.id.val = k)) = true
      · simp [hk]
      · simp [hk]
    · rw [halert', halert, ← Channel.sendAll_append, List.filter_cons]
      split <;> rfl

/-- A sweep that gets both lists is its loop over the monitors. -/
theorem sweep_eq (alertCapacity : Nat) (heartbeatTimeoutSecs now : UInt64) (agents : List Agent) (monitors : List Monitor)
    (fails : UInt64 → Bool) (s : Sweep) :
    sweep alertCapacity heartbeatTimeoutSecs now (.ok agents) (.ok monitors) fails s =
      monitors.foldl (sweepOne alertCapacity fails (staleAgentIds heartbeatTimeoutSecs now agents)) s := by
  unfold sweep
  simp only
  cases staleAgentIds heartbeatTimeoutSecs now agents with
  | cons agentId stale => rfl
  | nil =>
    -- with no agent quiet the loop would pass over every monitor
    have hskip : ∀ m s, sweepOne alertCapacity fails [] s m = s := by
      intro m s
      unfold sweepOne demotes
      cases m.agentId <;> simp
    show s = monitors.foldl (sweepOne alertCapacity fails []) s
    induction monitors with
    | nil => rfl
    | cons m monitors ih => rw [List.foldl_cons, hskip, ← ih]

/-- A monitor that was listed as one a check gave a status to is not stored as stale. -/
theorem status_ne_stale {db : Db} {m : Monitor} (h : db.Holds m)
    (hstatus : m.status = .pending ∨ m.status = .up ∨ m.status = .down) : db.status? m.id.val ≠ some "stale" := by
  obtain ⟨row, hrow, hread⟩ := h
  obtain ⟨-, -, -, -, -, -, htext⟩ := rowToMonitor_eq_ok hread
  have hne : m.status ≠ .unknown := by
    rintro he
    simp [he] at hstatus
  split at htext
  · intro hs
    obtain ⟨row', hrow', hs'⟩ := Db.status?_eq_some_iff.mp hs
    cases hrow.symm.trans hrow'
    rw [hs'] at htext
    rcases hstatus with he | he | he <;> rw [he] at htext <;> exact absurd htext (by decide)
  · exact absurd htext hne

/-- The steps of the loop do what the loop does. -/
theorem exec_next (cfg : EngineConfig) (alertCapacity : Nat) (fails : UInt64 → Bool) (stale : List UInt64) :
    ∀ (monitors : List Monitor) (s : System) (alertRx : List AlertRequest), s.watchdog = goOn stale monitors →
      ∃ log, exec (System.step cfg) always s (monitors.map fun m => .watchdog (.next (fails m.id.val))) =
          some ({ s with
            db := (monitors.foldl (sweepOne alertCapacity fails stale) ⟨s.db, alertRx⟩).db
            watchdog := .select }, log) ∧
        Channel.sendAll alertCapacity alertRx (alerts log) =
          (monitors.foldl (sweepOne alertCapacity fails stale) ⟨s.db, alertRx⟩).alertRx
  | [], s, alertRx, hw => by
    refine ⟨[], ?_, rfl⟩
    have hs : s = { s with watchdog := .select } := by
      cases s
      cases hw
      rfl
    exact congrArg (fun s => some (s, [])) hs
  | m :: monitors, s, alertRx, hw => by
    have hw' : s.watchdog = .sweeping stale (m :: monitors) := hw
    have hstep : ∃ ev, s.step cfg (.watchdog (.next (fails m.id.val))) = some ({ s with
          db := (sweepOne alertCapacity fails stale ⟨s.db, alertRx⟩ m).db
          watchdog := goOn stale monitors }, ev) ∧
        Channel.sendAll alertCapacity alertRx (alerts ev) = (sweepOne alertCapacity fails stale ⟨s.db, alertRx⟩ m).alertRx := by
      simp only [System.step, System.watchdogStep, hw', sweepOne]
      split
      · cases answer (fails m.id.val) (s.db.setMonitorStatus m.id.val .stale) with
        | error e => exact ⟨_, rfl, rfl⟩
        | ok db => exact ⟨_, rfl, rfl⟩
      · exact ⟨_, rfl, rfl⟩
    obtain ⟨ev, hs, halert⟩ := hstep
    obtain ⟨log, hexec, hrest⟩ := exec_next cfg alertCapacity fails stale monitors
      { s with
        db := (sweepOne alertCapacity fails stale ⟨s.db, alertRx⟩ m).db
        watchdog := goOn stale monitors } (sweepOne alertCapacity fails stale ⟨s.db, alertRx⟩ m).alertRx rfl
    refine ⟨ev ++ log, exec_cons rfl hs hexec, ?_⟩
    rw [alerts, List.filterMap_append, Channel.sendAll_append]
    exact halert ▸ hrest

/-! ## The whole sweep -/

variable {alertCapacity : Nat} {heartbeatTimeoutSecs now : UInt64} {agents : List Agent} {monitors : List Monitor}
  {fails : UInt64 → Bool} {s : Sweep}

/-- What the store holds has a row. -/
theorem isSome_row_of_holds {db : Db} {m : Monitor} (h : db.Holds m) : (db.row? m.id.val).isSome := by
  obtain ⟨row, hrow, -⟩ := h
  rw [hrow, Option.isSome_some]

/-- The rows after a sweep that gets both lists. -/
theorem row?_sweep (hlisted : ∀ m ∈ monitors, s.db.Holds m) (id : UInt64) :
    (sweep alertCapacity heartbeatTimeoutSecs now (.ok agents) (.ok monitors) fails s).db.row? id =
      (s.db.row? id).map fun row =>
        if monitors.any fun m => toMark heartbeatTimeoutSecs now agents fails m && decide (m.id.val = id) then
          { row with status := "stale" } else row := by
  rw [sweep_eq, (foldl_sweepOne alertCapacity fails _ monitors s fun m hm => isSome_row_of_holds (hlisted m hm)).1, marks_eq]

/-- The alerts of a sweep that gets both lists, when there is room for them. -/
theorem alertRx_sweep (hlisted : ∀ m ∈ monitors, s.db.Holds m)
    (hroom : s.alertRx.length + monitors.countP (toMark heartbeatTimeoutSecs now agents fails) ≤ alertCapacity) :
    (sweep alertCapacity heartbeatTimeoutSecs now (.ok agents) (.ok monitors) fails s).alertRx =
      s.alertRx ++ (monitors.filter (toMark heartbeatTimeoutSecs now agents fails)).map staleAlert := by
  rw [sweep_eq, (foldl_sweepOne alertCapacity fails _ monitors s fun m hm => isSome_row_of_holds (hlisted m hm)).2, marks_eq,
    Channel.sendAll_eq, List.take_of_length_le]
  rw [List.length_map, ← List.countP_eq_length_filter]
  omega

/-- The listed monitors whose status changes are those to mark. -/
theorem status?_sweep_iff (hids : (monitors.map (·.id.val)).Nodup) (hlisted : ∀ m ∈ monitors, s.db.Holds m) {m : Monitor}
    (hm : m ∈ monitors) :
    (sweep alertCapacity heartbeatTimeoutSecs now (.ok agents) (.ok monitors) fails s).db.status? m.id.val ≠
        s.db.status? m.id.val ↔ toMark heartbeatTimeoutSecs now agents fails m = true := by
  obtain ⟨row, hrow, hread⟩ := hlisted m hm
  rw [Db.status?, Db.status?, row?_sweep hlisted, any_marks hids hm, hrow, Option.map_some, Option.map_some, Option.map_some]
  by_cases hmark : toMark heartbeatTimeoutSecs now agents fails m = true
  · have hne := status_ne_stale ⟨row, hrow, hread⟩ (of_decide_eq_true hmark).2.1
    rw [Db.status?, hrow, Option.map_some] at hne
    simp only [hmark, if_true, iff_true]
    exact hne.symm
  · simp [hmark]

/-- A status that a sweep has changed is stale, and of a monitor that was listed. -/
theorem stale_of_changed (hlisted : ∀ m ∈ monitors, s.db.Holds m) {id : UInt64}
    (h : (sweep alertCapacity heartbeatTimeoutSecs now (.ok agents) (.ok monitors) fails s).db.status? id ≠ s.db.status? id) :
    (sweep alertCapacity heartbeatTimeoutSecs now (.ok agents) (.ok monitors) fails s).db.status? id = some "stale" ∧
      ∃ m ∈ monitors, m.id.val = id := by
  rw [Db.status?, Db.status?, row?_sweep hlisted] at h
  rw [Db.status?, row?_sweep hlisted]
  cases hrow : s.db.row? id with
  | none => simp [hrow] at h
  | some row =>
    by_cases hany : (monitors.any fun m => toMark heartbeatTimeoutSecs now agents fails m && decide (m.id.val = id)) = true
    · obtain ⟨m, hm, hmark⟩ := List.any_eq_true.mp hany
      exact ⟨by simp [hany], m, hm, of_decide_eq_true (Bool.and_eq_true .. ▸ hmark).2⟩
    · simp [hrow, hany] at h

/-- What a sweep leaves of a monitor depends on no write but its own. -/
theorem row?_sweep_congr (hlisted : ∀ m ∈ monitors, s.db.Holds m) {fails' : UInt64 → Bool} {id : UInt64}
    (hf : fails' id = fails id) :
    (sweep alertCapacity heartbeatTimeoutSecs now (.ok agents) (.ok monitors) fails' s).db.row? id =
      (sweep alertCapacity heartbeatTimeoutSecs now (.ok agents) (.ok monitors) fails s).db.row? id := by
  have hmark : ∀ m : Monitor, (toMark heartbeatTimeoutSecs now agents fails' m && decide (m.id.val = id)) =
      (toMark heartbeatTimeoutSecs now agents fails m && decide (m.id.val = id)) := by
    intro m
    by_cases hid : m.id.val = id
    · simp only [toMark, hid, hf]
    · simp [hid]
  rw [row?_sweep hlisted, row?_sweep hlisted]
  simp only [hmark]

end SweepAux

open SweepAux Watchdog

/-- The steps of one sweep of the daemon, with nothing in between, do what `sweep` does. -/
theorem exec_sweepActions (cfg : EngineConfig) (alertCapacity : Nat) (alertRx : List AlertRequest) {s : System}
    (hw : s.watchdog = .select) (agentsFault monitorsFault : Bool) (fails : UInt64 → Bool) :
    ∃ log, exec (System.step cfg) always s (s.sweepActions cfg agentsFault monitorsFault fails) =
        some ({ s with
          db := (sweep alertCapacity cfg.heartbeatTimeoutSecs s.wall (answer agentsFault s.db.listAgents)
            (answer monitorsFault s.db.listMonitors) fails ⟨s.db, alertRx⟩).db
          watchdog := .select }, log) ∧
      Channel.sendAll alertCapacity alertRx (alerts log) =
        (sweep alertCapacity cfg.heartbeatTimeoutSecs s.wall (answer agentsFault s.db.listAgents)
          (answer monitorsFault s.db.listMonitors) fails ⟨s.db, alertRx⟩).alertRx := by
  have hs : s = { s with watchdog := .select } := by
    cases s
    cases hw
    rfl
  unfold System.sweepActions sweep
  cases hagents : answer agentsFault s.db.listAgents with
  | error e =>
    have hlist : s.step cfg (.watchdog (.listAgents agentsFault)) = some ({ s with watchdog := .select }, []) := by
      simp only [System.step, System.watchdogStep, hw, hagents, ← hs]
    exact ⟨_, exec_cons rfl hlist rfl, rfl⟩
  | ok agents =>
    have hlist : s.step cfg (.watchdog (.listAgents agentsFault)) = some ({ s with
        watchdog := if (staleAgentIds cfg.heartbeatTimeoutSecs s.wall agents).isEmpty then .select
          else .listing (staleAgentIds cfg.heartbeatTimeoutSecs s.wall agents) }, []) := by
      simp only [System.step, System.watchdogStep, hw, hagents]
    simp only
    generalize staleAgentIds cfg.heartbeatTimeoutSecs s.wall agents = stale at hlist ⊢
    cases stale with
    | nil => exact ⟨_, exec_cons rfl hlist rfl, rfl⟩
    | cons agentId stale =>
      cases hmonitors : answer monitorsFault s.db.listMonitors with
      | error e =>
        have hlist' : System.step cfg { s with watchdog := .listing (agentId :: stale) } (.watchdog (.listMonitors monitorsFault)) =
            some ({ s with watchdog := .select }, []) := by
          simp only [System.step, System.watchdogStep, hmonitors]
        exact ⟨_, exec_cons rfl hlist (exec_cons rfl hlist' rfl), rfl⟩
      | ok monitors =>
        have hlist' : System.step cfg { s with watchdog := .listing (agentId :: stale) } (.watchdog (.listMonitors monitorsFault)) =
            some ({ s with watchdog := goOn (agentId :: stale) monitors }, []) := by
          simp only [System.step, System.watchdogStep, hmonitors]
        obtain ⟨log, hexec, halert⟩ := exec_next cfg alertCapacity fails (agentId :: stale) monitors
          { s with watchdog := goOn (agentId :: stale) monitors } alertRx rfl
        exact ⟨_, exec_cons rfl hlist (exec_cons rfl hlist' hexec), halert⟩

/-- After a sweep over monitors with distinct ids, stored as listed, the status of a monitor has changed exactly if its agent is
quiet, its status was one a check can have given and its write succeeded; what has changed is stale; the changed monitors are
alerted, in the order listed; a write that fails is felt by its own monitor alone; and without a list nothing changes. -/
theorem sweep_marks_stale {alertCapacity : Nat} {heartbeatTimeoutSecs now : UInt64} {agents : List Agent} {monitors : List Monitor}
    {fails : UInt64 → Bool} {s : Sweep} (hids : (monitors.map (·.id.val)).Nodup) (hlisted : ∀ m ∈ monitors, s.db.Holds m)
    (hroom : s.alertRx.length + monitors.countP (toMark heartbeatTimeoutSecs now agents fails) ≤ alertCapacity) :
    let swept := sweep alertCapacity heartbeatTimeoutSecs now (.ok agents) (.ok monitors) fails s
    (∀ m ∈ monitors, swept.db.status? m.id.val ≠ s.db.status? m.id.val ↔
        quiet heartbeatTimeoutSecs now agents m ∧ (m.status = .pending ∨ m.status = .up ∨ m.status = .down) ∧
          fails m.id.val = false) ∧
      (∀ id, swept.db.status? id ≠ s.db.status? id →
        swept.db.status? id = some (monitorStatusToStr .stale) ∧ ∃ m ∈ monitors, m.id.val = id) ∧
      swept.alertRx = s.alertRx ++
        (monitors.filter fun m => decide (swept.db.status? m.id.val ≠ s.db.status? m.id.val)).map staleAlert ∧
      (∀ fails' id, fails' id = fails id →
        (sweep alertCapacity heartbeatTimeoutSecs now (.ok agents) (.ok monitors) fails' s).db.row? id = swept.db.row? id) ∧
      (∀ source monitors, sweep alertCapacity heartbeatTimeoutSecs now (.error source) monitors fails s = s) ∧
      ∀ agents source, sweep alertCapacity heartbeatTimeoutSecs now agents (.error source) fails s = s := by
  intro swept
  refine ⟨fun m hm => (status?_sweep_iff hids hlisted hm).trans decide_eq_true_iff, fun id h => stale_of_changed hlisted h, ?_,
    fun fails' id hf => row?_sweep_congr hlisted hf, fun _ _ => rfl, fun agents source => ?_⟩
  · rw [alertRx_sweep hlisted hroom]
    refine congrArg (fun l => s.alertRx ++ List.map staleAlert l) (List.filter_congr fun m hm => ?_)
    rw [Bool.eq_iff_iff, decide_eq_true_iff, status?_sweep_iff hids hlisted hm]
  · cases agents with
    | error e => rfl
    | ok agents => simp [sweep]

/-- Four monitors: two whose agent last called at time 0, one of these paused, and one whose agent has just called. -/
def sweptMonitors : List Monitor :=
  let row (id : UInt64) (status : MonitorStatus) (agentId : UInt64) : Monitor :=
    ⟨⟨id, id.toNat⟩, "web", "10.0.0.1:80", .tcp, 30, status, some agentId⟩
  [row 1 .up 1, row 2 .down 1, row 3 .paused 1, row 4 .up 2]

/-- Their agents. -/
def sweptAgents : List Agent := [⟨1, "edge", 0, "", "token", none⟩, ⟨2, "core", 950, "", "token", none⟩]

/-- A store that holds them. -/
def sweptDb : Db :=
  let row (id : Int64) (status : String) (agentId : Int64) : MonitorRow :=
    ⟨id, id.toUInt64.toNat, "web", "10.0.0.1:80", "tcp", 30, status, some agentId⟩
  { Db.empty with monitors := Table.ofRows MonitorRow.id [row 1 "up" 1, row 2 "down" 1, row 3 "paused" 1, row 4 "up" 2] }

/-- At time 1000 the first is marked although the write for the second fails. -/
theorem sweep_marks_stale_first :
    let swept := sweep 8 90 1000 (.ok sweptAgents) (.ok sweptMonitors) (fun id => id = 2) ⟨sweptDb, []⟩
    swept.db.status? 1 ≠ sweptDb.status? 1 ∧ swept.db.status? 2 = sweptDb.status? 2 := by
  have hlisted : ∀ m ∈ sweptMonitors, sweptDb.Holds m := fun m hm => Db.row_of_mem_listMonitors rfl hm
  have h := (@sweep_marks_stale 8 90 1000 sweptAgents sweptMonitors (fun id => id = 2) ⟨sweptDb, []⟩ (by decide) hlisted
    (by decide)).1
  exact ⟨(h _ (List.mem_cons_self)).mpr (by decide),
    not_not.mp (mt (h _ (List.mem_cons_of_mem _ List.mem_cons_self)).mp (by decide))⟩

end Monitra
