import Monitra.Engine.Outside
import Monitra.Lemmas.Steps

/-!
# The store from outside a domain

An operation that succeeds on the database does the same on the hidden database, with the same answer, and what it leaves is
hidden alike. The two writes that the domain's agent brings about, a status of one of its monitors and its own heartbeat, are not
seen at all.
-/

namespace Monitra
namespace IsolationAux

open Results

variable {D : Domain} {db db' : Db}

/-! ## The database -/

/-- The rows of monitors outside the domain are not masked. -/
theorem monitorMask_apply {row : MonitorRow} (h : D.has row.id.toUInt64 = false) : D.monitorMask.apply row = row := by
  simp [Domain.monitorMask, h]

theorem row?_hideDb {id : UInt64} (h : D.has id = false) : (D.hideDb db).row? id = db.row? id := by
  unfold Db.row?
  simp only [Domain.hideDb, Table.get?_mask]
  cases hr : db.monitors.get? id.toInt64 with
  | none => rfl
  | some row =>
    rw [Option.map_some, monitorMask_apply]
    rw [Table.key_of_get? hr, UInt64.toUInt64_toInt64]
    exact h

/-- The row of a monitor is there, hidden. -/
theorem monitor_hideDb {id : Int64} {row : MonitorRow} (h : db.monitors.get? id = some row) :
    (D.hideDb db).monitors.get? id = some (D.monitorMask.apply row) := by
  simp only [Domain.hideDb, Table.get?_mask, h, Option.map_some]

/-- The row of an agent is there, hidden. -/
theorem agent_hideDb {id : Int64} {row : AgentRow} (h : db.agents.get? id = some row) :
    (D.hideDb db).agents.get? id = some (D.agentMask.apply row) := by
  simp only [Domain.hideDb, Table.get?_mask, h, Option.map_some]

theorem agentRefOk_hideDb (a : Option Int64) : (D.hideDb db).agentRefOk a = db.agentRefOk a := by
  cases a with
  | none => rfl
  | some a => exact Table.isSome_get?_mask _ _ _

/-- An update of the rows of monitors, through the mask. -/
theorem hideDb_update {p : MonitorRow → Bool} {f : MonitorRow → MonitorRow} (hf : ∀ r, (f r).id = r.id)
    (hp : ∀ r, p (D.monitorMask.apply r) = p r)
    (hm : ∀ r, D.monitorMask.apply (f (D.monitorMask.apply r)) = D.monitorMask.apply (f r)) :
    D.hideDb { D.hideDb db with monitors := (D.hideDb db).monitors.update p f hf } =
      D.hideDb { db with monitors := db.monitors.update p f hf } := by
  unfold Domain.hideDb
  rw [Table.mask_update_mask _ _ hf hp hm, Table.mask_mask]

theorem setMonitorStatus_hideDb {id : UInt64} {status : MonitorStatus} (h : db.setMonitorStatus id status = .ok db') :
    ∃ db'', (D.hideDb db).setMonitorStatus id status = .ok db'' ∧ D.hideDb db'' = D.hideDb db' := by
  unfold Db.setMonitorStatus at h
  split at h
  · cases h
  · rename_i row hrow
    cases h
    unfold Db.setMonitorStatus
    rw [monitor_hideDb hrow]
    refine ⟨_, rfl, hideDb_update (fun _ => by rfl) (fun r => ?_) fun r => ?_⟩
    · simp only [D.monitorMask.key_apply]
    · unfold Domain.monitorMask
      by_cases hr : D.has r.id.toUInt64 = true <;> simp [hr]

/-- The status of one of the domain's monitors is not seen. -/
theorem hideDb_setMonitorStatus {id : UInt64} {status : MonitorStatus} (h : db.setMonitorStatus id status = .ok db')
    (hid : D.has id = true) : D.hideDb db' = D.hideDb db := by
  unfold Db.setMonitorStatus at h
  split at h
  · cases h
  · cases h
    unfold Domain.hideDb
    congr 1
    refine Table.mask_update _ _ (fun _ => by rfl) fun r hr => ?_
    have hid' : D.has r.id.toUInt64 = true := by
      rw [of_decide_eq_true hr, UInt64.toUInt64_toInt64]
      exact hid
    simp [Domain.monitorMask, hid']

theorem updateMonitor_hideDb {id : UInt64} {name target : Option String} {intervalSecs agentId : Option UInt64}
    (h : db.updateMonitor id name target intervalSecs agentId = .ok db') :
    ∃ db'', (D.hideDb db).updateMonitor id name target intervalSecs agentId = .ok db'' ∧ D.hideDb db'' = D.hideDb db' := by
  unfold Db.updateMonitor at h
  split at h
  · cases h
  · rename_i hvalid
    split at h
    · cases h
    · rename_i row hrow
      split at h
      · rename_i href
        cases h
        unfold Db.updateMonitor
        rw [if_neg hvalid, monitor_hideDb hrow, agentRefOk_hideDb, if_pos href]
        refine ⟨_, rfl, hideDb_update (Db.id_updatedRow _ _ _ _) (fun r => ?_) fun r => ?_⟩
        · simp only [D.monitorMask.key_apply]
        · unfold Domain.monitorMask
          by_cases hr : D.has r.id.toUInt64 = true <;> simp [hr, Db.updatedRow]
      · cases h

theorem insertMonitor_hideDb {monitor m : Monitor} {pick : List Int64 → Int64}
    (h : db.insertMonitor monitor pick = .ok (db', m)) :
    ∃ db'', (D.hideDb db).insertMonitor monitor pick = .ok (db'', m) ∧ D.hideDb db'' = D.hideDb db' := by
  unfold Db.insertMonitor at h
  split at h
  · cases h
  · rename_i hvalid
    split at h
    · cases h
    · rename_i t id hins
      split at h
      · rename_i href
        cases h
        obtain ⟨t', hins', hmask⟩ := Table.insertRow_mask D.monitorMask hins
        have hins' : (D.hideDb db).monitors.insertRow (Db.monitorRow monitor (D.hideDb db).inserted) (fun _ => rfl) pick =
            some (t', id) := hins'
        unfold Db.insertMonitor
        rw [if_neg hvalid, hins']
        simp only [agentRefOk_hideDb, href, if_true]
        refine ⟨_, rfl, ?_⟩
        unfold Domain.hideDb
        simp only [hmask, Table.mask_mask]
      · cases h

theorem deleteMonitor_hideDb {id : UInt64} (h : db.deleteMonitor id = .ok db') :
    ∃ db'', (D.hideDb db).deleteMonitor id = .ok db'' ∧ D.hideDb db'' = D.hideDb db' := by
  unfold Db.deleteMonitor at h
  split at h
  · cases h
  · rename_i row hrow
    cases h
    unfold Db.deleteMonitor
    rw [monitor_hideDb hrow]
    refine ⟨_, rfl, ?_⟩
    unfold Domain.hideDb
    rw [Table.delete_mask _ _ fun r => by rw [D.monitorMask.key_apply], Table.mask_mask, Table.mask_mask]

/-! ## Agents -/

/-- An update of the rows of agents, through the mask. -/
theorem hideDb_updateAgents {p : AgentRow → Bool} {f : AgentRow → AgentRow} (hf : ∀ r, (f r).id = r.id)
    (hp : ∀ r, p (D.agentMask.apply r) = p r) (hm : ∀ r, D.agentMask.apply (f (D.agentMask.apply r)) = D.agentMask.apply (f r)) :
    D.hideDb { D.hideDb db with agents := (D.hideDb db).agents.update p f hf } =
      D.hideDb { db with agents := db.agents.update p f hf } := by
  unfold Domain.hideDb
  rw [Table.mask_update_mask _ _ hf hp hm, Table.mask_mask]

theorem upsertAgent_hideDb {agent a : Agent} {pick : List Int64 → Int64} (h : db.upsertAgent agent pick = .ok (db', a)) :
    ∃ db'', (D.hideDb db).upsertAgent agent pick = .ok (db'', a) ∧ D.hideDb db'' = D.hideDb db' := by
  have hname : ∀ r, (D.agentMask.apply r).name = r.name := by
    intro r
    unfold Domain.agentMask
    by_cases hr : r.id = D.agent.toInt64 <;> simp [hr]
  have hfind : ((D.hideDb db).agents.rows.find? fun row => decide (row.name = agent.name)) =
      (db.agents.rows.find? fun row => decide (row.name = agent.name)).map D.agentMask.apply := by
    simp only [Domain.hideDb, Table.mask, List.find?_map, Function.comp_def, hname]
  unfold Db.upsertAgent at h ⊢
  rw [hfind]
  split at h
  · rename_i row hrow
    cases h
    rw [hrow, Option.map_some]
    simp only [D.agentMask.key_apply]
    refine ⟨_, rfl, hideDb_updateAgents (fun _ => by rfl) (fun r => ?_) fun r => ?_⟩
    · simp only [D.agentMask.key_apply]
    · unfold Domain.agentMask
      by_cases hr : r.id = D.agent.toInt64 <;> simp [hr, Db.agentRow]
  · rename_i hnone
    rw [hnone, Option.map_none]
    split at h
    · cases h
    · rename_i t id hins
      cases h
      obtain ⟨t', hins', hmask⟩ := Table.insertRow_mask D.agentMask hins
      have hins' : (D.hideDb db).agents.insertRow (Db.agentRow agent) (fun _ => rfl) pick = some (t', id) := hins'
      rw [hins']
      refine ⟨_, rfl, ?_⟩
      unfold Domain.hideDb
      simp only [hmask, Table.mask_mask]

theorem deleteAgent_hideDb {id : UInt64} (h : db.deleteAgent id = .ok db') :
    ∃ db'', (D.hideDb db).deleteAgent id = .ok db'' ∧ D.hideDb db'' = D.hideDb db' := by
  have hlink : ∀ r, (D.monitorMask.apply r).agentId = r.agentId := by
    intro r
    unfold Domain.monitorMask
    by_cases hr : D.has r.id.toUInt64 = true <;> simp [hr]
  unfold Db.deleteAgent at h
  split at h
  · cases h
  · rename_i row hrow
    split at h
    · cases h
    · rename_i hlinked
      cases h
      have hlinked' : ¬((D.hideDb db).monitors.rows.any fun row => decide (row.agentId = some id.toInt64)) = true := by
        simpa only [Domain.hideDb, Table.mask, List.any_map, Function.comp_def, hlink] using hlinked
      unfold Db.deleteAgent
      rw [agent_hideDb hrow]
      simp only [hlinked']
      refine ⟨_, rfl, ?_⟩
      unfold Domain.hideDb
      rw [Table.delete_mask _ _ fun r => by rw [D.agentMask.key_apply], Table.mask_mask, Table.mask_mask]

theorem heartbeatAgent_hideDb {id t : UInt64} (h : db.heartbeatAgent id t = .ok db') :
    ∃ db'', (D.hideDb db).heartbeatAgent id t = .ok db'' ∧ D.hideDb db'' = D.hideDb db' := by
  unfold Db.heartbeatAgent at h
  split at h
  · cases h
  · rename_i row hrow
    cases h
    unfold Db.heartbeatAgent
    rw [agent_hideDb hrow]
    refine ⟨_, rfl, hideDb_updateAgents (fun _ => by rfl) (fun r => ?_) fun r => ?_⟩
    · simp only [D.agentMask.key_apply]
    · unfold Domain.agentMask
      by_cases hr : r.id = D.agent.toInt64 <;> simp [hr]

/-- The heartbeat of the domain's agent is not seen. -/
theorem hideDb_heartbeatAgent {t : UInt64} (h : db.heartbeatAgent D.agent t = .ok db') : D.hideDb db' = D.hideDb db := by
  unfold Db.heartbeatAgent at h
  split at h
  · cases h
  · cases h
    unfold Domain.hideDb
    congr 1
    refine Table.mask_update _ _ (fun _ => by rfl) fun r hr => ?_
    have hid : r.id = D.agent.toInt64 := of_decide_eq_true hr
    simp [Domain.agentMask, hid]

/-! ## The users -/

variable {cfg : EngineConfig} {s s' : System} {ev : List Event}

/-- A user's call outside the domain does what it does to the database. -/
theorem userCall_outside {a : UserAction} (h : s.userCall a = .ok db) :
    ∃ db', (s.outside D).userCall a = .ok db' ∧ D.hideDb db' = D.hideDb db := by
  cases a with
  | addMonitor name target kind intervalSecs agentId pick =>
    obtain ⟨⟨db₁, m⟩, h₁, rfl⟩ := map_eq_ok h
    unfold Service.addMonitor at h₁
    split at h₁
    · cases h₁
    · rename_i hi
      obtain ⟨db', h', hdb⟩ := insertMonitor_hideDb (D := D) (provider_eq_ok.mp h₁)
      refine ⟨db', ?_, hdb⟩
      simp only [Outside.userCall, Service.addMonitor, hi, System.outside, h']
      rfl
  | editMonitor id name target intervalSecs agentId =>
    simp only [System.userCall, Service.editMonitor] at h
    split at h
    · cases h
    · rename_i hi
      obtain ⟨db', h', hdb⟩ := updateMonitor_hideDb (D := D) (provider_eq_ok.mp h)
      refine ⟨db', ?_, hdb⟩
      simp only [Outside.userCall, Service.editMonitor, hi, System.outside, h']
      rfl
  | removeMonitor id =>
    obtain ⟨db', h', hdb⟩ := deleteMonitor_hideDb (D := D) (provider_eq_ok.mp h)
    exact ⟨db', provider_eq_ok.mpr h', hdb⟩
  | pauseMonitor id | resumeMonitor id =>
    obtain ⟨db', h', hdb⟩ := setMonitorStatus_hideDb (D := D) (provider_eq_ok.mp h)
    exact ⟨db', provider_eq_ok.mpr h', hdb⟩
  | registerAgent name scope region token pick =>
    obtain ⟨⟨db₁, a⟩, h₁, rfl⟩ := map_eq_ok h
    obtain ⟨db', h', hdb⟩ := upsertAgent_hideDb (D := D) (provider_eq_ok.mp h₁)
    refine ⟨db', ?_, hdb⟩
    simp only [Outside.userCall, Service.registerAgent, System.outside, h']
    rfl
  | removeAgent id =>
    obtain ⟨db', h', hdb⟩ := deleteAgent_hideDb (D := D) (provider_eq_ok.mp h)
    exact ⟨db', provider_eq_ok.mpr h', hdb⟩

/-- A deletion takes the records of its monitor's results. -/
theorem recorded_deleteMonitor {id : UInt64} (h : db.deleteMonitor id = .ok db') (r : CheckResult) :
    db'.recorded r = if r.monitorId.val = id then 0 else db.recorded r := by
  unfold Db.deleteMonitor at h
  split at h
  · cases h
  · cases h
    unfold Db.recorded
    simp only [Table.delete, List.countP_filter]
    split
    · rename_i hid
      refine List.countP_eq_zero.mpr fun row _ hrow => ?_
      simp only [Bool.and_eq_true, Bool.not_eq_true', decide_eq_false_iff_not, Db.records, decide_eq_true_eq] at hrow
      refine hrow.2 ?_
      rw [hrow.1, ← hid]
      rfl
    · rename_i hid
      refine List.countP_congr fun row _ => ?_
      simp only [Bool.and_eq_true, Bool.not_eq_true', decide_eq_false_iff_not, Db.records, decide_eq_true_eq]
      refine and_iff_left_of_imp fun hrow hmon => hid ?_
      rw [hrow] at hmon
      exact Word.toInt64_inj.mp hmon

/-- What is recorded outside the domain after a user's call. -/
theorem resultsAfter_outside {a : UserAction} (h : s.userCall a = .ok db) :
    (s.outside D).resultsAfter a = fun r => if D.has r.monitorId.val then 0 else db.recorded r := by
  funext r
  cases call_of_userCall h with
  | removed hdel =>
    rw [recorded_deleteMonitor hdel]
    simp only [Outside.resultsAfter, System.outside]
    split
    · split <;> rfl
    · rfl
  | added hadd =>
    obtain ⟨-, -, hc, -⟩ := Db.insertMonitor_eq_ok hadd
    rw [Db.recorded, hc]
    rfl
  | edited hedit =>
    rw [Db.recorded, (Db.updateMonitor_eq_ok hedit).1]
    rfl
  | paused hset | resumed hset =>
    rw [Db.recorded, (Db.setMonitorStatus_eq_ok hset).2.1]
    rfl
  | registeredAgent hm hc | removedAgent hm hc =>
    rw [Db.recorded, hc]
    rfl

theorem outside_user (cfg : EngineConfig) {a : UserAction} (h : s.userCall a = .ok db) :
    System.outside D { s with db } = (s.outside D).step D cfg (.user a) := by
  obtain ⟨db', h', hdb⟩ := userCall_outside (D := D) h
  simp only [Outside.step, h', resultsAfter_outside h, hdb]
  rfl

end IsolationAux
end Monitra
