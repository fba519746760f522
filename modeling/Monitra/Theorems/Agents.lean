import Monitra.Backend.Auth
import Monitra.Lemmas.Store
import Monitra.Library.Runs

/-!
# Agents in the store

An agent is told apart by its name, which no constraint of the schema keeps unique, and by its id, which goes to the next agent
once the agent with the largest one is deleted. A monitor may refer to an agent; the reference is a foreign key without an
`ON DELETE` action, and no update of a monitor takes it away.
-/

namespace Monitra

open Runs Results

/-! ## Deletion -/

/-- What a deletion of an agent is to do: take that agent away and nothing else, if there is one with the id, and otherwise say
that there is none and leave the store as it is. -/
structure DeletesAgent (db : Db) (id : UInt64) : Prop where
  removes : ∀ row, db.agents.get? id.toInt64 = some row → ∃ db', db.deleteAgent id = .ok db' ∧
    (∀ k, db'.agents.get? k = if k = id.toInt64 then none else db.agents.get? k) ∧ { db' with agents := db.agents } = db
  refuses : db.agents.get? id.toInt64 = none → ∀ pick,
    db.step (.deleteAgent id, pick) = some (db, [(.deleteAgent id, .error (.notFound .store "agent" id))])

/-- Whether a call asks for a monitor to refer to an agent. -/
def StoreCall.links (id : UInt64) : StoreCall → Bool
  | .op (.insertMonitor monitor) _ => monitor.agentId == some id
  | .op (.updateMonitor _ _ _ _ agentId) _ => agentId == some id
  | _ => false

/-- Whether a call deletes a monitor. -/
def StoreCall.deletesMonitor (id : UInt64) : StoreCall → Bool
  | .op (.deleteMonitor id') _ => id' == id
  | _ => false

namespace AgentsAux

/-- What a call leaves: the same store, what one of the operations writes, or a store without some of the check results. -/
theorem cases_of_call {db db' : Db} {call : StoreCall} {ev : List (StoreOp × Except ProviderError StoreAnswer)}
    (h : db.call call = some (db', ev)) :
    db' = db ∨ (∃ op pick, call = .op op pick ∧ Db.Writes db pick op db') ∨
      db'.monitors = db.monitors ∧ db'.agents = db.agents := by
  cases call with
  | op op pick =>
    simp only [Db.call, Db.step] at h
    split at h
    · rename_i hok
      cases h
      exact Or.inr (Or.inl ⟨op, pick, rfl, Db.writes_of_perform hok⟩)
    · cases h
      exact Or.inl rfl
  | pruneCheckResultsOlderThan cutoffUnixSecs limit old =>
    obtain ⟨pruned, hprune, h⟩ := Option.map_eq_some_iff.mp h
    obtain ⟨-, rfl⟩ := Db.pruneCheckResultsOlderThan_eq_some hprune
    cases h
    exact Or.inr (Or.inr ⟨rfl, rfl⟩)

/-- What a call leaves of a row of `monitors` or puts there: it refers to the agent that the row there was referred to, or to the
one that the call asks for, and that agent exists. -/
theorem row_of_call {db db' : Db} {call : StoreCall} {ev : List (StoreOp × Except ProviderError StoreAnswer)}
    (h : db.call call = some (db', ev)) {row' : MonitorRow} (hrow' : row' ∈ db'.monitors.rows) :
    (∃ row ∈ db.monitors.rows, row'.agentId = row.agentId) ∨ row'.agentId = none ∨
      ∃ id, call.links id = true ∧ row'.agentId = some id.toInt64 ∧ (db.agents.get? id.toInt64).isSome ∧
        db'.agents = db.agents := by
  rcases cases_of_call h with rfl | ⟨op, pick, rfl, hw⟩ | ⟨hmonitors, -⟩
  · exact Or.inl ⟨row', hrow', rfl⟩
  · cases hw with
    | @insertedMonitor monitor monitors id hv hins href =>
      obtain ⟨-, -, hperm, -⟩ := Table.insertRow_eq_some hins
      rcases List.mem_cons.mp (hperm.mem_iff.mp hrow') with rfl | hold
      · cases hagent : monitor.agentId with
        | none => exact Or.inr (Or.inl (by simp [Db.monitorRow, hagent]))
        | some a =>
          refine Or.inr (Or.inr ⟨a, by simp [StoreCall.links, hagent], by simp [Db.monitorRow, hagent], ?_, rfl⟩)
          simpa [hagent, Db.agentRefOk] using href
      · exact Or.inl ⟨row', hold, rfl⟩
    | @updatedMonitor id name target intervalSecs agentId row hv hrow href =>
      obtain ⟨row₀, hrow₀, heq⟩ := List.mem_map.mp hrow'
      rw [← heq]
      split
      · cases agentId with
        | none => exact Or.inl ⟨row₀, hrow₀, rfl⟩
        | some a =>
          refine Or.inr (Or.inr ⟨a, by simp [StoreCall.links], rfl, ?_, rfl⟩)
          simpa [Db.agentRefOk] using href
      · exact Or.inl ⟨row₀, hrow₀, rfl⟩
    | setMonitorStatus hrow =>
      obtain ⟨row₀, hrow₀, heq⟩ := List.mem_map.mp hrow'
      refine Or.inl ⟨row₀, hrow₀, ?_⟩
      rw [← heq]
      split <;> rfl
    | deletedMonitor hrow => exact Or.inl ⟨row', (Table.mem_rows_delete.mp hrow').1, rfl⟩
    | insertedCheckResults hins =>
      rw [(Db.insertCheckResults_eq_ok hins).1] at hrow'
      exact Or.inl ⟨row', hrow', rfl⟩
    | overwroteAgent | insertedAgent | heardAgent | deletedAgent | insertedAlertEvent | read =>
      exact Or.inl ⟨row', hrow', rfl⟩
  · rw [hmonitors] at hrow'
    exact Or.inl ⟨row', hrow', rfl⟩

/-- An agent that a monitor refers to stays through every call. -/
theorem agent_of_call {db db' : Db} {call : StoreCall} {ev : List (StoreOp × Except ProviderError StoreAnswer)}
    (h : db.call call = some (db', ev)) {row : MonitorRow} (hrow : row ∈ db.monitors.rows) {a : Int64}
    (hlink : row.agentId = some a) (ha : (db.agents.get? a).isSome) : (db'.agents.get? a).isSome := by
  rcases cases_of_call h with rfl | ⟨op, pick, rfl, hw⟩ | ⟨-, hagents⟩
  · exact ha
  · cases hw with
    | overwroteAgent hname =>
      refine (Table.isSome_get?_update ?_ a).trans ha
      exact fun _ => rfl
    | insertedAgent hname hins =>
      obtain ⟨-, -, -, hget⟩ := Table.insertRow_eq_some hins
      rw [hget]
      split
      · rfl
      · exact ha
    | heardAgent hfound =>
      refine (Table.isSome_get?_update ?_ a).trans ha
      exact fun _ => rfl
    | @deletedAgent id _ hfound href =>
      have hne : a ≠ id.toInt64 := by
        rintro rfl
        exact href row hrow hlink
      rw [Table.get?_delete_key, if_neg hne]
      exact ha
    | insertedCheckResults hins =>
      rw [(Db.insertCheckResults_eq_ok hins).2.1]
      exact ha
    | insertedMonitor | updatedMonitor | setMonitorStatus | deletedMonitor | insertedAlertEvent | read => exact ha
  · rw [hagents]
    exact ha

/-- A monitor that refers to an agent refers to one after every call but its own deletion. -/
theorem link_of_call {id : UInt64} {db db' : Db} {call : StoreCall} {ev : List (StoreOp × Except ProviderError StoreAnswer)}
    (h : db.call call = some (db', ev)) (hcall : call.deletesMonitor id = false)
    (hlink : ∃ row, db.row? id = some row ∧ row.agentId.isSome) : ∃ row, db'.row? id = some row ∧ row.agentId.isSome := by
  obtain ⟨row, hrow, hsome⟩ := hlink
  unfold Db.row? at hrow ⊢
  rcases cases_of_call h with rfl | ⟨op, pick, rfl, hw⟩ | ⟨hmonitors, -⟩
  · exact ⟨row, hrow, hsome⟩
  · cases hw with
    | insertedMonitor hv hins href =>
      obtain ⟨-, hfree, -, hget⟩ := Table.insertRow_eq_some hins
      refine ⟨row, ?_, hsome⟩
      rw [hget, if_neg]
      · exact hrow
      · rintro rfl
        cases hfree.symm.trans hrow
    | @updatedMonitor _ name target intervalSecs agentId _ hv hfound href =>
      simp only [Table.get?_update_key, hrow, Option.map_some, Option.some.injEq, exists_eq_left']
      split
      · cases agentId with
        | none => exact hsome
        | some a => rfl
      · exact hsome
    | setMonitorStatus hfound =>
      simp only [Table.get?_update_key, hrow, Option.map_some, Option.some.injEq, exists_eq_left']
      split <;> exact hsome
    | @deletedMonitor id' _ hfound =>
      have hne : id.toInt64 ≠ id'.toInt64 := by
        intro heq
        simp [StoreCall.deletesMonitor, Word.toInt64_inj.mp heq] at hcall
      rw [Table.get?_delete_key, if_neg hne]
      exact ⟨row, hrow, hsome⟩
    | insertedCheckResults hins =>
      rw [(Db.insertCheckResults_eq_ok hins).1]
      exact ⟨row, hrow, hsome⟩
    | overwroteAgent | insertedAgent | heardAgent | deletedAgent | insertedAlertEvent | read => exact ⟨row, hrow, hsome⟩
  · rw [hmonitors]
    exact ⟨row, hrow, hsome⟩

/-- Referential integrity: in every store reached, the agent that a monitor refers to exists. -/
theorem agent_of_link {ok : Db → StoreCall → Prop} {db : Db} {log : List (StoreOp × Except ProviderError StoreAnswer)}
    (h : Run Db.call ok Db.empty db log) :
    ∀ row ∈ db.monitors.rows, ∀ a, row.agentId = some a → (db.agents.get? a).isSome := by
  refine h.stateInvariant (I := fun db => ∀ row ∈ db.monitors.rows, ∀ a, row.agentId = some a → (db.agents.get? a).isSome)
    (by simp [Db.empty, Table.empty]) ?_
  intro db db' ev call hrefs _ hcall row' hrow' a hlink
  rcases row_of_call hcall hrow' with ⟨row, hrow, hsame⟩ | hnone | ⟨id, -, hsome, hagent, hagents⟩
  · rw [hsame] at hlink
    exact agent_of_call hcall hrow hlink (hrefs row hrow a hlink)
  · rw [hnone] at hlink
    cases hlink
  · rw [hsome] at hlink
    cases hlink
    rw [hagents]
    exact hagent

/-- Where the agents that monitors refer to exist, a deletion keeps its contract exactly if no monitor refers to the agent. -/
theorem deletesAgent_iff {db : Db} (hrefs : ∀ row ∈ db.monitors.rows, ∀ a, row.agentId = some a → (db.agents.get? a).isSome)
    (id : UInt64) : DeletesAgent db id ↔ ∀ row ∈ db.monitors.rows, row.agentId ≠ some id.toInt64 := by
  constructor
  · intro h row hrow hlink
    obtain ⟨agent, hagent⟩ := Option.isSome_iff_exists.mp (hrefs row hrow _ hlink)
    obtain ⟨db', hok, -⟩ := h.removes agent hagent
    have hany : db.monitors.rows.any (fun row => decide (row.agentId = some id.toInt64)) = true :=
      List.any_eq_true.mpr ⟨row, hrow, decide_eq_true hlink⟩
    rw [Db.deleteAgent, hagent] at hok
    simp only [hany, if_true] at hok
    cases hok
  · intro hfree
    have hany : db.monitors.rows.any (fun row => decide (row.agentId = some id.toInt64)) = false := by
      simpa using hfree
    refine ⟨fun row hrow => ?_, fun hnone pick => ?_⟩
    · refine ⟨{ db with agents := db.agents.delete fun row => decide (row.id = id.toInt64) }, ?_, ?_, rfl⟩
      · simp only [Db.deleteAgent, hrow, hany, Bool.false_eq_true, if_false]
      · exact Table.get?_delete_key
    · simp only [Db.step, Db.perform, Db.deleteAgent, hnone, Except.map, StorageError.toProviderError]

/-- In a run that never asks for a monitor to refer to an agent, none does. -/
theorem no_link {id : UInt64} {db : Db} {log : List (StoreOp × Except ProviderError StoreAnswer)}
    (h : Run Db.call (fun _ call => call.links id = false) Db.empty db log) :
    ∀ row ∈ db.monitors.rows, row.agentId ≠ some id.toInt64 := by
  refine h.stateInvariant (I := fun db => ∀ row ∈ db.monitors.rows, row.agentId ≠ some id.toInt64)
    (by simp [Db.empty, Table.empty]) ?_
  intro db db' ev call hfree hok hcall row' hrow' hlink
  rcases row_of_call hcall hrow' with ⟨row, hrow, hsame⟩ | hnone | ⟨id', hlinks, hsome, -⟩
  · exact hfree row hrow (hsame ▸ hlink)
  · cases hnone.symm.trans hlink
  · cases Word.toInt64_inj.mp (Option.some.inj (hsome.symm.trans hlink))
    rw [hok] at hlinks
    cases hlinks

end AgentsAux

/-- In every store that calls of the `Store` trait lead to, a deletion of an agent keeps its contract exactly if no monitor refers
to the agent, as in every run that never asks for such a reference. -/
theorem deletes_agent_iff (id : UInt64) :
    (∀ db log, Run Db.call (fun _ _ => True) Db.empty db log →
        (DeletesAgent db id ↔ ∀ row ∈ db.monitors.rows, row.agentId ≠ some id.toInt64)) ∧
      ∀ db log, Run Db.call (fun _ call => call.links id = false) Db.empty db log → DeletesAgent db id :=
  ⟨fun _ _ h => AgentsAux.deletesAgent_iff (AgentsAux.agent_of_link h) id,
    fun _ _ h => (AgentsAux.deletesAgent_iff (AgentsAux.agent_of_link h) id).mpr (AgentsAux.no_link h)⟩

/-- A monitor that refers to an agent refers to one until it is deleted itself: no call takes the reference away. -/
theorem link_lasts {id : UInt64} {db db' : Db} {log : List (StoreOp × Except ProviderError StoreAnswer)}
    (h : Run Db.call (fun _ call => call.deletesMonitor id = false) db db' log)
    (hlink : ∃ row, db.row? id = some row ∧ row.agentId.isSome) : ∃ row, db'.row? id = some row ∧ row.agentId.isSome :=
  h.stateInvariant (I := fun db => ∃ row, db.row? id = some row ∧ row.agentId.isSome) hlink fun _ _ _ _ hI hok hcall =>
    AgentsAux.link_of_call hcall hok hI

/-- The store after some calls, with what they returned. -/
def afterCalls (calls : List StoreCall) : Db × List (StoreOp × Except ProviderError StoreAnswer) :=
  after Db.call (fun _ _ => true) Db.empty calls

theorem run_afterCalls (calls : List StoreCall) (h : (exec Db.call (fun _ _ => true) Db.empty calls).isSome) :
    Run Db.call (fun _ _ => True) Db.empty (afterCalls calls).1 (afterCalls calls).2 :=
  (run_after h).mono fun _ _ _ => trivial

/-- Two agents, a monitor of the first one, and the monitor's name changed. -/
def linkedAgent : List StoreCall :=
  [.op (.upsertAgent ⟨0, "edge", 100, "", "t", none⟩) fun _ => 1, .op (.upsertAgent ⟨0, "core", 100, "", "u", none⟩) fun _ => 1,
    .op (.insertMonitor ⟨⟨0, 0⟩, "db", "db:5432", .tcp, 60, .pending, some 1⟩) fun _ => 1,
    .op (.updateMonitor 1 (some "primary") none none none) fun _ => 1]

/-- The first agent is there and cannot be deleted. -/
theorem linked_agent_stays :
    ¬∀ db log id, Run Db.call (fun _ _ => True) Db.empty db log → DeletesAgent db id := by
  intro h
  have hdeletes := h _ _ 1 (run_afterCalls linkedAgent (by decide +kernel))
  obtain ⟨db', hok, -⟩ := hdeletes.removes ⟨1, "edge", 100, "", "t", none⟩ (by decide +kernel)
  have herror : (afterCalls linkedAgent).1.deleteAgent 1 = .error (.queryFailed .foreignKey) := by decide +kernel
  cases herror.symm.trans hok

/-- The second one, which no monitor refers to, is deleted. -/
theorem unlinked_agent_deleted : DeletesAgent (afterCalls linkedAgent).1 2 :=
  ((deletes_agent_iff 2).1 _ _ (run_afterCalls linkedAgent (by decide +kernel))).mpr (by decide +kernel)

/-! ## Registration -/

/-- The operations that write agents. -/
def StoreOp.writesAgent : StoreOp → Bool
  | .upsertAgent _ | .heartbeatAgent _ _ | .deleteAgent _ => true
  | _ => false

/-- A registration under a name set the token of the agent of an id. -/
def SetByName (name : String) (id : UInt64) (token : String) (log : List (StoreOp × Except ProviderError StoreAnswer)) : Prop :=
  ∃ agent, agent.name = name ∧ agent.token = token ∧ (.upsertAgent agent, .ok (.agent { agent with id := id })) ∈ log

/-- A registration set the token of the agent of an id: one under that name, or one after the agent of the id was deleted. -/
def SetById (name : String) (id : UInt64) (token : String) (log : List (StoreOp × Except ProviderError StoreAnswer)) : Prop :=
  ∃ agent before rest, log = before ++ (.upsertAgent agent, .ok (.agent { agent with id := id })) :: rest ∧
    agent.token = token ∧ (agent.name = name ∨ (.deleteAgent id, .ok .unit) ∈ before)

/-- What registration is to do in a store, and in every store that writes to its agents lead to from there. `SetAgain` says that a
registration has set the token of an agent, which is registered under a name, with an id. -/
structure RegistersAgents (SetAgain : String → UInt64 → String → List (StoreOp × Except ProviderError StoreAnswer) → Prop)
    (db : Db) : Prop where
  distinct : (db.agents.rows.map (·.name)).Nodup
  overwrites : ∀ agent pick, ∀ row ∈ db.agents.rows, row.name = agent.name →
    ∃ db', db.upsertAgent agent pick = .ok (db', { agent with id := row.id.toUInt64 }) ∧
      ∀ k, db'.agents.get? k = if k = row.id then some (Db.agentRow agent row.id) else db.agents.get? k
  adds : ∀ agent pick db' a, (∀ row ∈ db.agents.rows, row.name ≠ agent.name) → db.upsertAgent agent pick = .ok (db', a) →
    (∀ row ∈ db.agents.rows, row.id.toUInt64 ≠ a.id) ∧
      ∀ k, db'.agents.get? k = if k = a.id.toInt64 then some (Db.agentRow agent a.id.toInt64) else db.agents.get? k
  revokes : ∀ agent pick db₁ a, ∀ row ∈ db.agents.rows, row.name = agent.name → agent.token ≠ row.token →
    db.upsertAgent agent pick = .ok (db₁, a) →
    ∀ db₂ log, Run Db.step (fun _ call => call.1.writesAgent = true) db₁ db₂ log →
      SetAgain agent.name a.id row.token log ∨
        ∀ (V : Type) (toStr : V → Option String) (state : AppState) (request : Request V), state.store = db₂ →
          bearerToken toStr request = some row.token →
          requireAgentToken toStr state a.id request (fun _ => ()) = .error .unauthorized

namespace AgentsAux

/-- What a write to the agents that succeeds leaves under each id. -/
inductive AgentWrite (db db' : Db) : StoreOp → StoreAnswer → Prop where
  | overwrote {agent row} (hrow : db.agents.get? row.id = some row) (hname : row.name = agent.name)
      (hget : ∀ k, db'.agents.get? k = if k = row.id then some (Db.agentRow agent row.id) else db.agents.get? k) :
      AgentWrite db db' (.upsertAgent agent) (.agent { agent with id := row.id.toUInt64 })
  | added {agent id} (hname : ∀ row ∈ db.agents.rows, row.name ≠ agent.name) (hfree : db.agents.get? id = none)
      (hget : ∀ k, db'.agents.get? k = if k = id then some (Db.agentRow agent id) else db.agents.get? k) :
      AgentWrite db db' (.upsertAgent agent) (.agent { agent with id := id.toUInt64 })
  | heard {id atUnixSecs} (hget : ∀ k, db'.agents.get? k = (db.agents.get? k).map fun row =>
      if k = id.toInt64 then { row with lastHeartbeatAt := atUnixSecs.toInt64 } else row) :
      AgentWrite db db' (.heartbeatAgent id atUnixSecs) .unit
  | deleted {id} (hget : ∀ k, db'.agents.get? k = if k = id.toInt64 then none else db.agents.get? k) :
      AgentWrite db db' (.deleteAgent id) .unit

/-- A registration that succeeds overwrites the agent of its name, or adds one under a free id. -/
theorem agentWrite_of_upsertAgent {db db' : Db} {agent a : Agent} {pick : List Int64 → Int64}
    (h : db.upsertAgent agent pick = .ok (db', a)) : AgentWrite db db' (.upsertAgent agent) (.agent a) := by
  unfold Db.upsertAgent at h
  split at h
  · rename_i existing hfind
    cases h
    have hname : existing.name = agent.name := by simpa using List.find?_some hfind
    have hrow : db.agents.get? existing.id = some existing := Table.get?_of_mem (List.mem_of_find?_eq_some hfind)
    refine .overwrote hrow hname fun k => ?_
    refine (@Table.get?_update_key _ _ _ _ _ _ _ ?_ k).trans ?_
    · exact fun _ => rfl
    · by_cases hk : k = existing.id
      · subst hk
        simp only [hrow, Option.map_some, if_true, hname]
        rfl
      · simp only [if_neg hk, Option.map_id']
  · rename_i hfind
    split at h
    · cases h
    · rename_i agents id hins
      cases h
      obtain ⟨-, hfree, -, hget⟩ := Table.insertRow_eq_some hins
      refine .added (fun row hrow => by simpa using List.find?_eq_none.mp hfind row hrow) hfree fun k => ?_
      rw [hget]
      simp only [eq_comm]

/-- A write to the agents succeeds as one of the four, or fails and leaves the store. -/
theorem agentWrite_of_step {db db' : Db} {op : StoreOp} {pick : List Int64 → Int64}
    {ev : List (StoreOp × Except ProviderError StoreAnswer)} (hop : op.writesAgent = true)
    (h : db.step (op, pick) = some (db', ev)) :
    (db' = db ∧ ∃ e, ev = [(op, .error e)]) ∨ ∃ answer, AgentWrite db db' op answer ∧ ev = [(op, .ok answer)] := by
  unfold Db.step at h
  split at h
  · rename_i db₁ answer hok
    cases h
    refine Or.inr ⟨answer, ?_, rfl⟩
    cases op with
    | upsertAgent agent =>
      obtain ⟨⟨db₁, a⟩, hr, ⟨⟩⟩ := map_eq_ok hok
      exact agentWrite_of_upsertAgent hr
    | heartbeatAgent id atUnixSecs =>
      obtain ⟨db₁, hr, ⟨⟩⟩ := map_eq_ok hok
      simp only [Db.heartbeatAgent] at hr
      split at hr
      · cases hr
      · cases hr
        refine .heard fun k => ?_
        rw [Table.get?_update_key]
    | deleteAgent id =>
      obtain ⟨db₁, hr, ⟨⟩⟩ := map_eq_ok hok
      simp only [Db.deleteAgent] at hr
      split at hr
      · cases hr
      · split at hr
        · cases hr
        · cases hr
          exact .deleted fun k => Table.get?_delete_key k
    | _ => cases hop
  · rename_i e _
    cases h
    exact Or.inl ⟨rfl, e.toProviderError, rfl⟩

/-! ### Names -/

/-- Two agents do not have one name. -/
def NamesDistinct (db : Db) : Prop :=
  ∀ k k' row row', db.agents.get? k = some row → db.agents.get? k' = some row' → row.name = row'.name → k = k'

/-- A row under an id keeps the names distinct when no row under another id has its name. -/
theorem NamesDistinct.put {db db' : Db} {id : Int64} {row : AgentRow} (hdb : NamesDistinct db)
    (hget : ∀ k, db'.agents.get? k = if k = id then some row else db.agents.get? k)
    (hother : ∀ k row', db.agents.get? k = some row' → row'.name = row.name → k = id) : NamesDistinct db' := by
  intro k k' row₁ row₂ hk hk' hname
  rw [hget] at hk hk'
  split at hk
  · rename_i hid
    cases hk
    split at hk'
    · rename_i hid'
      rw [hid, hid']
    · rw [hid, hother k' row₂ hk' hname.symm]
  · split at hk'
    · rename_i hid'
      cases hk'
      rw [hid', hother k row₁ hk hname]
    · exact hdb k k' row₁ row₂ hk hk' hname

/-- A write to the agents keeps their names distinct. -/
theorem namesDistinct_of_agentWrite {db db' : Db} {op : StoreOp} {answer : StoreAnswer} (h : AgentWrite db db' op answer)
    (hdb : NamesDistinct db) : NamesDistinct db' := by
  cases h with
  | @overwrote agent existing hrow hsame hget =>
    exact hdb.put hget fun k row' hk hname => hdb k existing.id row' existing hk hrow (hname.trans hsame.symm)
  | added hnew _ hget =>
    exact hdb.put hget fun k row' hk hname => absurd hname (hnew row' (Table.mem_of_get? hk))
  | heard hget =>
    intro k k' row row' hk hk' hname
    rw [hget] at hk hk'
    obtain ⟨old, hold, rfl⟩ := Option.map_eq_some_iff.mp hk
    obtain ⟨old', hold', rfl⟩ := Option.map_eq_some_iff.mp hk'
    refine hdb k k' old old' hold hold' ?_
    split at hname <;> split at hname <;> exact hname
  | deleted hget =>
    intro k k' row row' hk hk' hname
    rw [hget] at hk hk'
    split at hk
    · cases hk
    · split at hk'
      · cases hk'
      · exact hdb k k' row row' hk hk' hname

/-- The names in every store reached are distinct. -/
theorem namesDistinct_of_run {db : Db} {log : List (StoreOp × Except ProviderError StoreAnswer)}
    (h : Run Db.step (fun _ call => call.1.writesAgent = true) Db.empty db log) : NamesDistinct db := by
  refine h.stateInvariant (fun k _ row _ hk => ?_) ?_
  · cases hk
  · intro db db' ev call hdb hop hstep
    rcases agentWrite_of_step hop hstep with ⟨rfl, -⟩ | ⟨answer, hw, -⟩
    · exact hdb
    · exact namesDistinct_of_agentWrite hw hdb

/-! ### Tokens -/

/-- What holds of the agent of an id after it was registered under a name with another token than `old`: it keeps the name unless
it is deleted, and has `old` only if a registration set it. -/
structure Rotated (name : String) (id : UInt64) (old : String) (db : Db)
    (log : List (StoreOp × Except ProviderError StoreAnswer)) : Prop where
  gone : db.agents.get? id.toInt64 = none → (.deleteAgent id, .ok .unit) ∈ log
  renamed : ∀ row, db.agents.get? id.toInt64 = some row → row.name = name ∨ (.deleteAgent id, .ok .unit) ∈ log
  token : ∀ row, db.agents.get? id.toInt64 = some row → row.token = old → SetById name id old log

/-- What a registration has set stays set. -/
theorem setById_append {name : String} {id : UInt64} {token : String}
    {log : List (StoreOp × Except ProviderError StoreAnswer)} (h : SetById name id token log)
    (ev : List (StoreOp × Except ProviderError StoreAnswer)) : SetById name id token (log ++ ev) := by
  obtain ⟨agent, before, rest, rfl, htoken, hname⟩ := h
  exact ⟨agent, before, rest ++ ev, by simp, htoken, hname⟩

/-- What leaves the agent of the id alone keeps what holds of it. -/
theorem Rotated.frame {name : String} {id : UInt64} {old : String} {db db' : Db}
    {log : List (StoreOp × Except ProviderError StoreAnswer)} (h : Rotated name id old db log)
    (hget : db'.agents.get? id.toInt64 = db.agents.get? id.toInt64) : Rotated name id old db' log := by
  obtain ⟨hgone, hrenamed, htoken⟩ := h
  rw [← hget] at hgone
  simp only [← hget] at hrenamed htoken
  exact ⟨hgone, hrenamed, htoken⟩

/-- The agent that the id has now was registered with it. -/
theorem Rotated.of_row {name : String} {id : UInt64} {old : String} {db : Db}
    {log : List (StoreOp × Except ProviderError StoreAnswer)} {row : AgentRow} (hrow : db.agents.get? id.toInt64 = some row)
    (hnamed : row.name = name ∨ (.deleteAgent id, .ok .unit) ∈ log) (htoken : row.token = old → SetById name id old log) :
    Rotated name id old db log := by
  refine ⟨fun hnone => ?_, fun row' hrow' => ?_, fun row' hrow' => ?_⟩
  · cases hrow.symm.trans hnone
  · cases hrow.symm.trans hrow'
    exact hnamed
  · cases hrow.symm.trans hrow'
    exact htoken

/-- A write to the agents keeps what holds of a rotated token. -/
theorem rotated_of_step {name : String} {id : UInt64} {old : String} {db db' : Db}
    {log ev : List (StoreOp × Except ProviderError StoreAnswer)} {call : StoreOp × (List Int64 → Int64)}
    (hI : Rotated name id old db log) (hop : call.1.writesAgent = true) (h : db.step call = some (db', ev)) :
    Rotated name id old db' (log ++ ev) := by
  have hkept : Rotated name id old db (log ++ ev) :=
    ⟨fun hnone => List.mem_append_left _ (hI.gone hnone),
      fun row hrow => (hI.renamed row hrow).imp_right (List.mem_append_left _),
      fun row hrow htoken => setById_append (hI.token row hrow htoken) ev⟩
  rcases agentWrite_of_step hop h with ⟨rfl, -⟩ | ⟨answer, hw, rfl⟩
  · exact hkept
  · obtain ⟨op, pick⟩ := call
    cases hw with
    | @overwrote agent existing hrow hname hget =>
      by_cases hid : id.toInt64 = existing.id
      · rw [← hid] at hrow
        have hnamed : agent.name = name ∨ (.deleteAgent id, .ok .unit) ∈ log := by
          rw [← hname]
          exact hI.renamed existing hrow
        have hget' : db'.agents.get? id.toInt64 = some (Db.agentRow agent existing.id) := by
          rw [hget, if_pos hid]
        exact Rotated.of_row hget' (hnamed.imp_right (List.mem_append_left _)) fun htoken =>
          ⟨agent, log, [], by rw [← hid, UInt64.toUInt64_toInt64], htoken, hnamed⟩
      · refine hkept.frame ?_
        rw [hget, if_neg hid]
    | @added agent new hnew hfree hget =>
      by_cases hid : id.toInt64 = new
      · have hget' : db'.agents.get? id.toInt64 = some (Db.agentRow agent new) := by
          rw [hget, if_pos hid]
        have hdeleted := hI.gone (by rw [hid, hfree])
        exact Rotated.of_row hget' (Or.inr (List.mem_append_left _ hdeleted)) fun htoken =>
          ⟨agent, log, [], by rw [← hid, UInt64.toUInt64_toInt64], htoken, Or.inr hdeleted⟩
      · refine hkept.frame ?_
        rw [hget, if_neg hid]
    | heard hget =>
      refine ⟨fun hnone => ?_, fun row hrow' => ?_, fun row hrow' htoken => ?_⟩
      · rw [hget, Option.map_eq_none_iff] at hnone
        exact hkept.gone hnone
      · rw [hget] at hrow'
        obtain ⟨row₀, hrow₀, rfl⟩ := Option.map_eq_some_iff.mp hrow'
        have hnamed := hkept.renamed row₀ hrow₀
        split <;> exact hnamed
      · rw [hget] at hrow'
        obtain ⟨row₀, hrow₀, rfl⟩ := Option.map_eq_some_iff.mp hrow'
        refine hkept.token row₀ hrow₀ ?_
        split at htoken <;> exact htoken
    | @deleted id' hget =>
      by_cases hid : id.toInt64 = id'.toInt64
      · have hdeleted : (StoreOp.deleteAgent id, Except.ok StoreAnswer.unit) ∈
            log ++ [(StoreOp.deleteAgent id', (Except.ok StoreAnswer.unit : Except ProviderError StoreAnswer))] := by
          rw [Word.toInt64_inj.mp hid]
          exact List.mem_append_right _ (List.mem_singleton_self _)
        have hget' : db'.agents.get? id.toInt64 = none := by
          rw [hget, if_pos hid]
        refine ⟨fun _ => hdeleted, fun row _ => Or.inr hdeleted, fun row hrow' _ => ?_⟩
        cases hget'.symm.trans hrow'
      · refine hkept.frame ?_
        rw [hget, if_neg hid]

/-- After a registration under a name that was there, with another token, the old token is out of use. -/
theorem rotated_of_upsertAgent {db db₁ : Db} {agent a : Agent} {row : AgentRow} {pick : List Int64 → Int64}
    (hdb : NamesDistinct db) (hrow : row ∈ db.agents.rows) (hname : row.name = agent.name) (htoken : agent.token ≠ row.token)
    (h : db.upsertAgent agent pick = .ok (db₁, a)) : Rotated agent.name a.id row.token db₁ [] := by
  have hw := agentWrite_of_upsertAgent h
  cases hw with
  | @overwrote _ existing hexisting hsame hget =>
    have hid : row.id = existing.id :=
      hdb row.id existing.id row existing (Table.get?_of_mem hrow) hexisting (hname.trans hsame.symm)
    have hget' : db₁.agents.get? existing.id.toUInt64.toInt64 = some (Db.agentRow agent existing.id) := by
      rw [hget, Int64.toInt64_toUInt64, if_pos rfl]
    exact Rotated.of_row hget' (Or.inl rfl) fun hold => absurd hold htoken
  | added hnew _ _ => exact absurd hname (hnew row hrow)

/-- While the agent of an id does not have a token, a request that presents it is refused. -/
theorem requireAgentToken_eq_unauthorized {V : Type} {toStr : V → Option String} {state : AppState} {request : Request V}
    {id : UInt64} {token : String} (hbearer : bearerToken toStr request = some token)
    (htoken : ∀ row, state.store.agents.get? id.toInt64 = some row → row.token ≠ token) :
    requireAgentToken toStr state id request (fun _ => ()) = .error .unauthorized := by
  cases h : requireAgentToken toStr state id request (fun _ => ()) with
  | error code => rw [requireAgentToken_eq_error h]
  | ok x =>
    obtain ⟨⟨row, hrow, hpresented⟩, -⟩ := requireAgentToken_eq_ok.mp h
    cases hbearer.symm.trans hpresented
    exact absurd rfl (htoken row hrow)

end AgentsAux

open AgentsAux in
/-- In every store that writes to the agents lead to from an empty one, names are distinct, a registration overwrites the agent of
its name or adds one under a free id, and a token that a registration replaced is refused for the id from then on, until a
registration sets it again: one under that name, or one that is given the id after its agent was deleted. -/
theorem registers_agents {db : Db} {log : List (StoreOp × Except ProviderError StoreAnswer)}
    (h : Run Db.step (fun _ call => call.1.writesAgent = true) Db.empty db log) : RegistersAgents SetById db := by
  have hdb := namesDistinct_of_run h
  have hsame : ∀ row ∈ db.agents.rows, ∀ row' ∈ db.agents.rows, row.name = row'.name → row = row' := by
    intro row hrow row' hrow' hname
    have hget := Table.get?_of_mem hrow
    rw [hdb row.id row'.id row row' hget (Table.get?_of_mem hrow') hname, Table.get?_of_mem hrow'] at hget
    exact (Option.some.inj hget).symm
  refine ⟨?_, ?_, ?_, ?_⟩
  · exact db.agents.nodup_rows.map_on hsame
  · intro agent pick row hrow hname
    cases hfind : db.agents.rows.find? fun row => decide (row.name = agent.name) with
    | none => exact absurd hname (by simpa using List.find?_eq_none.mp hfind row hrow)
    | some existing =>
      obtain ⟨db', a, hok⟩ : ∃ db' a, db.upsertAgent agent pick = .ok (db', a) := by
        simp only [Db.upsertAgent, hfind]
        exact ⟨_, _, rfl⟩
      refine ⟨db', ?_⟩
      cases agentWrite_of_upsertAgent hok with
      | @overwrote _ existing hexisting hname' hget =>
        cases hsame row hrow existing (Table.mem_of_get? hexisting) (hname.trans hname'.symm)
        exact ⟨hok, hget⟩
      | added hnew _ _ => exact absurd hname (hnew row hrow)
  · intro agent pick db' a hnew hok
    cases agentWrite_of_upsertAgent hok with
    | overwrote hexisting hname _ => exact absurd hname (hnew _ (Table.mem_of_get? hexisting))
    | @added _ id _ hfree hget =>
      rw [Int64.toInt64_toUInt64]
      refine ⟨fun row hrow hid => ?_, hget⟩
      refine Table.get?_eq_none_iff.mp hfree row hrow ?_
      rw [← Int64.toInt64_toUInt64 row.id, hid, Int64.toInt64_toUInt64]
  · intro agent pick db₁ a row hrow hname htoken hok db₂ log₂ hrun
    have hrotated : Rotated agent.name a.id row.token db₂ log₂ :=
      hrun.invariant (I := fun db log => Rotated agent.name a.id row.token db log)
        (rotated_of_upsertAgent hdb hrow hname htoken hok) fun _ _ _ _ _ hI hop hstep => rotated_of_step hI hop hstep
    by_cases hset : SetById agent.name a.id row.token log₂
    · exact Or.inl hset
    · refine Or.inr fun V toStr state request hstore hbearer => ?_
      refine requireAgentToken_eq_unauthorized hbearer fun row' hrow' hold => ?_
      rw [hstore] at hrow'
      exact hset (hrotated.token row' hrow' hold)

/-- The store after some writes to the agents, with what they returned. -/
def afterWrites (db : Db) (ops : List StoreOp) : Db × List (StoreOp × Except ProviderError StoreAnswer) :=
  after Db.step (fun _ call => call.1.writesAgent) db (ops.map fun op => (op, fun _ => 1))

theorem run_afterWrites (db : Db) (ops : List StoreOp)
    (h : (exec Db.step (fun _ call => call.1.writesAgent) db (ops.map fun op => (op, fun _ => 1))).isSome) :
    Run Db.step (fun _ call => call.1.writesAgent = true) db (afterWrites db ops).1 (afterWrites db ops).2 :=
  run_after h

/-- An agent, the same with another token, and then, once it is deleted, another agent with its old token and its id. -/
def registeredEdge : Db := (afterWrites Db.empty [.upsertAgent ⟨0, "edge", 100, "", "t", none⟩]).1

def rotatedEdge : Db := (afterWrites registeredEdge [.upsertAgent ⟨0, "edge", 200, "", "u", none⟩]).1

def reusedEdge : Db × List (StoreOp × Except ProviderError StoreAnswer) :=
  afterWrites rotatedEdge [.deleteAgent 1, .upsertAgent ⟨0, "core", 300, "", "t", none⟩]

/-- The old token of the agent is accepted again for its id, and no registration under its name set it. -/
theorem old_token_of_reused_id :
    ¬∀ db log, Run Db.step (fun _ call => call.1.writesAgent = true) Db.empty db log → RegistersAgents SetByName db := by
  intro h
  have hregisters : RegistersAgents SetByName registeredEdge :=
    h _ _ (run_afterWrites _ _ (by decide +kernel))
  have hrotated : registeredEdge.upsertAgent ⟨0, "edge", 200, "", "u", none⟩ (fun _ => 1) =
      .ok (rotatedEdge, ⟨1, "edge", 200, "", "u", none⟩) := by
    decide +kernel
  have hreused : Run Db.step (fun _ call => call.1.writesAgent = true) rotatedEdge reusedEdge.1 reusedEdge.2 :=
    run_afterWrites _ _ (by decide +kernel)
  rcases hregisters.revokes _ _ _ _ ⟨1, "edge", 100, "", "t", none⟩ (by decide +kernel) rfl (by decide) hrotated _ _ hreused with
    ⟨agent, hname, -, hlogged⟩ | hrefused
  · have hothers : ∀ e ∈ reusedEdge.2, ∀ agent ∈ (match e.1 with | .upsertAgent agent => some agent | _ => none),
        agent.name ≠ "edge" := by
      decide +kernel
    exact hothers _ hlogged agent rfl hname
  · have haccepted := hrefused String some ⟨reusedEdge.1, "human", ⟨0, []⟩⟩ ⟨[(.authorization, "Bearer t")]⟩ rfl (by decide +kernel)
    revert haccepted
    decide +kernel

/-- An agent whose token was rotated is found by no request with the old one. -/
theorem rotated_token_refused :
    requireAgentToken some ⟨rotatedEdge, "human", ⟨0, []⟩⟩ 1 (⟨[(.authorization, "Bearer t")]⟩ : Request String) (fun _ => ()) =
      .error .unauthorized := by
  have hregisters : RegistersAgents SetById registeredEdge :=
    registers_agents (run_afterWrites _ _ (by decide +kernel))
  rcases hregisters.revokes ⟨0, "edge", 200, "", "u", none⟩ (fun _ => 1) rotatedEdge ⟨1, "edge", 200, "", "u", none⟩
    ⟨1, "edge", 100, "", "t", none⟩ (by decide +kernel) rfl (by decide) (by decide +kernel) _ _ Run.nil with
    ⟨agent, before, rest, hlog, -⟩ | hrefused
  · simp at hlog
  · exact hrefused String some ⟨rotatedEdge, "human", ⟨0, []⟩⟩ _ rfl (by decide +kernel)

end Monitra
