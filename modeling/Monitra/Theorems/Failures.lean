import Monitra.Backend.Regions
import Monitra.Theorems.Down
import Monitra.Theorems.Recording

/-!
# Failures of the target and failures of our own

A stored result says success or not, and nothing of where it came from. To speak of that, the outcome that each result was
submitted for follows it through the writer's queue and batch to the row it is stored in. The engine's runs here have the
pruner's steps too.
-/

namespace Monitra

open Runs

/-- The outcome each result came from: those of the writer's queue and batch in their order, those of the stored rows by rowid. -/
structure Sources where
  queue : List Handled
  batch : List Handled
  stored : HashMap Int64 Handled

/-- A step of the daemon, or one of the pruner. -/
inductive EngineAction where
  | daemon (a : Action)
  | prune (cutoffUnixSecs limit : UInt64) (old : List CheckResultRow)

/-- The daemon with the pruner. -/
def System.engineStep (cfg : EngineConfig) (s : System) : EngineAction → Option (System × List Event)
  | .daemon a => s.step cfg a
  | .prune cutoffUnixSecs limit old =>
    (s.db.pruneCheckResultsOlderThan cutoffUnixSecs limit old).map fun (db, _) => ({ s with db }, [])

namespace Sources

/-- The outcomes of the results of a batch that is inserted, each under the rowid its result is given. -/
def insertBatch (pick : List Int64 → Int64) : Db → List (CheckResult × Handled) → HashMap Int64 Handled → HashMap Int64 Handled
  | _, [], stored => stored
  | db, (result, cause) :: rest, stored =>
    match db.checkResults.nextRowid pick, db.insertCheckResult result pick with
    | some id, .ok db' => insertBatch pick db' rest (stored.insert id cause)
    | _, _ => stored

/-- What the handling of an outcome submits came from it. -/
def submit (cfg : EngineConfig) (src : Sources) (cause : Handled) (events : List Event) : Sources :=
  { src with queue := Channel.sendAll cfg.writerCapacity src.queue ((System.submissions events).map fun _ => cause) }

/-- What follows a step. -/
def follow (cfg : EngineConfig) (s : System) (src : Sources) : EngineAction → Sources
  | .daemon (.scheduler .handle) =>
    match s.pc with
    | .handling cause => src.submit cfg cause (s.scheduler.handle s.wall cause).events
    | _ => src
  | .daemon (.scheduler (.setMonitorStatus _)) =>
    match s.pc with
    | .persisting p => src.submit cfg p.cause (p.resume s.wall)
    | _ => src
  | .daemon (.writer .recv) =>
    match src.queue with
    | cause :: queue => { src with queue, batch := src.batch ++ [cause] }
    | [] => src
  | .daemon (.writer (.flush fault pick)) =>
    match answer fault (s.db.insertCheckResults pick s.writer.batch) with
    | .ok _ => { src with batch := [], stored := insertBatch pick s.db (s.writer.batch.zip src.batch) src.stored }
    | .error _ => { src with batch := [] }
  | _ => src

/-- The engine as it starts, on a database of whose results it is known where they came from. -/
def start (cfg : EngineConfig) (k8sFactory : Option K8sCollectorFactory) (db : Db) (stored : HashMap Int64 Handled) :
    System × Sources :=
  (System.start cfg k8sFactory db, ⟨[], [], stored⟩)

/-- Whether the stored result of a row came from an outcome of a sort. -/
def cameFrom (src : Sources) (sort : Handled → Bool) (row : CheckResultRow) : Bool := (src.stored.lookup row.id).any sort

end Sources

/-- It is known of every stored result where it came from: from an outcome that was a success if the row says so, and from
another one if not. -/
def Db.SourcedBy (db : Db) (stored : HashMap Int64 Handled) : Prop :=
  ∀ row ∈ db.checkResults.rows, ∃ cause, stored.lookup row.id = some cause ∧ row.success = cause.isSuccess

/-- The stored results of the monitors of a group since a moment. -/
def Db.groupRows (db : Db) (since : Option UInt64) (key : Service.RegionKey) : List CheckResultRow :=
  match db.listMonitors, db.listAgents with
  | .ok monitors, .ok agents =>
    db.checkResults.rows.filter fun row =>
      decide ((since.getD 0).toInt64 ≤ row.checkedAt) &&
        monitors.any fun m =>
          decide (Service.regionKey (Service.regionByAgentId agents) m = some key ∧ row.monitorId = m.id.val.toInt64)
  | _, _ => []

namespace FailuresAux

open Scheduler Service

/-! ## What an aggregate counts -/

/-- The results of a monitor in the window. -/
def windowOf (db : Db) (since : Option UInt64) (m : Monitor) : List CheckResult :=
  ((db.checkResults.rows.filter fun row => decide (row.monitorId = m.id.val.toInt64 ∧ (since.getD 0).toInt64 ≤ row.checkedAt))
    |>.insertionSort fun a b => a.checkedAt ≤ b.checkedAt).map rowToCheckResult

/-- The loop over the monitors gathers, under each group, its monitors and their results. -/
theorem foldlM_groupMonitor (db : Db) (since : Option UInt64) (regions : HashMap UInt64 String) :
    ∀ (monitors : List Monitor) (groups : RegionGroups), ∃ groups' : RegionGroups,
      monitors.foldlM (groupMonitor db since regions) groups = .ok groups' ∧
        ∀ key, groups'.lookup key =
          let members := monitors.filter fun m => decide (regionKey regions m = some key)
          if members = [] then groups.lookup key
          else
            let old := (groups.lookup key).getD (0, [])
            some (old.1 + members.length, old.2 ++ members.flatMap (windowOf db since))
  | [], groups => ⟨groups, rfl, fun _ => rfl⟩
  | m :: monitors, groups => by
    rw [List.foldlM_cons]
    cases hk : regionKey regions m with
    | none =>
      obtain ⟨groups', hg, hl⟩ := foldlM_groupMonitor db since regions monitors groups
      refine ⟨groups', ?_, fun key => ?_⟩
      · simp only [groupMonitor, hk]
        exact hg
      · rw [hl key, List.filter_cons_of_neg (by simp [hk])]
    | some k =>
      let groups₁ : RegionGroups := groups.entryOr k (0, []) fun group => (group.1 + 1, group.2 ++ windowOf db since m)
      obtain ⟨groups', hg, hl⟩ := foldlM_groupMonitor db since regions monitors groups₁
      refine ⟨groups', ?_, fun key => ?_⟩
      · have hstep : groupMonitor db since regions groups m = .ok groups₁ := by
          simp only [groupMonitor, hk]
          rfl
        rw [hstep]
        exact hg
      · rw [hl key]
        by_cases heq : k = key
        · subst heq
          rw [List.filter_cons_of_pos (by simp [hk]), if_neg (List.cons_ne_nil _ _)]
          have hlook : groups₁.lookup k = some (((groups.lookup k).getD (0, [])).1 + 1,
              ((groups.lookup k).getD (0, [])).2 ++ windowOf db since m) := by
            rw [HashMap.lookup_entryOr, if_pos rfl]
          simp only [hlook, Option.getD_some, List.length_cons, List.flatMap_cons]
          split
          · rename_i hnil
            simp [hnil]
          · rw [Nat.add_assoc, Nat.add_comm 1, List.append_assoc]
        · have hlook : groups₁.lookup key = groups.lookup key := by
            rw [HashMap.lookup_entryOr, if_neg (Ne.symm heq)]
          rw [hlook, List.filter_cons_of_neg (by simp [hk, heq])]

/-- The aggregates, once the monitors are listed. -/
theorem regionAggregates_eq {db : Db} {monitors : List Monitor} (since : Option UInt64) (hm : db.listMonitors = .ok monitors) :
    regionAggregates db since =
      (monitors.foldlM (groupMonitor db since (regionByAgentId (db.agents.rows.map rowToAgent))) ∅).bind fun groups =>
        .ok ((groups.entries.map fun e => aggregate e.1 e.2).insertionSort fun a b => a.le b) := by
  unfold regionAggregates
  rw [hm]
  rfl

theorem regionAggregates_eq_error {db : Db} {e : StorageError} (since : Option UInt64) (hm : db.listMonitors = .error e) :
    regionAggregates db since = .error e.toProviderError := by
  unfold regionAggregates
  rw [hm]
  rfl

/-- The monitors of a group. -/
def membersOf (monitors : List Monitor) (agents : List Agent) (key : RegionKey) : List Monitor :=
  monitors.filter fun m => decide (regionKey (regionByAgentId agents) m = some key)

/-- The groups that are gathered: those that have monitors, each with its monitors and their results. -/
theorem exists_groups {db : Db} {monitors : List Monitor} (since : Option UInt64) (hm : db.listMonitors = .ok monitors) :
    ∃ groups : RegionGroups,
      monitors.foldlM (groupMonitor db since (regionByAgentId (db.agents.rows.map rowToAgent))) ∅ = .ok groups ∧
      regionAggregates db since = .ok ((groups.entries.map fun e => aggregate e.1 e.2).insertionSort fun a b => a.le b) ∧
      ∀ key, groups.lookup key =
        if membersOf monitors (db.agents.rows.map rowToAgent) key = [] then none
        else some ((membersOf monitors (db.agents.rows.map rowToAgent) key).length,
          (membersOf monitors (db.agents.rows.map rowToAgent) key).flatMap (windowOf db since)) := by
  obtain ⟨groups, hgroups, hlook⟩ :=
    foldlM_groupMonitor db since (regionByAgentId (db.agents.rows.map rowToAgent)) monitors ∅
  refine ⟨groups, hgroups, ?_, fun key => ?_⟩
  · rw [regionAggregates_eq since hm, hgroups]
    rfl
  · rw [hlook key, HashMap.lookup_empty]
    simp [membersOf]

/-- Once the monitors are listed, nothing fails. -/
theorem regionAggregates_isOk {db : Db} {monitors : List Monitor} (since : Option UInt64) (hm : db.listMonitors = .ok monitors) :
    ∃ aggregates, regionAggregates db since = .ok aggregates := by
  obtain ⟨groups, -, hanswer, -⟩ := exists_groups since hm
  exact ⟨_, hanswer⟩

/-- The aggregates of the answer are those of the groups that have monitors, each of its monitors and their results. -/
theorem mem_regionAggregates_iff {db : Db} {since : Option UInt64} {aggregates : List RegionAggregate}
    (h : regionAggregates db since = .ok aggregates) :
    ∃ monitors agents, db.listMonitors = .ok monitors ∧ db.listAgents = .ok agents ∧
      ∀ g, g ∈ aggregates ↔ membersOf monitors agents g.key ≠ [] ∧
        g = aggregate g.key ((membersOf monitors agents g.key).length,
          (membersOf monitors agents g.key).flatMap (windowOf db since)) := by
  cases hm : db.listMonitors with
  | error e =>
    rw [regionAggregates_eq_error since hm] at h
    cases h
  | ok monitors =>
    obtain ⟨groups, -, hanswer, hgroup⟩ := exists_groups since hm
    rw [h] at hanswer
    refine ⟨monitors, _, rfl, rfl, fun g => ?_⟩
    rw [Except.ok.inj hanswer, List.mem_insertionSort, List.mem_map]
    constructor
    · rintro ⟨⟨key, group⟩, he, rfl⟩
      rw [HashMap.mem_entries_iff, hgroup key] at he
      split at he
      · cases he
      · rename_i hne
        cases he
        exact ⟨hne, rfl⟩
    · rintro ⟨hne, hg⟩
      refine ⟨⟨g.key, _⟩, ?_, hg.symm⟩
      rw [HashMap.mem_entries_iff, hgroup g.key, if_neg hne]

/-- The results of distinct monitors, counted together, are the rows of any of them. -/
theorem countP_flatMap_windowOf (db : Db) (since : Option UInt64) (p : CheckResult → Bool) : ∀ {members : List Monitor},
    (members.map fun m => m.id.val.toInt64).Nodup →
    (members.flatMap (windowOf db since)).countP p =
      db.checkResults.rows.countP fun row =>
        p (rowToCheckResult row) &&
          (decide ((since.getD 0).toInt64 ≤ row.checkedAt) && members.any fun m => decide (row.monitorId = m.id.val.toInt64))
  | [], _ => by simp
  | m :: members, hnodup => by
    rw [List.map_cons, List.nodup_cons] at hnodup
    rw [List.flatMap_cons, List.countP_append, countP_flatMap_windowOf db since p hnodup.2]
    have hone : (windowOf db since m).countP p =
        db.checkResults.rows.countP fun row => p (rowToCheckResult row) &&
          decide (row.monitorId = m.id.val.toInt64 ∧ (since.getD 0).toInt64 ≤ row.checkedAt) := by
      rw [windowOf, List.countP_map, (List.perm_insertionSort _ _).countP_eq, List.countP_filter]
      rfl
    rw [hone]
    induction db.checkResults.rows with
    | nil => rfl
    | cons row rows ih =>
      simp only [List.countP_cons]
      have hdisjoint : row.monitorId = m.id.val.toInt64 → ∀ m' ∈ members, row.monitorId ≠ m'.id.val.toInt64 := by
        intro he m' hm' he'
        exact hnodup.1 (List.mem_map.mpr ⟨m', hm', he'.symm.trans he⟩)
      have hrow : (if (p (rowToCheckResult row) &&
            decide (row.monitorId = m.id.val.toInt64 ∧ (since.getD 0).toInt64 ≤ row.checkedAt)) = true then 1 else 0) +
          (if (p (rowToCheckResult row) && (decide ((since.getD 0).toInt64 ≤ row.checkedAt) &&
            members.any fun m => decide (row.monitorId = m.id.val.toInt64))) = true then 1 else 0) =
          if (p (rowToCheckResult row) && (decide ((since.getD 0).toInt64 ≤ row.checkedAt) &&
            (m :: members).any fun m => decide (row.monitorId = m.id.val.toInt64))) = true then 1 else 0 := by
        by_cases hm : row.monitorId = m.id.val.toInt64
        · have hnone : (members.any fun m => decide (row.monitorId = m.id.val.toInt64)) = false := by
            simpa using hdisjoint hm
          rw [hm] at hnone
          simp [hm, hnone]
        · simp [hm]
      omega

/-- The results of the monitors of a group are its rows. -/
theorem countP_members {db : Db} {since : Option UInt64} {monitors : List Monitor} {agents : List Agent} {key : RegionKey}
    {p : CheckResult → Bool} (hm : db.listMonitors = .ok monitors) (ha : db.listAgents = .ok agents) :
    ((membersOf monitors agents key).flatMap (windowOf db since)).countP p =
      (db.groupRows since key).countP fun row => p (rowToCheckResult row) := by
  have hnodup : ((membersOf monitors agents key).map fun m => m.id.val.toInt64).Nodup :=
    (Db.nodup_listMonitors hm).sublist (List.filter_sublist.map _)
  rw [countP_flatMap_windowOf db since _ hnodup, Db.groupRows, hm, ha, List.countP_filter]
  refine List.countP_congr fun row _ => ?_
  simp only [membersOf, List.any_filter, Bool.decide_and]

/-- What an aggregate counts as failures: the rows of its group in the window that do not say success. -/
theorem failureCount_eq {db : Db} {since : Option UInt64} {aggregates : List RegionAggregate} {g : RegionAggregate}
    (h : regionAggregates db since = .ok aggregates) (hg : g ∈ aggregates) :
    g.failureCount = (db.groupRows since g.key).countP fun row => !row.success := by
  obtain ⟨monitors, agents, hm, ha, hiff⟩ := mem_regionAggregates_iff h
  have hcount : g.failureCount =
      ((membersOf monitors agents g.key).flatMap (windowOf db since)).countP fun r => !r.success := by
    rw [((hiff g).mp hg).2, List.countP_eq_length_filter]
    rfl
  rw [hcount, countP_members hm ha]
  rfl

/-- And how many results it counts. -/
theorem probeCount_eq {db : Db} {since : Option UInt64} {aggregates : List RegionAggregate} {g : RegionAggregate}
    (h : regionAggregates db since = .ok aggregates) (hg : g ∈ aggregates) :
    g.probeCount = (db.groupRows since g.key).length := by
  obtain ⟨monitors, agents, hm, ha, hiff⟩ := mem_regionAggregates_iff h
  have hcount : g.probeCount = ((membersOf monitors agents g.key).flatMap (windowOf db since)).countP fun _ => true := by
    rw [((hiff g).mp hg).2, List.countP_true]
    rfl
  rw [hcount, countP_members hm ha, List.countP_true]

/-! ## Where results come from -/

/-- A result agrees with the outcome it came from. -/
def Agrees (result : CheckResult) (cause : Handled) : Prop := result.success = cause.isSuccess

theorem isSuccess_of_stale {cause : Handled} {message : String} (hv : cause.verdict = .stale message) :
    cause.isSuccess = false := by
  rcases DownAux.verdict_cases cause with ⟨_, hv', hs, -⟩ | ⟨_, _, hv', -⟩ | ⟨_, _, hv', -⟩
  · exact hs
  · cases hv.symm.trans hv'
  · cases hv.symm.trans hv'

theorem isSuccess_of_applied {cause : Handled} {success : Bool} {message : Option String} {latencyMs : UInt64}
    (hv : cause.verdict = .applied success message latencyMs) : cause.isSuccess = success := by
  rcases DownAux.verdict_cases cause with ⟨_, hv', -⟩ | ⟨_, _, hv', hs⟩ | ⟨_, _, hv', hs, -⟩
  · cases hv.symm.trans hv'
  · cases hv.symm.trans hv'
    exact hs
  · cases hv.symm.trans hv'
    exact hs

/-- The record that is kept while a status is persisted agrees with the outcome. -/
def RecordAgrees (p : Persist) : Prop :=
  match p.record with
  | .applied success _ _ => success = p.cause.isSuccess
  | .stale _ _ => p.cause.isSuccess = false

/-- What the handling of an outcome submits or leaves to be recorded agrees with it. -/
theorem agrees_handle (s : Scheduler) (wall : UInt64) (cause : Handled) :
    (∀ r ∈ System.submissions (s.handle wall cause).events, Agrees r cause) ∧
      ∀ p, (s.handle wall cause).persist = some p → RecordAgrees p := by
  have hh := handles_handle s wall cause
  generalize s.handle wall cause = x at hh
  cases hh with
  | goesStale hv =>
    refine ⟨fun r hr => (by cases hr), fun p hp => ?_⟩
    cases hp
    exact isSuccess_of_stale hv
  | staysStale hv =>
    refine ⟨fun r hr => ?_, fun p hp => by cases hp⟩
    have hr' : r = staleResult cause.monitorId wall _ := List.mem_singleton.mp hr
    rw [hr', Agrees, isSuccess_of_stale hv]
    rfl
  | unregistered => exact ⟨fun r hr => (by cases hr), fun p hp => by cases hp⟩
  | transition hv =>
    refine ⟨fun r hr => (by cases hr), fun p hp => ?_⟩
    cases hp
    exact (isSuccess_of_applied hv).symm
  | counted hv =>
    refine ⟨fun r hr => ?_, fun p hp => by cases hp⟩
    rw [List.mem_singleton.mp hr]
    exact (isSuccess_of_applied hv).symm

theorem agrees_resume {p : Persist} (wall : UInt64) (h : RecordAgrees p) :
    ∀ r ∈ System.submissions (p.resume wall), Agrees r p.cause := by
  intro r hr
  unfold RecordAgrees at h
  unfold Persist.resume at hr
  split at hr
  · rename_i success message latencyMs hrec
    rw [hrec] at h
    rw [List.mem_singleton.mp hr]
    exact h
  · rename_i checkedAt message hrec
    rw [hrec] at h
    rw [List.mem_singleton.mp hr]
    exact h.symm

/-- What is sent to the queue and what is sent to the list of outcomes that follows it stay in step. -/
theorem forall₂_sendAll {α β : Type} {R : α → β → Prop} {cap : Nat} {q : List α} {q' : List β} {xs : List α} {c : β}
    (h : List.Forall₂ R q q') (hxs : ∀ x ∈ xs, R x c) :
    List.Forall₂ R (Channel.sendAll cap q xs) (Channel.sendAll cap q' (xs.map fun _ => c)) := by
  rw [Channel.sendAll_eq, Channel.sendAll_eq, h.length_eq, ← List.map_take]
  refine List.rel_append h ?_
  rw [List.forall₂_map_right_iff, List.forall₂_same]
  exact fun x hx => hxs x (List.mem_of_mem_take hx)

/-- The rows that a batch leaves came from where the outcomes that follow it say. -/
theorem sourcedBy_insertBatch {pick : List Int64 → Int64} : ∀ {results : List CheckResult} {causes : List Handled} {db db' : Db}
    {stored : HashMap Int64 Handled}, List.Forall₂ Agrees results causes → db.SourcedBy stored →
    db.insertCheckResults pick results = .ok db' →
    db'.SourcedBy (Sources.insertBatch pick db (results.zip causes) stored)
  | [], _, db, db', stored, _, hdb, h => by
    cases h
    exact hdb
  | result :: results, _, db, db', stored, .cons hagrees hrest, hdb, h => by
    unfold Db.insertCheckResults at h
    split at h
    · cases h
    · rename_i db₁ h₁
      obtain ⟨-, -, -, -, id, hid, hperm⟩ := Db.insertCheckResult_eq_ok h₁
      rw [List.zip_cons_cons, Sources.insertBatch, hid, h₁]
      refine sourcedBy_insertBatch hrest (fun row hrow => ?_) h
      rcases List.mem_cons.mp (hperm.mem_iff.mp hrow) with rfl | hrow
      · exact ⟨_, (HashMap.lookup_insert _ _ _ _).trans (if_pos rfl), hagrees⟩
      · obtain ⟨cause, hlook, hs⟩ := hdb row hrow
        exact ⟨cause, by rw [HashMap.lookup_insert, if_neg (Table.nextRowid_fresh hid row hrow)]; exact hlook, hs⟩

/-- What follows the results is in step with them, and agrees with them. -/
structure Inv (x : System × Sources) : Prop where
  queue : List.Forall₂ Agrees x.1.writer.queue x.2.queue
  batch : List.Forall₂ Agrees x.1.writer.batch x.2.batch
  stored : x.1.db.SourcedBy x.2.stored
  record : ∀ p, x.1.pc = .persisting p → RecordAgrees p

/-- A step that submits, receives and stores no result. -/
theorem Inv.frame {s s' : System} {src : Sources} (hI : Inv (s, src)) (hq : s'.writer.queue = s.writer.queue)
    (hb : s'.writer.batch = s.writer.batch) (hdb : ∀ r ∈ s'.db.checkResults.rows, r ∈ s.db.checkResults.rows)
    (hpc : ∀ p, s'.pc = .persisting p → s.pc = .persisting p) : Inv (s', src) := by
  refine ⟨?_, ?_, fun row hrow => hI.stored row (hdb row hrow), fun p hp => hI.record p (hpc p hp)⟩
  · rw [hq]
    exact hI.queue
  · rw [hb]
    exact hI.batch

theorem inv_step {cfg : EngineConfig} {s s' : System} {src : Sources} {a : Action} {ev : List Event} (hI : Inv (s, src))
    (he : Effect cfg s a s' ev) : Inv (s', src.follow cfg s (.daemon a)) := by
  cases he with
  | @handled cause hpc =>
    obtain ⟨hagrees, hrecord⟩ := agrees_handle s.scheduler s.wall cause
    rw [Sources.follow, hpc]
    refine ⟨forall₂_sendAll hI.queue hagrees, hI.batch, hI.stored, fun p hp => ?_⟩
    exact hrecord p ((Pc.handled_eq_persisting _ _).mp hp)
  | @wrote p fault db hpc hset =>
    rw [Sources.follow, hpc]
    refine ⟨forall₂_sendAll hI.queue (agrees_resume s.wall (hI.record p hpc)), hI.batch, fun row hrow => ?_, fun p hp => by cases hp⟩
    have hsame := (Db.setMonitorStatus_eq_ok (answer_eq_ok hset).2).2.1
    exact hI.stored row (hsame ▸ hrow)
  | @notWritten p fault e hpc =>
    rw [Sources.follow, hpc]
    exact ⟨forall₂_sendAll hI.queue (agrees_resume s.wall (hI.record p hpc)), hI.batch, hI.stored, fun p hp => by cases hp⟩
  | writerReceived hw =>
    have hqueue := hI.queue
    have hbatch := hI.batch
    rcases recv_eq_some hw with ⟨result, hq, hb⟩ | ⟨hq, hq', hb⟩
    · rw [hq] at hqueue
      obtain ⟨cause, causes, hr, hrest, hc⟩ := List.forall₂_cons_left_iff.mp hqueue
      rw [Sources.follow, hc]
      refine ⟨hrest, ?_, hI.stored, hI.record⟩
      rw [hb]
      exact List.rel_append hbatch (.cons hr .nil)
    · rw [hq, List.forall₂_nil_left_iff] at hqueue
      rw [Sources.follow, hqueue]
      exact hI.frame (hq'.trans hq.symm) hb (fun _ hr => hr) fun _ hp => hp
  | writerTicked hw => exact hI.frame (tick_eq_some hw).1 (tick_eq_some hw).2 (fun _ hr => hr) fun _ hp => hp
  | @flushed fault pick writer db hw =>
    obtain ⟨hb, hq, hins | ⟨rfl, e, hins⟩⟩ := flush_eq_some hw
    · rw [Sources.follow, hins]
      refine ⟨?_, ?_, sourcedBy_insertBatch hI.batch hI.stored (answer_eq_ok hins).2, hI.record⟩
      · rw [hq]
        exact hI.queue
      · rw [hb]
        exact .nil
    · rw [Sources.follow, hins]
      refine ⟨?_, ?_, hI.stored, hI.record⟩
      · rw [hq]
        exact hI.queue
      · rw [hb]
        exact .nil
  | demoted hw hd hset =>
    have hsame := (Db.setMonitorStatus_eq_ok (answer_eq_ok hset).2).2.1
    exact hI.frame rfl rfl (fun _ hr => hsame ▸ hr) fun _ hp => hp
  | heartbeat hm hc => exact hI.frame rfl rfl (fun _ hr => hc ▸ hr) fun _ hp => hp
  | called hc => exact hI.frame rfl rfl (checkResults_of_call hc) fun _ hp => hp
  | resynced | notResynced =>
    exact hI.frame rfl rfl (fun _ hr => hr) fun p hp => absurd hp (Pc.resume_ne_persisting _ _)
  | joined => exact hI.frame rfl rfl (fun _ hr => hr) fun p hp => absurd hp (Pc.joined_ne_persisting _ _)
  | resyncTick | listedMonitors | received | receivedUnknown | stopped =>
    exact hI.frame rfl rfl (fun _ hr => hr) fun p hp => by cases hp
  | _ => exact hI.frame rfl rfl (fun _ hr => hr) fun _ hp => hp

/-- A prune deletes rows. -/
theorem checkResults_of_prune {db : Db} {cutoffUnixSecs limit : UInt64} {old : List CheckResultRow} {pruned : Db × UInt64}
    (h : db.pruneCheckResultsOlderThan cutoffUnixSecs limit old = some pruned) :
    ∀ r ∈ pruned.1.checkResults.rows, r ∈ db.checkResults.rows := by
  obtain ⟨-, rfl⟩ := Db.pruneCheckResultsOlderThan_eq_some h
  exact fun r hr => (Table.mem_rows_delete.mp hr).1

theorem inv_engineStep {cfg : EngineConfig} {s s' : System} {src : Sources} {a : EngineAction} {ev : List Event}
    (hI : Inv (s, src)) (hs : s.engineStep cfg a = some (s', ev)) : Inv (s', src.follow cfg s a) := by
  cases a with
  | daemon a => exact inv_step hI (effect_of_step hs)
  | prune cutoffUnixSecs limit old =>
    obtain ⟨pruned, hprune, hs⟩ := Option.map_eq_some_iff.mp hs
    cases hs
    exact hI.frame rfl rfl (checkResults_of_prune hprune) fun _ hp => hp

/-- Every outcome is a success, a failure, or says nothing about the target. -/
theorem failure_or_unavailable (cause : Handled) :
    (if cause.isFailure then 1 else 0) + (if cause.isUnavailable then 1 else 0) = if cause.isSuccess then 0 else 1 := by
  rcases DownAux.verdict_cases cause with ⟨_, hv, hs, hf⟩ | ⟨_, _, hv, hs⟩ | ⟨_, _, hv, hs, hf⟩
  · simp [hs, hf, RecordingAux.of_stale hv]
  · have hf : cause.isFailure = false := by
      rcases cause with (⟨_, _ | _ | _⟩ | ⟨_, _ | _ | _, _⟩) | ⟨_, _ | _ | _⟩ <;> first | rfl | cases hs
    simp [hs, hf, RecordingAux.of_applied hv]
  · simp [hs, hf, RecordingAux.of_applied hv]

/-- The rows that do not say success came from failures and from outcomes that say nothing about the target. -/
theorem countP_not_success {src : Sources} : ∀ {rows : List CheckResultRow},
    (∀ row ∈ rows, ∃ cause, src.stored.lookup row.id = some cause ∧ row.success = cause.isSuccess) →
    rows.countP (fun row => !row.success) =
      rows.countP (src.cameFrom Handled.isFailure) + rows.countP (src.cameFrom Handled.isUnavailable)
  | [], _ => rfl
  | row :: rows, h => by
    obtain ⟨cause, hlook, hs⟩ := h row List.mem_cons_self
    have hrest := countP_not_success fun row hr => h row (List.mem_cons_of_mem _ hr)
    have hone := failure_or_unavailable cause
    simp only [List.countP_cons, Sources.cameFrom, hlook, Option.any_some, hs] at hrest ⊢
    cases hc : cause.isSuccess <;> simp only [hc, Bool.not_true, Bool.not_false, if_true, Bool.false_eq_true, if_false] at hone ⊢
      <;> omega

end FailuresAux

/-- In every run, the failures that an aggregate counts are the stored results of its group in the window that came from
failures, exactly when none of these results came from an outcome that says nothing about the target. -/
theorem failures_counted_iff {cfg : EngineConfig} {k8sFactory : Option K8sCollectorFactory} {db : Db}
    {stored : HashMap Int64 Handled} {x : System × Sources} {log : List Event} (hdb : db.SourcedBy stored)
    (h : Run (beside (System.engineStep cfg) fun s src a => src.follow cfg s a) (fun x a => always x a = true)
      (Sources.start cfg k8sFactory db stored) x log)
    {since : Option UInt64} {aggregates : List Service.RegionAggregate}
    (hquery : Service.regionAggregates x.1.db since = .ok aggregates) {g : Service.RegionAggregate} (hg : g ∈ aggregates) :
    g.failureCount = (x.1.db.groupRows since g.key).countP (x.2.cameFrom Handled.isFailure) ↔
      ∀ row ∈ x.1.db.groupRows since g.key, x.2.cameFrom Handled.isUnavailable row = false := by
  have hI : FailuresAux.Inv x := by
    refine h.stateInvariant (I := FailuresAux.Inv) ⟨.nil, .nil, hdb, fun p hp => by cases hp⟩ fun x x' ev a hI _ hs => ?_
    obtain ⟨hstep, hfollow⟩ := beside_eq_some hs
    have hnext := FailuresAux.inv_engineStep hI hstep
    rw [← hfollow] at hnext
    exact hnext
  have hrows : ∀ row ∈ x.1.db.groupRows since g.key, row ∈ x.1.db.checkResults.rows := by
    intro row hrow
    unfold Db.groupRows at hrow
    split at hrow
    · exact (List.mem_filter.mp hrow).1
    · cases hrow
  rw [FailuresAux.failureCount_eq hquery hg, FailuresAux.countP_not_success fun row hrow => hI.stored row (hrows row hrow)]
  rw [Nat.add_eq_left, List.countP_eq_zero]
  exact forall₂_congr fun row _ => Bool.eq_false_iff.symm

/-- A regional agent takes up the check of a monitor and pushes an outcome, which is handled and flushed. -/
def pushedAndFlushed (outcome : ProbeOutcome) (answers : List EngineAction) : List EngineAction := [
  .daemon (.user (.registerAgent "edge" "http" (some "eu") "token" fun _ => 0)),
  .daemon (.user (.addMonitor "api" "http://api" .http 30 (some 1) fun _ => 0)),
  .daemon (.scheduler (.listMonitors false)), .daemon (.scheduler .listReturned), .daemon (.scheduler (.dispatchDue [1])),
  .daemon (.agent (.pull 1)), .daemon (.agent (.ingest 1 ⟨1, 0⟩ outcome)), .daemon (.scheduler .recv),
  .daemon (.scheduler .handle)] ++ answers ++ [
  .daemon (.writer .recv), .daemon (.writer .tick), .daemon (.writer (.flush false fun _ => 0))]

/-- An agent could not run its probe, and the target of the probe has a failure. -/
theorem unavailable_counted :
    ∃ (x : System × Sources) (log : List Event) (g : Service.RegionAggregate),
      Run (beside (System.engineStep EngineConfig.default) fun s src a => src.follow EngineConfig.default s a)
          (fun x a => always x a = true) (Sources.start EngineConfig.default none Db.empty ∅) x log ∧
        Service.regionAggregates x.1.db none = .ok [g] ∧ g.key = ("http://api", .http, "eu") ∧ g.failureCount = 1 ∧
        (x.1.db.groupRows none g.key).countP (x.2.cameFrom Handled.isFailure) = 0 := by
  let step := beside (System.engineStep EngineConfig.default) fun s src a => Sources.follow EngineConfig.default s src a
  let x₀ := Sources.start EngineConfig.default none Db.empty ∅
  let x := after step always x₀ (pushedAndFlushed (.unavailable "no socket") [.daemon (.scheduler (.setMonitorStatus false))])
  have h : Run step (fun x a => always x a = true) x₀ x.1 x.2 := run_after (by decide +kernel)
  exact ⟨x.1, x.2, ⟨"http://api", .http, "eu", 1, 1, 1, 0⟩, h, by decide +kernel, rfl, rfl, by decide +kernel⟩

/-- A failure that an agent pushed is counted as one. -/
theorem failure_counted :
    ∃ (x : System × Sources) (log : List Event) (g : Service.RegionAggregate),
      Run (beside (System.engineStep EngineConfig.default) fun s src a => src.follow EngineConfig.default s a)
          (fun x a => always x a = true) (Sources.start EngineConfig.default none Db.empty ∅) x log ∧
        Service.regionAggregates x.1.db none = .ok [g] ∧ g.failureCount = 1 ∧
        g.failureCount = (x.1.db.groupRows none g.key).countP (x.2.cameFrom Handled.isFailure) := by
  let step := beside (System.engineStep EngineConfig.default) fun s src a => Sources.follow EngineConfig.default s src a
  let x₀ := Sources.start EngineConfig.default none Db.empty ∅
  let x := after step always x₀ (pushedAndFlushed (.failure "refused") [])
  have h : Run step (fun x a => always x a = true) x₀ x.1 x.2 := run_after (by decide +kernel)
  have hquery : Service.regionAggregates x.1.1.db none = .ok [⟨"http://api", .http, "eu", 1, 1, 1, 0⟩] := by decide +kernel
  refine ⟨x.1, x.2, _, h, hquery, rfl, (failures_counted_iff (fun row hrow => ?_) h hquery List.mem_cons_self).mpr ?_⟩
  · cases hrow
  · decide +kernel

end Monitra
