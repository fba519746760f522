import Monitra.Library.Sorting
import Monitra.Theorems.Failures

/-!
# Regional aggregation as a partition

What `region_aggregates` answers, said without its loop, its map and its sort: which monitors contribute to which group, and for
each group that has some one entry, which counts its monitors, their results and the failures among these, and gives an order
statistic of the latencies of the others.
-/

namespace Monitra

open Service Sorting

/-- A monitor is checked from a region: it is a network probe that is linked to an agent that exists and has declared one. -/
def RegionalMonitor (agents : List Agent) (m : Monitor) : Prop :=
  (m.kind = .http ∨ m.kind = .tcp ∨ m.kind = .icmp) ∧ ∃ agent ∈ agents, m.agentId = some agent.id ∧ agent.region.isSome = true

/-- A monitor contributes to a group: it is checked from its region, and is of its target and kind. -/
def ContributesTo (agents : List Agent) (m : Monitor) (key : RegionKey) : Prop :=
  (m.kind = .http ∨ m.kind = .tcp ∨ m.kind = .icmp) ∧ m.target = key.1 ∧ m.kind = key.2.1 ∧
    ∃ agent ∈ agents, m.agentId = some agent.id ∧ agent.region = some key.2.2

instance (agents : List Agent) (m : Monitor) (key : RegionKey) : Decidable (ContributesTo agents m key) :=
  inferInstanceAs (Decidable (_ ∧ _ ∧ _ ∧ _))

/-- The stored results of the monitors that contribute to a group, in the window: from the moment on, as the query reads it. -/
def Db.contributed (db : Db) (since : Option UInt64) (monitors : List Monitor) (agents : List Agent) (key : RegionKey) :
    List CheckResultRow :=
  db.checkResults.rows.filter fun row =>
    decide ((since.getD 0).toInt64 ≤ row.checkedAt) &&
      monitors.any fun m => decide (ContributesTo agents m key ∧ row.monitorId = m.id.val.toInt64)

/-- The latencies of the successes among some results, in milliseconds. -/
def successLatencies (results : List CheckResultRow) : List Nat :=
  (results.filter (·.success)).map fun row => row.latencyMs.toUInt64.toNat

/-- An entry counts the monitors that contribute to its group, their results in the window, and the failures among these; and
its latency is, of the `n` successes, the one of rank `19 * n / 20`, rounded up, when the rank that is computed in floating point
is that, and 0 when there are none. -/
structure ExactEntry (monitors : List Monitor) (agents : List Agent) (results : List CheckResultRow) (g : RegionAggregate) :
    Prop where
  monitorCount : g.monitorCount = monitors.countP fun m => decide (ContributesTo agents m g.key)
  probeCount : g.probeCount = results.length
  failureCount : g.failureCount = results.countP fun row => !row.success
  noSuccess : (successLatencies results).length = 0 → g.p95LatencyMs = 0
  p95 : ∀ n, (successLatencies results).length = n → 0 < n → p95Rank n = (19 * n + 19) / 20 →
    IsKthSmallest (successLatencies results) ((19 * n + 19) / 20) g.p95LatencyMs.toNat

namespace PartitionAux

open FailuresAux

/-! ## The monitors of a group -/

theorem lookup_regionByAgentId {agents : List Agent} (hids : (agents.map (·.id)).Nodup) {id : UInt64} {region : String} :
    (regionByAgentId agents).lookup id = some region ↔ ∃ agent ∈ agents, agent.id = id ∧ agent.region = some region := by
  have hnodup : ((agents.filterMap fun agent => agent.region.map fun region => (agent.id, region)).map (·.1)).Nodup := by
    have hsub : (agents.filterMap fun agent => agent.region.map fun region => (agent.id, region)).map (·.1) =
        (agents.filter fun agent => agent.region.isSome).map (·.id) := by
      clear hids
      induction agents with
      | nil => rfl
      | cons agent agents ih =>
        cases hr : agent.region with
        | none => simp [hr, ih]
        | some region => simp [hr, ih]
    rw [hsub]
    exact hids.sublist (List.filter_sublist.map _)
  rw [regionByAgentId, HashMap.lookup_foldl_insert ∅ hnodup, HashMap.lookup_empty]
  simp only [List.mem_filterMap, Option.map_eq_some_iff, Prod.mk.injEq, reduceCtorEq, and_false, or_false]
  constructor
  · rintro ⟨agent, hmem, r, hr, hid, rfl⟩
    exact ⟨agent, hmem, hid, hr⟩
  · rintro ⟨agent, hmem, hid, hr⟩
    exact ⟨agent, hmem, region, hr, hid, rfl⟩

/-- The group that the loop puts a monitor in is the one it contributes to. -/
theorem regionKey_eq_some_iff {agents : List Agent} (hids : (agents.map (·.id)).Nodup) {m : Monitor} {key : RegionKey} :
    regionKey (regionByAgentId agents) m = some key ↔ ContributesTo agents m key := by
  have hlook : ∀ region, (∃ agentId, m.agentId = some agentId ∧ (regionByAgentId agents).lookup agentId = some region) ↔
      ∃ agent ∈ agents, m.agentId = some agent.id ∧ agent.region = some region := by
    intro region
    constructor
    · rintro ⟨agentId, hlink, hl⟩
      obtain ⟨agent, hmem, hid, hr⟩ := (lookup_regionByAgentId hids).mp hl
      exact ⟨agent, hmem, by rw [hid]; exact hlink, hr⟩
    · rintro ⟨agent, hmem, hlink, hr⟩
      exact ⟨agent.id, hlink, (lookup_regionByAgentId hids).mpr ⟨agent, hmem, rfl, hr⟩⟩
  obtain ⟨target, kind, region⟩ := key
  rw [ContributesTo, ← hlook region]
  unfold regionKey
  cases hk : m.kind <;> cases hlink : m.agentId <;> simp [eq_comm, and_left_comm]

/-- A monitor that contributes to a group contributes to no other. -/
theorem contributesTo_unique {agents : List Agent} (hids : (agents.map (·.id)).Nodup) {m : Monitor} {key key' : RegionKey}
    (h : ContributesTo agents m key) (h' : ContributesTo agents m key') : key = key' :=
  Option.some.inj (((regionKey_eq_some_iff hids).mpr h).symm.trans ((regionKey_eq_some_iff hids).mpr h'))

/-- The monitors that contribute to a group are those checked from a region. -/
theorem exists_contributesTo_iff {agents : List Agent} {m : Monitor} :
    (∃ key, ContributesTo agents m key) ↔ RegionalMonitor agents m := by
  constructor
  · rintro ⟨key, hkind, -, -, agent, hmem, hlink, hr⟩
    exact ⟨hkind, agent, hmem, hlink, by rw [hr]; rfl⟩
  · rintro ⟨hkind, agent, hmem, hlink, hr⟩
    obtain ⟨region, hr⟩ := Option.isSome_iff_exists.mp hr
    exact ⟨(m.target, m.kind, region), hkind, rfl, rfl, agent, hmem, hlink, hr⟩

/-- The monitors gathered under a group are those that contribute to it. -/
theorem membersOf_eq {agents : List Agent} (hids : (agents.map (·.id)).Nodup) (monitors : List Monitor) (key : RegionKey) :
    membersOf monitors agents key = monitors.filter fun m => decide (ContributesTo agents m key) :=
  List.filter_congr fun _ _ => decide_eq_decide.mpr (regionKey_eq_some_iff hids)

/-- There are some exactly if a monitor contributes to it. -/
theorem membersOf_ne_nil_iff {agents : List Agent} (hids : (agents.map (·.id)).Nodup) {monitors : List Monitor} {key : RegionKey} :
    membersOf monitors agents key ≠ [] ↔ ∃ m ∈ monitors, ContributesTo agents m key := by
  rw [membersOf_eq hids, ne_eq, List.filter_eq_nil_iff]
  simp

/-- The rows of a group are those of the monitors that contribute to it. -/
theorem groupRows_eq {db : Db} {monitors : List Monitor} {agents : List Agent} (hm : db.listMonitors = .ok monitors)
    (ha : db.listAgents = .ok agents) (since : Option UInt64) (key : RegionKey) :
    db.groupRows since key = db.contributed since monitors agents key := by
  rw [Db.groupRows, hm, ha]
  refine List.filter_congr fun row _ => ?_
  simp only [regionKey_eq_some_iff (Db.nodup_listAgents ha)]

/-! ## The latency of a group -/

/-- The results gathered under a group are its rows, in some order. -/
theorem perm_groupRows {db : Db} {since : Option UInt64} {monitors : List Monitor} {agents : List Agent} {key : RegionKey}
    (hm : db.listMonitors = .ok monitors) (ha : db.listAgents = .ok agents) :
    ((membersOf monitors agents key).flatMap (windowOf db since)).Perm ((db.groupRows since key).map rowToCheckResult) := by
  rw [List.perm_iff_count]
  intro result
  rw [List.count_eq_countP, countP_members hm ha, List.count_eq_countP, List.countP_map]
  rfl

/-- The latency that is picked is the one of the rank, if there is such a place. -/
theorem isKthSmallest_p95LatencyMs {results : List CheckResult} {n k : Nat} (hn : (results.filter (·.success)).length = n)
    (hk : p95Rank n = k) (hpos : 0 < k) (hle : k ≤ n) :
    IsKthSmallest ((results.filter (·.success)).map (·.latencyMs.toNat)) k (p95LatencyMs results).toNat := by
  let sorted := ((results.filter (·.success)).map (·.latencyMs)).insertionSort (· ≤ ·)
  have hlength : sorted.length = n := by rw [List.length_insertionSort, List.length_map, hn]
  have hsorted : sorted.map UInt64.toNat = ((results.filter (·.success)).map (·.latencyMs.toNat)).insertionSort (· ≤ ·) := by
    have hmap := List.map_insertionSort (· ≤ ·) (· ≤ ·) UInt64.toNat ((results.filter (·.success)).map (·.latencyMs))
      fun _ _ _ _ => UInt64.le_iff_toNat_le
    rw [List.map_map] at hmap
    exact hmap
  have hat : sorted[k - 1]? = some (p95LatencyMs results) := by
    have hne : sorted.isEmpty = false := List.isEmpty_eq_false_iff.mpr (List.ne_nil_of_length_pos (by omega))
    have hp : p95LatencyMs results = sorted.getD (k - 1) 0 := by
      change (if sorted.isEmpty = true then 0 else sorted.getD (min (p95Rank sorted.length - 1) (sorted.length - 1)) 0) = _
      rw [hne, hlength, hk, if_neg Bool.false_ne_true, Nat.min_eq_left (by omega)]
    have hi : k - 1 < sorted.length := by omega
    rw [hp, List.getD, List.getElem?_eq_getElem hi, Option.getD_some]
  have hplace : IsKthSmallest ((results.filter (·.success)).map (·.latencyMs.toNat)) (k - 1 + 1) (p95LatencyMs results).toNat := by
    refine isKthSmallest_insertionSort ?_
    rw [← hsorted, List.getElem?_map, hat, Option.map_some]
  rwa [Nat.sub_add_cancel hpos] at hplace

/-! ## The rank in floating point -/

/-- A number rounded to the nearest multiple of a step, to even in the middle, as a multiple. -/
def nearest (step product : Nat) : Nat :=
  if step < 2 * (product % step) ∨ step = 2 * (product % step) ∧ product / step % 2 = 1 then product / step + 1 else product / step

/-- Rounding goes down by at most half a step. -/
theorem le_nearest {step : Nat} (hpos : 0 < step) (product : Nat) : 2 * product ≤ 2 * (nearest step product * step) + step := by
  have hdiv : product / step * step + product % step = product := Nat.div_add_mod' product step
  have hrest : product % step < step := Nat.mod_lt product hpos
  unfold nearest
  split
  · have hnext : (product / step + 1) * step = product / step * step + step := Nat.succ_mul _ _
    omega
  · omega

/-- Rounding does not go beyond a multiple. -/
theorem nearest_le {step product m : Nat} (hpos : 0 < step) (hle : product ≤ m * step) : nearest step product ≤ m := by
  have hdiv : product / step * step + product % step = product := Nat.div_add_mod' product step
  unfold nearest
  split
  · have hlt : product / step * step < m * step := by omega
    exact Nat.lt_of_mul_lt_mul_right hlt
  · have hle' : product / step * step ≤ m * step := by omega
    exact Nat.le_of_mul_le_mul_right hle' hpos

/-- The rank that is computed is the exact one: the product is off by less than it takes to get to another whole number, and when
it should be a whole number that is the nearest double. -/
theorem p95Rank_eq {n : Nat} (hn : n < 2 ^ 48) : p95Rank n = (19 * n + 19) / 20 := by
  let product := n * 8556839292003942
  let e := product.log2 - 52
  have he : e ≤ 48 := by
    by_cases hzero : product = 0
    · simp [e, hzero]
    · have hlt : product < 2 ^ 101 := by
        simp only [product]
        omega
      have := (Nat.log2_lt hzero).mpr hlt
      omega
  have hstep : 2 ^ e ≤ 2 ^ 48 := Nat.pow_le_pow_right (by decide) he
  have hdown := le_nearest (Nat.two_pow_pos e) product
  have hup : nearest (2 ^ e) product * 2 ^ e ≤ (19 * n + 19) / 20 * 2 ^ 53 := by
    have hsplit : (19 * n + 19) / 20 * 2 ^ 53 = (19 * n + 19) / 20 * 2 ^ (53 - e) * 2 ^ e := by
      rw [Nat.mul_assoc, ← Nat.pow_add, Nat.sub_add_cancel (by omega)]
    rw [hsplit]
    refine Nat.mul_le_mul_right _ (nearest_le (Nat.two_pow_pos e) ?_)
    rw [← hsplit]
    simp only [product]
    omega
  change (nearest (2 ^ e) product * 2 ^ e + (2 ^ 53 - 1)) / 2 ^ 53 = (19 * n + 19) / 20
  generalize nearest (2 ^ e) product * 2 ^ e = rounded at hdown hup ⊢
  simp only [product] at hdown
  omega

/-! ## The entries -/

/-- The latencies of the successes of the results gathered under a group are those of its rows, in some order. -/
theorem perm_successLatencies {results : List CheckResult} {rows : List CheckResultRow}
    (hp : results.Perm (rows.map rowToCheckResult)) :
    ((results.filter (·.success)).map (·.latencyMs.toNat)).Perm (successLatencies rows) := by
  have hrows : successLatencies rows = ((rows.map rowToCheckResult).filter (·.success)).map (·.latencyMs.toNat) := by
    rw [List.filter_map, List.map_map]
    rfl
  rw [hrows]
  exact (hp.filter _).map _

theorem exactEntry {db : Db} {monitors : List Monitor} {agents : List Agent} (hm : db.listMonitors = .ok monitors)
    (ha : db.listAgents = .ok agents) (since : Option UInt64) (key : RegionKey) :
    ExactEntry monitors agents (db.contributed since monitors agents key)
      (aggregate key ((membersOf monitors agents key).length, (membersOf monitors agents key).flatMap (windowOf db since))) := by
  have hp : ((membersOf monitors agents key).flatMap (windowOf db since)).Perm
      ((db.contributed since monitors agents key).map rowToCheckResult) := by
    rw [← groupRows_eq hm ha]
    exact perm_groupRows hm ha
  generalize db.contributed since monitors agents key = rows at hp
  generalize (membersOf monitors agents key).flatMap (windowOf db since) = results at hp
  have hlatencies := perm_successLatencies hp
  have hlength : (results.filter (·.success)).length = (successLatencies rows).length := by
    rw [← hlatencies.length_eq, List.length_map]
  refine ⟨?_, ?_, ?_, fun hzero => ?_, fun n hn hpos hrank => ?_⟩
  · rw [membersOf_eq (Db.nodup_listAgents ha), List.countP_eq_length_filter]
    rfl
  · exact hp.length_eq.trans (List.length_map _)
  · have hcount := hp.countP_eq fun r => !r.success
    rw [List.countP_map, List.countP_eq_length_filter] at hcount
    exact hcount
  · have hnone : results.filter (·.success) = [] := List.eq_nil_of_length_eq_zero (hlength.trans hzero)
    simp [aggregate, p95LatencyMs, hnone]
  · refine (isKthSmallest_p95LatencyMs (hlength.trans hn) hrank ?_ ?_).perm hlatencies <;> omega

/-- No group has two entries. -/
theorem nodup_regionAggregates {db : Db} {since : Option UInt64} {monitors : List Monitor} {aggregates : List RegionAggregate}
    (hm : db.listMonitors = .ok monitors) (h : regionAggregates db since = .ok aggregates) : (aggregates.map (·.key)).Nodup := by
  obtain ⟨groups, -, hanswer, -⟩ := exists_groups since hm
  obtain rfl := Except.ok.inj (h.symm.trans hanswer)
  rw [((List.perm_insertionSort _ _).map _).nodup_iff, List.map_map]
  exact groups.nodupKeys

/-- The entries are those of the groups that have monitors. -/
theorem mem_regionAggregates {db : Db} {since : Option UInt64} {monitors : List Monitor} {agents : List Agent}
    {aggregates : List RegionAggregate} (hm : db.listMonitors = .ok monitors) (ha : db.listAgents = .ok agents)
    (h : regionAggregates db since = .ok aggregates) (g : RegionAggregate) :
    g ∈ aggregates ↔ membersOf monitors agents g.key ≠ [] ∧ g = aggregate g.key ((membersOf monitors agents g.key).length,
      (membersOf monitors agents g.key).flatMap (windowOf db since)) := by
  obtain ⟨monitors', agents', hm', ha', hiff⟩ := mem_regionAggregates_iff h
  cases hm.symm.trans hm'
  cases ha.symm.trans ha'
  exact hiff g

/-- A group has an entry exactly if a monitor contributes to it. -/
theorem exists_entry_iff {db : Db} {since : Option UInt64} {monitors : List Monitor} {agents : List Agent}
    {aggregates : List RegionAggregate} (hm : db.listMonitors = .ok monitors) (ha : db.listAgents = .ok agents)
    (h : regionAggregates db since = .ok aggregates) (key : RegionKey) :
    (∃ g ∈ aggregates, g.key = key) ↔ ∃ m ∈ monitors, ContributesTo agents m key := by
  rw [← membersOf_ne_nil_iff (Db.nodup_listAgents ha)]
  constructor
  · rintro ⟨g, hg, rfl⟩
    exact ((mem_regionAggregates hm ha h g).mp hg).1
  · intro hne
    let g := aggregate key ((membersOf monitors agents key).length,
      (membersOf monitors agents key).flatMap (windowOf db since))
    exact ⟨g, (mem_regionAggregates hm ha h g).mpr ⟨hne, rfl⟩, rfl⟩

end PartitionAux

open PartitionAux in
/-- For every store whose monitors can be listed, the regional aggregates have one entry for each target, kind and region that a
monitor contributes to, and no other; each monitor that is checked from a region contributes to exactly one of them, and every
other one to none; and every entry is exact. The rank that is computed in floating point is the exact one for fewer than 2^48
results. -/
theorem regionAggregates_partition {db : Db} {monitors : List Monitor} {agents : List Agent} (since : Option UInt64)
    (hm : db.listMonitors = .ok monitors) (ha : db.listAgents = .ok agents) :
    ∃ aggregates, regionAggregates db since = .ok aggregates ∧ (aggregates.map (·.key)).Nodup ∧
      (∀ key, (∃ g ∈ aggregates, g.key = key) ↔ ∃ m ∈ monitors, ContributesTo agents m key) ∧
      (∀ m ∈ monitors, RegionalMonitor agents m → ∃! g, g ∈ aggregates ∧ ContributesTo agents m g.key) ∧
      (∀ m ∈ monitors, ¬RegionalMonitor agents m → ∀ g ∈ aggregates, ¬ContributesTo agents m g.key) ∧
      (∀ g ∈ aggregates, ExactEntry monitors agents (db.contributed since monitors agents g.key) g) ∧
      ∀ n < 2 ^ 48, p95Rank n = (19 * n + 19) / 20 := by
  obtain ⟨aggregates, h⟩ := FailuresAux.regionAggregates_isOk since hm
  have hnodup := nodup_regionAggregates hm h
  have hentry := exists_entry_iff hm ha h
  refine ⟨aggregates, h, hnodup, hentry, fun m hin hregional => ?_, fun m _ hnot g _ hto => ?_, fun g hg => ?_,
    fun n hn => p95Rank_eq hn⟩
  · obtain ⟨key, hto⟩ := exists_contributesTo_iff.mpr hregional
    obtain ⟨g, hg, rfl⟩ := (hentry key).mpr ⟨m, hin, hto⟩
    refine ⟨g, ⟨hg, hto⟩, ?_⟩
    rintro g' ⟨hg', hto'⟩
    exact List.inj_on_of_nodup_map hnodup hg' hg (contributesTo_unique (Db.nodup_listAgents ha) hto' hto)
  · exact hnot (exists_contributesTo_iff.mp ⟨g.key, hto⟩)
  · rw [((mem_regionAggregates hm ha h g).mp hg).2]
    exact exactEntry hm ha since g.key

/-- Four monitors, of which the first two are checked from a region, and the results of these. -/
def regionalDb : Db :=
  let row (id : Int64) (kind : String) (agentId : Option Int64) : MonitorRow :=
    ⟨id, id.toUInt64.toNat, "api", "http://api", kind, 60, "up", agentId⟩
  { Db.empty with
    monitors := Table.ofRows MonitorRow.id [row 1 "http" (some 1), row 2 "http" (some 1), row 3 "http" (some 2), row 4 "k8s_service" none]
    checkResults := Table.ofRows CheckResultRow.id
      [⟨1, 1, 1, 100, true, 30, none⟩, ⟨2, 2, 2, 110, false, 900, none⟩, ⟨3, 2, 2, 120, true, 20, none⟩]
    agents := Table.ofRows AgentRow.id [⟨1, "edge", 0, "http", "token", some "eu"⟩, ⟨2, "core", 0, "http", "token", none⟩] }

/-- There is one entry, for the two, and its latency is the second smallest of the two successes. -/
theorem regionalDb_partition :
    regionAggregates regionalDb none = .ok [⟨"http://api", .http, "eu", 2, 3, 1, 30⟩] ∧ IsKthSmallest [30, 20] 2 30 := by
  have hanswer : regionAggregates regionalDb none = .ok [⟨"http://api", .http, "eu", 2, 3, 1, 30⟩] := by decide +kernel
  obtain ⟨aggregates, h, -, -, -, -, hexact, hrank⟩ := @regionAggregates_partition regionalDb _ _ none rfl rfl
  obtain rfl := Except.ok.inj (h.symm.trans hanswer)
  exact ⟨hanswer, (hexact _ List.mem_cons_self).p95 2 (by decide +kernel) (by decide) (hrank 2 (by decide))⟩

end Monitra
