import Monitra.Backend.History
import Monitra.Theorems.Failures

/-!
# How far back a query looks

The moment of a query is unsigned, and the store compares it as a signed integer. From 2^63 on it turns negative, and what should
be nothing is everything.
-/

namespace Monitra

/-- The moment a query should go back to. -/
def cutoff (since : Option UInt64) (retentionSecs nowUnixSecs : UInt64) : Nat :=
  max (since.getD 0).toNat (nowUnixSecs.toNat - retentionSecs.toNat)

/-- Whether a stored result is from a moment on. -/
def CheckResultRow.fromOn (moment : Nat) (row : CheckResultRow) : Bool := decide (moment ≤ row.checkedAt.toUInt64.toNat)

/-- The store with the results from a moment on only. -/
def Db.fromOn (db : Db) (moment : Nat) : Db :=
  { db with checkResults := db.checkResults.delete fun row => !row.fromOn moment }

/-- The times of the stored results are below 2^63. -/
def Db.Timely (db : Db) : Prop := ∀ row ∈ db.checkResults.rows, 0 ≤ row.checkedAt

instance (db : Db) : Decidable db.Timely := inferInstanceAs (Decidable (∀ row ∈ db.checkResults.rows, 0 ≤ row.checkedAt))

/-- The history is the monitor's results from the moment on. -/
def HistoryExact (db : Db) (retentionSecs nowUnixSecs id : UInt64) (since : Option UInt64) : Prop :=
  ∃ results, history db retentionSecs nowUnixSecs id since = .ok results ∧
    results.Perm ((db.checkResults.rows.filter fun row =>
      decide (row.monitorId = id.toInt64) && row.fromOn (cutoff since retentionSecs nowUnixSecs)).map
        fun row => CheckResultDto.ofCheckResult (rowToCheckResult row))

/-- The regions are the aggregates over the results from the moment on: those of the store that has no others. -/
def RegionsExact (db : Db) (retentionSecs nowUnixSecs : UInt64) (since : Option UInt64) : Prop :=
  regions db retentionSecs nowUnixSecs since =
    (Service.regionAggregates (db.fromOn (cutoff since retentionSecs nowUnixSecs)) none).mapError ApiError.ofProviderError

namespace RetentionAux

open Service FailuresAux

theorem toNat_saturatingSub (a b : UInt64) : (saturatingSub a b).toNat = a.toNat - b.toNat := by
  unfold saturatingSub
  split
  · rename_i h
    exact UInt64.toNat_sub_of_le _ _ h
  · rename_i h
    have hlt := UInt64.lt_iff_toNat_lt.mp (UInt64.not_le.mp h)
    rw [UInt64.toNat_zero]
    omega

theorem toNat_max (a b : UInt64) : (max a b).toNat = max a.toNat b.toNat := by
  change (if a ≤ b then b else a).toNat = _
  split
  · rename_i h
    exact (Nat.max_eq_right (UInt64.le_iff_toNat_le.mp h)).symm
  · rename_i h
    exact (Nat.max_eq_left (Nat.le_of_lt (UInt64.lt_iff_toNat_lt.mp (UInt64.not_le.mp h)))).symm

/-- The moment of the query, before it becomes a parameter of the statement, is the right one. -/
theorem toNat_retainedSince (since : Option UInt64) (retentionSecs nowUnixSecs : UInt64) :
    (retainedSince since retentionSecs nowUnixSecs).toNat = cutoff since retentionSecs nowUnixSecs := by
  rw [retainedSince, toNat_max, toNat_saturatingSub, cutoff]

/-- Below 2^63 the store compares as it should. -/
theorem toInt64_le_iff {b : UInt64} (hb : b.toNat < 2 ^ 63) {row : CheckResultRow} (hrow : 0 ≤ row.checkedAt) :
    b.toInt64 ≤ row.checkedAt ↔ row.fromOn b.toNat = true := by
  rw [← Word.toUInt64_le_iff (Word.nonneg_toInt64 hb) hrow, UInt64.toUInt64_toInt64, CheckResultRow.fromOn, decide_eq_true_eq,
    UInt64.le_iff_toNat_le]

/-- From 2^63 on it compares with a negative integer, which is below every time. -/
theorem toInt64_le_of_large {b : UInt64} (hb : 2 ^ 63 ≤ b.toNat) {x : Int64} (hx : 0 ≤ x) : b.toInt64 ≤ x := by
  have hlt : b.toNat < 2 ^ 64 := b.toNat_lt
  have hneg : (b.toNat : Int).bmod (2 ^ 64) < 0 := by
    rw [Int.bmod_def]
    omega
  rw [Int64.le_iff_toInt_le] at hx ⊢
  rw [Word.toInt_toInt64]
  exact (Int.le_of_lt hneg).trans hx

/-- A time below 2^63 is from no moment on that is not. -/
theorem fromOn_of_large {moment : Nat} (hm : 2 ^ 63 ≤ moment) {row : CheckResultRow} (hrow : 0 ≤ row.checkedAt) :
    row.fromOn moment = false := by
  have hlt := Int64.toNatClampNeg_lt row.checkedAt
  rw [CheckResultRow.fromOn, decide_eq_false_iff_not, Int64.toNat_toUInt64_of_le hrow]
  omega

/-- The rows that the store selects for a monitor. -/
def selected (db : Db) (id : UInt64) (since : Option UInt64) : List CheckResultRow :=
  db.checkResults.rows.filter fun row => decide (row.monitorId = id.toInt64 ∧ (since.getD 0).toInt64 ≤ row.checkedAt)

theorem listCheckResults_eq (db : Db) (id : UInt64) (since : Option UInt64) :
    db.listCheckResults id since =
      .ok (((selected db id since).insertionSort fun a b => a.checkedAt ≤ b.checkedAt).map rowToCheckResult) := rfl

/-- Below 2^63 they are those from the moment on. -/
theorem selected_eq {db : Db} (ht : db.Timely) {b : UInt64} (hb : b.toNat < 2 ^ 63) (id : UInt64) :
    selected db id (some b) =
      db.checkResults.rows.filter fun row => decide (row.monitorId = id.toInt64) && row.fromOn b.toNat := by
  refine List.filter_congr fun row hrow => ?_
  rw [Bool.decide_and, Option.getD_some]
  congr 1
  rw [Bool.eq_iff_iff, decide_eq_true_eq]
  exact toInt64_le_iff hb (ht row hrow)

/-- Without a moment they are all of the monitor's. -/
theorem selected_none {db : Db} (ht : db.Timely) (id : UInt64) :
    selected db id none = db.checkResults.rows.filter fun row => decide (row.monitorId = id.toInt64) := by
  refine List.filter_congr fun row hrow => ?_
  have hle : ((none : Option UInt64).getD 0).toInt64 ≤ row.checkedAt := ht row hrow
  simp only [hle, and_true]

/-- Those from a moment on are all that a store has that has no others. -/
theorem selected_fromOn {db : Db} (ht : db.Timely) {b : UInt64} (hb : b.toNat < 2 ^ 63) (id : UInt64) :
    selected db id (some b) = selected (db.fromOn b.toNat) id none := by
  have htimely : (db.fromOn b.toNat).Timely := fun row hrow => ht row (Table.mem_rows_delete.mp hrow).1
  have hrows : (db.fromOn b.toNat).checkResults.rows = db.checkResults.rows.filter fun row => !!row.fromOn b.toNat := rfl
  rw [selected_eq ht hb, selected_none htimely, hrows, List.filter_filter]
  refine List.filter_congr fun row _ => ?_
  rw [Bool.not_not]

/-- From 2^63 on it is as without one. -/
theorem selected_of_large {db : Db} (ht : db.Timely) {b : UInt64} (hb : 2 ^ 63 ≤ b.toNat) (id : UInt64) :
    selected db id (some b) = selected db id none := by
  refine List.filter_congr fun row hrow => ?_
  have hrow' : ((none : Option UInt64).getD 0).toInt64 ≤ row.checkedAt := ht row hrow
  have hlarge : ((some b).getD 0).toInt64 ≤ row.checkedAt := toInt64_le_of_large hb (ht row hrow)
  simp only [hrow', hlarge]

/-- Stores that list the same results for the monitors that count have the same aggregates. -/
theorem regionAggregates_congr {db db' : Db} {since since' : Option UInt64} (hm : db'.monitors = db.monitors)
    (ha : db'.agents = db.agents)
    (h : ∀ monitors agents, db.listMonitors = .ok monitors → db.listAgents = .ok agents → ∀ m ∈ monitors, ∀ key,
      regionKey (regionByAgentId agents) m = some key → selected db m.id.val since = selected db' m.id.val since') :
    regionAggregates db since = regionAggregates db' since' := by
  have hmonitors : db'.listMonitors = db.listMonitors := by rw [Db.listMonitors, Db.listMonitors, hm]
  cases hlist : db.listMonitors with
  | error e =>
    rw [regionAggregates_eq_error since hlist, regionAggregates_eq_error since' (hmonitors.trans hlist)]
  | ok monitors =>
    rw [regionAggregates_eq since hlist, regionAggregates_eq since' (hmonitors.trans hlist), ha]
    congr 1
    have hstep : ∀ m ∈ monitors, ∀ groups : RegionGroups,
        groupMonitor db since (regionByAgentId (db.agents.rows.map rowToAgent)) groups m =
          groupMonitor db' since' (regionByAgentId (db.agents.rows.map rowToAgent)) groups m := by
      intro m hin groups
      cases hk : regionKey (regionByAgentId (db.agents.rows.map rowToAgent)) m with
      | none => simp only [groupMonitor, hk]
      | some key => simp only [groupMonitor, hk, listCheckResults_eq, h monitors _ hlist rfl m hin key hk]
    generalize (∅ : RegionGroups) = groups
    clear hlist h
    induction monitors generalizing groups with
    | nil => rw [List.foldlM_nil, List.foldlM_nil]
    | cons m monitors ih =>
      rw [List.foldlM_cons, List.foldlM_cons, hstep m List.mem_cons_self]
      congr 1
      funext groups₁
      exact ih (fun m' hm' => hstep m' (List.mem_cons_of_mem m hm')) groups₁

theorem history_eq (db : Db) (retentionSecs nowUnixSecs id : UInt64) (since : Option UInt64) :
    history db retentionSecs nowUnixSecs id since =
      .ok ((((selected db id (some (retainedSince since retentionSecs nowUnixSecs))).insertionSort
        fun a b => a.checkedAt ≤ b.checkedAt).map rowToCheckResult).map CheckResultDto.ofCheckResult) := rfl

theorem regions_eq (db : Db) (retentionSecs nowUnixSecs : UInt64) (since : Option UInt64) :
    regions db retentionSecs nowUnixSecs since =
      (regionAggregates db (some (retainedSince since retentionSecs nowUnixSecs))).mapError ApiError.ofProviderError := by
  unfold regions
  cases hr : regionAggregates db (some (retainedSince since retentionSecs nowUnixSecs)) <;> simp [Except.mapError, hr]

/-- The moment is below 2^63 when the one asked for is. -/
theorem cutoff_lt_iff {since : Option UInt64} {retentionSecs nowUnixSecs : UInt64} (hnow : nowUnixSecs.toNat < 2 ^ 63) :
    cutoff since retentionSecs nowUnixSecs < 2 ^ 63 ↔ (since.getD 0).toNat < 2 ^ 63 := by
  unfold cutoff
  omega

theorem rows_fromOn_of_large {db : Db} (ht : db.Timely) {moment : Nat} (hm : 2 ^ 63 ≤ moment) :
    (db.fromOn moment).checkResults.rows = [] := by
  change (db.checkResults.rows.filter fun row => !!row.fromOn moment) = []
  rw [List.filter_eq_nil_iff]
  intro row hrow
  simp [fromOn_of_large hm (ht row hrow)]

/-- A result that the store selects for a monitor of a group is a row of the group. -/
theorem mem_groupRows {db : Db} {monitors : List Monitor} {agents : List Agent} {since : Option UInt64} {key : RegionKey}
    {row : CheckResultRow} (hm : db.listMonitors = .ok monitors) (ha : db.listAgents = .ok agents) :
    row ∈ db.groupRows since key ↔
      ∃ m ∈ monitors, regionKey (regionByAgentId agents) m = some key ∧ row ∈ selected db m.id.val since := by
  simp only [Db.groupRows, hm, ha, selected, List.mem_filter, Bool.and_eq_true, List.any_eq_true, decide_eq_true_eq]
  constructor
  · rintro ⟨hrow, hle, m, hin, hkey, hid⟩
    exact ⟨m, hin, hkey, hrow, hid, hle⟩
  · rintro ⟨m, hin, hkey, hrow, hid, hle⟩
    exact ⟨hrow, hle, m, hin, hkey, hid⟩

/-- With no results at all the aggregates are those of the store when no group has any. -/
theorem regionAggregates_eq_empty_iff {db db' : Db} (hm : db'.monitors = db.monitors) (ha : db'.agents = db.agents)
    (hnone : db'.checkResults.rows = []) :
    regionAggregates db none = regionAggregates db' none ↔ ∀ key, db.groupRows none key = [] := by
  have hmonitors : db'.listMonitors = db.listMonitors := by rw [Db.listMonitors, Db.listMonitors, hm]
  have hempty : ∀ id, selected db' id none = [] := fun id => by rw [selected, hnone, List.filter_nil]
  constructor
  · intro h key
    cases hlist : db.listMonitors with
    | error e => simp only [Db.groupRows, hlist]
    | ok monitors =>
      obtain ⟨aggregates, hok⟩ := regionAggregates_isOk none hlist
      obtain ⟨monitors', agents, hm', ha', hiff⟩ := mem_regionAggregates_iff hok
      by_contra hne
      obtain ⟨row, hrow⟩ := List.exists_mem_of_ne_nil _ hne
      obtain ⟨m, hin, hkey, -⟩ := (mem_groupRows hm' ha').mp hrow
      -- The group has a monitor, so it has an aggregate, which counts the row here and none there.
      have hmember : membersOf monitors' agents key ≠ [] :=
        List.ne_nil_of_mem (List.mem_filter.mpr ⟨hin, decide_eq_true hkey⟩)
      let g := aggregate key ((membersOf monitors' agents key).length,
        (membersOf monitors' agents key).flatMap (windowOf db none))
      have hg : g ∈ aggregates := (hiff g).mpr ⟨hmember, rfl⟩
      have hhere := probeCount_eq hok hg
      have hthere := probeCount_eq (h.symm.trans hok) hg
      have hnorow : db'.groupRows none g.key = [] := by
        unfold Db.groupRows
        split
        · rw [hnone, List.filter_nil]
        · rfl
      rw [hthere, hnorow] at hhere
      exact hne (List.length_eq_zero_iff.mp hhere.symm)
  · intro h
    refine regionAggregates_congr hm ha fun monitors agents hlist hagents m hin key hkey => ?_
    rw [hempty]
    refine List.eq_nil_iff_forall_not_mem.mpr fun row hrow => ?_
    have hin' := (mem_groupRows hlist hagents).mpr ⟨m, hin, hkey, hrow⟩
    rw [h key] at hin'
    cases hin'

/-- The history is exact exactly when the moment asked for is below 2^63, or the monitor has no results. -/
theorem historyExact_iff {db : Db} (ht : db.Timely) {nowUnixSecs : UInt64} (hnow : nowUnixSecs.toNat < 2 ^ 63)
    (retentionSecs id : UInt64) (since : Option UInt64) :
    HistoryExact db retentionSecs nowUnixSecs id since ↔
      (since.getD 0).toNat < 2 ^ 63 ∨ ∀ row ∈ db.checkResults.rows, row.monitorId ≠ id.toInt64 := by
  have hb := toNat_retainedSince since retentionSecs nowUnixSecs
  have hperm : ∀ rows : List CheckResultRow,
      (((rows.insertionSort fun a b => a.checkedAt ≤ b.checkedAt).map rowToCheckResult).map CheckResultDto.ofCheckResult).Perm
        (rows.map fun row => CheckResultDto.ofCheckResult (rowToCheckResult row)) := by
    intro rows
    rw [List.map_map]
    exact (List.perm_insertionSort _ rows).map _
  by_cases hlt : (since.getD 0).toNat < 2 ^ 63
  · refine iff_of_true ⟨_, history_eq .., ?_⟩ (.inl hlt)
    rw [selected_eq ht (hb ▸ (cutoff_lt_iff hnow).mpr hlt), hb]
    exact hperm _
  · have hlarge : 2 ^ 63 ≤ cutoff since retentionSecs nowUnixSecs := Nat.le_of_not_lt fun h => hlt ((cutoff_lt_iff hnow).mp h)
    -- Nothing is from the moment on, and the store selects everything.
    have hspec : (db.checkResults.rows.filter fun row =>
        decide (row.monitorId = id.toInt64) && row.fromOn (cutoff since retentionSecs nowUnixSecs)) = [] := by
      rw [List.filter_eq_nil_iff]
      intro row hrow
      simp [fromOn_of_large hlarge (ht row hrow)]
    have hcode : selected db id (some (retainedSince since retentionSecs nowUnixSecs)) =
        db.checkResults.rows.filter fun row => decide (row.monitorId = id.toInt64) :=
      (selected_of_large ht (hb ▸ hlarge) id).trans (selected_none ht id)
    rw [HistoryExact, hspec, or_iff_right hlt]
    constructor
    · rintro ⟨results, hresults, hnil⟩ row hrow hid
      rw [history_eq, hcode] at hresults
      have hempty := (hperm _).symm.trans (Except.ok.inj hresults ▸ hnil)
      have hin : row ∈ db.checkResults.rows.filter fun row => decide (row.monitorId = id.toInt64) :=
        List.mem_filter.mpr ⟨hrow, decide_eq_true hid⟩
      rw [List.map_eq_nil_iff.mp hempty.eq_nil] at hin
      cases hin
    · intro h
      refine ⟨_, history_eq .., ?_⟩
      rw [hcode, List.filter_eq_nil_iff.mpr fun row hrow => by simpa using h row hrow]
      exact .nil

/-- The regions are exact exactly when the moment asked for is below 2^63, or no group has results. -/
theorem regionsExact_iff {db : Db} (ht : db.Timely) {nowUnixSecs : UInt64} (hnow : nowUnixSecs.toNat < 2 ^ 63)
    (retentionSecs : UInt64) (since : Option UInt64) :
    RegionsExact db retentionSecs nowUnixSecs since ↔
      (since.getD 0).toNat < 2 ^ 63 ∨ ∀ key, db.groupRows none key = [] := by
  have hb := toNat_retainedSince since retentionSecs nowUnixSecs
  rw [RegionsExact, regions_eq]
  by_cases hlt : (since.getD 0).toNat < 2 ^ 63
  · refine iff_of_true ?_ (.inl hlt)
    congr 1
    refine regionAggregates_congr rfl rfl fun monitors agents _ _ m _ _ _ => ?_
    rw [selected_fromOn ht (hb ▸ (cutoff_lt_iff hnow).mpr hlt), hb]
  · have hlarge : 2 ^ 63 ≤ cutoff since retentionSecs nowUnixSecs := Nat.le_of_not_lt fun h => hlt ((cutoff_lt_iff hnow).mp h)
    have hall : regionAggregates db (some (retainedSince since retentionSecs nowUnixSecs)) = regionAggregates db none :=
      regionAggregates_congr rfl rfl fun _ _ _ _ m _ _ _ => selected_of_large ht (hb ▸ hlarge) m.id.val
    have hempty : regionAggregates db none = regionAggregates (db.fromOn (cutoff since retentionSecs nowUnixSecs)) none ↔
        ∀ key, db.groupRows none key = [] := regionAggregates_eq_empty_iff rfl rfl (rows_fromOn_of_large ht hlarge)
    rw [hall, or_iff_right hlt, ← hempty]
    cases hlist : db.listMonitors with
    | error e =>
      have hlist' : (db.fromOn (cutoff since retentionSecs nowUnixSecs)).listMonitors = .error e := hlist
      rw [regionAggregates_eq_error none hlist, regionAggregates_eq_error none hlist']
      exact iff_of_true rfl rfl
    | ok monitors =>
      have hlist' : (db.fromOn (cutoff since retentionSecs nowUnixSecs)).listMonitors = .ok monitors := hlist
      obtain ⟨here, hhere⟩ := regionAggregates_isOk none hlist
      obtain ⟨there, hthere⟩ := regionAggregates_isOk none hlist'
      rw [hhere, hthere]
      exact ⟨fun h => congrArg _ (Except.ok.inj h), fun h => by rw [h]⟩

end RetentionAux

/-- Of a store whose times are below 2^63, at a moment below 2^63, the history and the regions are exact exactly when the moment
asked for is below 2^63, or when there is nothing to return in either case. -/
theorem queries_exact_iff {db : Db} (ht : db.Timely) {nowUnixSecs : UInt64} (hnow : nowUnixSecs.toNat < 2 ^ 63)
    (retentionSecs : UInt64) (since : Option UInt64) :
    (∀ id, HistoryExact db retentionSecs nowUnixSecs id since ↔
        (since.getD 0).toNat < 2 ^ 63 ∨ ∀ row ∈ db.checkResults.rows, row.monitorId ≠ id.toInt64) ∧
      (RegionsExact db retentionSecs nowUnixSecs since ↔
        (since.getD 0).toNat < 2 ^ 63 ∨ ∀ key, db.groupRows none key = []) :=
  ⟨fun id => RetentionAux.historyExact_iff ht hnow retentionSecs id since,
    RetentionAux.regionsExact_iff ht hnow retentionSecs since⟩

/-- A store with one result, of a monitor that an agent of a region runs. -/
def oneResult : Db :=
  { Db.empty with
    monitors := Table.ofRows MonitorRow.id [⟨1, 1, "api", "http://api", "http", 60, "up", some 1⟩]
    checkResults := Table.ofRows CheckResultRow.id [⟨1, 1, 1, 100, true, 5, none⟩]
    agents := Table.ofRows AgentRow.id [⟨1, "edge", 0, "http", "token", some "eu"⟩] }

/-- The result is from before 2^63, and a query for what is from then on returns it. -/
theorem result_before_cutoff_returned : ¬∀ (db : Db) (retentionSecs nowUnixSecs : UInt64) (since : Option UInt64), db.Timely →
    nowUnixSecs.toNat < 2 ^ 63 →
    (∀ id, HistoryExact db retentionSecs nowUnixSecs id since) ∧ RegionsExact db retentionSecs nowUnixSecs since := by
  intro h
  obtain ⟨hhistory, -⟩ := h oneResult 3600 200 (some 0x8000000000000000) (by decide) (by decide)
  obtain ⟨results, hok, hperm⟩ := hhistory 1
  have hreturned : history oneResult 3600 200 1 (some 0x8000000000000000) = .ok [⟨100, true, 5, none⟩] := by decide +kernel
  obtain rfl := Except.ok.inj (hok.symm.trans hreturned)
  exact absurd hperm.length_eq (by decide +kernel)

/-- A query for what is from second 50 on is exact. -/
theorem result_after_cutoff_returned : oneResult.Timely ∧
    (∀ id, HistoryExact oneResult 3600 200 id (some 50)) ∧ RegionsExact oneResult 3600 200 (some 50) := by
  have ht : oneResult.Timely := by decide
  obtain ⟨hhistory, hregions⟩ := @queries_exact_iff oneResult ht 200 (by decide) 3600 (some 50)
  exact ⟨ht, fun id => (hhistory id).mpr (.inl (by decide)), hregions.mpr (.inl (by decide))⟩

end Monitra
