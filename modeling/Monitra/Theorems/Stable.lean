import Monitra.Theorems.Partition

/-!
# Whether the order of the regional aggregates is fixed

The groups come out of a hash map in an order that is another one every time. The answer is then sorted by target and region,
but a group is of a kind too.
-/

namespace Monitra

open Service Sorting

namespace Service

/-- The groups that `region_aggregates` has when its loop is done. -/
def regionGroups (db : Db) (since : Option UInt64) : Except ProviderError RegionGroups := do
  let monitors ← provider db.listMonitors
  let agents ← provider db.listAgents
  monitors.foldlM (groupMonitor db since (regionByAgentId agents)) ∅

/-- An entry of the map of groups. -/
abbrev RegionGroup : Type := Sigma fun _ : RegionKey => Nat × List CheckResult

/-- What it makes of the groups, in the order that the map is iterated in. `sort_by` is stable. -/
def sortedAggregates (order : List RegionGroup) : List RegionAggregate :=
  (order.map fun e => aggregate e.1 e.2).insertionSort fun a b => a.le b

/-- An answer of `region_aggregates`, for some order of iteration. -/
def RegionAnswer (db : Db) (since : Option UInt64) (answer : Except ProviderError (List RegionAggregate)) : Prop :=
  match regionGroups db since with
  | .error e => answer = .error e
  | .ok groups => ∃ order, order.Perm groups.entries ∧ answer = .ok (sortedAggregates order)

/-- Every order is that of an answer. -/
theorem regionAnswer_of_perm {db : Db} {since : Option UInt64} {groups : RegionGroups} {order : List RegionGroup}
    (hgroups : regionGroups db since = .ok groups) (hp : order.Perm groups.entries) :
    RegionAnswer db since (.ok (sortedAggregates order)) := by
  unfold RegionAnswer
  rw [hgroups]
  exact ⟨order, hp, rfl⟩

end Service

/-- Two monitors that contribute to groups of one target and one region are of one kind. -/
def Db.KindsApart (db : Db) : Prop :=
  ∀ monitors agents, db.listMonitors = .ok monitors → db.listAgents = .ok agents →
    ∀ m ∈ monitors, ∀ m' ∈ monitors, ∀ target region kind kind', ContributesTo agents m (target, kind, region) →
      ContributesTo agents m' (target, kind', region) → kind = kind'

namespace StableAux

open FailuresAux PartitionAux

instance : Std.Total fun a b : RegionAggregate => a.le b = true := by
  refine ⟨fun a b => ?_⟩
  simp only [RegionAggregate.le, decide_eq_true_eq]
  by_cases hlt : a.target < b.target
  · exact .inl (.inl hlt)
  · by_cases hgt : b.target < a.target
    · exact .inr (.inl hgt)
    · have heq : a.target = b.target := String.le_antisymm (String.not_lt.mp hgt) (String.not_lt.mp hlt)
      exact (String.le_total a.region b.region).imp (fun h => .inr ⟨heq, h⟩) fun h => .inr ⟨heq.symm, h⟩

instance : IsTrans RegionAggregate fun a b => a.le b = true := by
  refine ⟨fun a b c hab hbc => ?_⟩
  simp only [RegionAggregate.le, decide_eq_true_eq] at hab hbc ⊢
  rcases hab with hlt | ⟨heq, hle⟩
  · rcases hbc with hlt' | ⟨heq', -⟩
    · exact .inl (String.lt_trans hlt hlt')
    · exact .inl (heq' ▸ hlt)
  · rcases hbc with hlt' | ⟨heq', hle'⟩
    · exact .inl (heq ▸ hlt')
    · exact .inr ⟨heq.trans heq', String.le_trans hle hle'⟩

/-- Two aggregates tie exactly if they are of one target and one region. -/
theorem le_and_ge_iff {a b : RegionAggregate} : a.le b = true ∧ b.le a = true ↔ a.target = b.target ∧ a.region = b.region := by
  simp only [RegionAggregate.le, decide_eq_true_eq]
  constructor
  · rintro ⟨hlt | ⟨heq, hle⟩, hlt' | ⟨heq', hle'⟩⟩
    · exact absurd hlt' (String.lt_asymm hlt)
    · exact absurd (heq' ▸ hlt) (String.lt_irrefl _)
    · exact absurd (heq ▸ hlt') (String.lt_irrefl _)
    · exact ⟨heq, String.le_antisymm hle hle'⟩
  · rintro ⟨htarget, hregion⟩
    exact ⟨.inr ⟨htarget, hregion ▸ String.le_refl _⟩, .inr ⟨htarget.symm, hregion ▸ String.le_refl _⟩⟩

theorem regionGroups_eq_error {db : Db} {e : StorageError} (since : Option UInt64) (hm : db.listMonitors = .error e) :
    regionGroups db since = .error e.toProviderError := by
  unfold regionGroups
  rw [hm]
  rfl

/-- The groups, once the monitors are listed. -/
theorem regionGroups_eq {db : Db} {monitors : List Monitor} (since : Option UInt64) (hm : db.listMonitors = .ok monitors) :
    regionGroups db since =
      monitors.foldlM (groupMonitor db since (regionByAgentId (db.agents.rows.map rowToAgent))) ∅ := by
  unfold regionGroups
  rw [hm]
  rfl

/-- They are those that a monitor contributes to. -/
theorem regionGroups_eq_ok {db : Db} {monitors : List Monitor} {agents : List Agent} (since : Option UInt64)
    (hm : db.listMonitors = .ok monitors) (ha : db.listAgents = .ok agents) :
    ∃ groups, regionGroups db since = .ok groups ∧
      ∀ key, (∃ group, groups.lookup key = some group) ↔ ∃ m ∈ monitors, ContributesTo agents m key := by
  obtain ⟨groups, hgroups, -, hlook⟩ := exists_groups since hm
  have hagents : agents = db.agents.rows.map rowToAgent := (Except.ok.inj ha).symm
  refine ⟨groups, ?_, fun key => ?_⟩
  · rw [regionGroups_eq since hm]
    exact hgroups
  · rw [hlook key, ← hagents, ← membersOf_ne_nil_iff (Db.nodup_listAgents ha)]
    split
    · rename_i hnil
      simp [hnil]
    · rename_i hne
      simp [hne]

/-- If two kinds share a target and a region, there are two answers. -/
theorem kindsApart_of_agree {db : Db} {since : Option UInt64}
    (h : ∀ answer answer', RegionAnswer db since answer → RegionAnswer db since answer' → answer = answer') : db.KindsApart := by
  intro monitors agents hm ha m hin m' hin' target region kind kind' hto hto'
  obtain ⟨groups, hgroups, hmem⟩ := regionGroups_eq_ok since hm ha
  obtain ⟨group, hgroup⟩ := (hmem _).mpr ⟨m, hin, hto⟩
  obtain ⟨group', hgroup'⟩ := (hmem _).mpr ⟨m', hin', hto'⟩
  by_contra hne
  let e : RegionGroup := ⟨(target, kind, region), group⟩
  let e' : RegionGroup := ⟨(target, kind', region), group'⟩
  have hee : e' ≠ e := by
    intro heq
    have hkind := congrArg (fun x => x.1.2.1) heq
    exact hne hkind.symm
  have hrest : groups.entries.Perm (e :: e' :: (groups.entries.erase e).erase e') := by
    have he : e ∈ groups.entries := HashMap.mem_entries_iff.mpr hgroup
    have he' : e' ∈ groups.entries.erase e := (List.mem_erase_of_ne hee).mpr (HashMap.mem_entries_iff.mpr hgroup')
    exact (List.perm_cons_erase he).trans ((List.perm_cons_erase he').cons e)
  -- The map is iterated in two orders that differ in these two groups only.
  have hsame := h _ _ (regionAnswer_of_perm hgroups hrest.symm)
    (regionAnswer_of_perm hgroups ((List.Perm.swap _ _ _).trans hrest.symm))
  have htie : (aggregate e.1 e.2).le (aggregate e'.1 e'.2) = true ∧ (aggregate e'.1 e'.2).le (aggregate e.1 e.2) = true :=
    le_and_ge_iff.mpr ⟨rfl, rfl⟩
  have heq : aggregate e.1 e.2 = aggregate e'.1 e'.2 :=
    eq_of_insertionSort_eq (r := fun a b : RegionAggregate => a.le b = true) htie.1 htie.2 (Except.ok.inj hsame)
  exact hne (congrArg RegionAggregate.kind heq)

/-- If not, no two groups tie. -/
theorem agree_of_kindsApart {db : Db} {since : Option UInt64} (hapart : db.KindsApart)
    {answer answer' : Except ProviderError (List RegionAggregate)} (h : RegionAnswer db since answer)
    (h' : RegionAnswer db since answer') : answer = answer' := by
  unfold RegionAnswer at h h'
  cases hm : db.listMonitors with
  | error e =>
    rw [regionGroups_eq_error since hm] at h h'
    exact h.trans h'.symm
  | ok monitors =>
    obtain ⟨agents, ha⟩ : ∃ agents, db.listAgents = .ok agents := ⟨_, rfl⟩
    obtain ⟨groups, hgroups, hmem⟩ := regionGroups_eq_ok since hm ha
    rw [hgroups] at h h'
    obtain ⟨order, hp, rfl⟩ := h
    obtain ⟨order', hp', rfl⟩ := h'
    refine congrArg Except.ok (insertionSort_eq_of_perm ?_ ((hp.trans hp'.symm).map _))
    intro x hx y hy hle hge
    obtain ⟨⟨⟨target, kind, region⟩, group⟩, he, rfl⟩ := List.mem_map.mp hx
    obtain ⟨⟨⟨target', kind', region'⟩, group'⟩, he', rfl⟩ := List.mem_map.mp hy
    obtain ⟨rfl, rfl⟩ : target = target' ∧ region = region' := le_and_ge_iff.mp ⟨hle, hge⟩
    have hgroup := HashMap.mem_entries_iff.mp (hp.mem_iff.mp he)
    have hgroup' := HashMap.mem_entries_iff.mp (hp.mem_iff.mp he')
    obtain ⟨m, hin, hto⟩ := (hmem _).mp ⟨group, hgroup⟩
    obtain ⟨m', hin', hto'⟩ := (hmem _).mp ⟨group', hgroup'⟩
    obtain rfl := hapart monitors agents hm ha m hin m' hin' _ _ _ _ hto hto'
    obtain rfl := Option.some.inj (hgroup.symm.trans hgroup')
    rfl

end StableAux

/-- The function modelled answers in one of these ways. -/
theorem regionAnswer_regionAggregates (db : Db) (since : Option UInt64) : RegionAnswer db since (regionAggregates db since) := by
  cases hm : db.listMonitors with
  | error e =>
    unfold RegionAnswer
    rw [StableAux.regionGroups_eq_error since hm]
    exact FailuresAux.regionAggregates_eq_error since hm
  | ok monitors =>
    obtain ⟨groups, hgroups, hanswer, -⟩ := FailuresAux.exists_groups since hm
    rw [hanswer]
    exact regionAnswer_of_perm ((StableAux.regionGroups_eq since hm).trans hgroups) (.refl _)

/-- For every store, the answer is the same for every order in which the map is iterated exactly if no two network probes of one
target that agents of one region check are of different kinds. -/
theorem answers_agree_iff (db : Db) (since : Option UInt64) :
    (∀ answer answer', RegionAnswer db since answer → RegionAnswer db since answer' → answer = answer') ↔ db.KindsApart :=
  ⟨fun h => StableAux.kindsApart_of_agree h, fun h _ _ => StableAux.agree_of_kindsApart h⟩

/-- An agent of a region checks a host over HTTP and with a ping. -/
def twoKindsDb : Db :=
  { Db.empty with
    monitors := Table.ofRows MonitorRow.id
      [⟨1, 1, "web", "example.org", "http", 60, "up", some 1⟩, ⟨2, 2, "ping", "example.org", "icmp", 60, "up", some 1⟩]
    agents := Table.ofRows AgentRow.id [⟨1, "edge", 0, "http,icmp", "token", some "eu"⟩] }

/-- The HTTP probe comes first or the ping does. -/
theorem twoKindsDb_answers : ¬∀ (db : Db) (since : Option UInt64) (answer answer' : Except ProviderError (List RegionAggregate)),
    RegionAnswer db since answer → RegionAnswer db since answer' → answer = answer' := by
  intro h
  have hgroups : ∃ groups, regionGroups twoKindsDb none = .ok groups ∧
      groups.entries = [⟨("example.org", .icmp, "eu"), (1, [])⟩, ⟨("example.org", .http, "eu"), (1, [])⟩] :=
    ⟨_, rfl, by decide⟩
  obtain ⟨groups, hok, hentries⟩ := hgroups
  have hsame := h _ _ _ _ (regionAnswer_of_perm hok (.refl _)) (regionAnswer_of_perm hok (List.reverse_perm _))
  rw [hentries] at hsame
  exact absurd hsame (by decide +kernel)

end Monitra
