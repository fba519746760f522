import Monitra.Lemmas.Store

/-!
# What an update of a monitor changes

`update_monitor` is one statement: each field is the one given or else the one that was there, and the status is pending if an
interval out of range is replaced by a valid one, whatever it was.
-/

namespace Monitra

/-- What an update is to leave of a row: the fields given, and the others as they were; a pause; and any other status, unless an
interval out of range is repaired, which may leave the row pending. -/
structure RowChangesGiven (name target : Option String) (intervalSecs agentId : Option UInt64) (row row' : MonitorRow) : Prop where
  keepsId : row'.id = row.id
  keepsOrigin : row'.origin = row.origin
  keepsKind : row'.kind = row.kind
  setsName : row'.name = name.getD row.name
  setsTarget : row'.target = target.getD row.target
  setsInterval : row'.intervalSecs = (intervalSecs.map (·.toInt64)).getD row.intervalSecs
  setsAgent : row'.agentId = (agentId.map (·.toInt64)).or row.agentId
  keepsPause : row.status = "paused" → row'.status = "paused"
  repairs : row'.status ≠ row.status →
    row'.status = "pending" ∧ (row.intervalSecs < 1 ∨ 86400 < row.intervalSecs) ∧ intervalSecs ≠ none

/-- What an update is to leave of a store: one row is changed so, and nothing else is. -/
structure ChangesGiven (db db' : Db) (id : UInt64) (name target : Option String) (intervalSecs agentId : Option UInt64) : Prop where
  row : ∃ row row', db.row? id = some row ∧ db'.row? id = some row' ∧ RowChangesGiven name target intervalSecs agentId row row'
  otherRows : ∀ k, k ≠ id → db'.row? k = db.row? k
  otherTables : { db' with monitors := db.monitors } = db

namespace UpdateAux

/-- The row changes as it should exactly if no pause is repaired away. -/
theorem rowChangesGiven_updatedRow_iff {name target : Option String} {intervalSecs agentId : Option UInt64} {row : MonitorRow} :
    RowChangesGiven name target intervalSecs agentId row (Db.updatedRow name target intervalSecs agentId row) ↔
      ¬(row.status = "paused" ∧ (row.intervalSecs < 1 ∨ 86400 < row.intervalSecs) ∧ intervalSecs ≠ none) := by
  have hrepair : ((row.intervalSecs < 1 ∨ row.intervalSecs > 86400) ∧ intervalSecs.isSome = true) ↔
      (row.intervalSecs < 1 ∨ 86400 < row.intervalSecs) ∧ intervalSecs ≠ none := by
    rw [Option.isSome_iff_ne_none]
  have hstatus : (Db.updatedRow name target intervalSecs agentId row).status =
      if (row.intervalSecs < 1 ∨ 86400 < row.intervalSecs) ∧ intervalSecs ≠ none then "pending" else row.status := by
    rw [← if_congr hrepair rfl rfl]
    rfl
  constructor
  · rintro h ⟨hpaused, hrange, hgiven⟩
    have hkept := h.keepsPause hpaused
    rw [hstatus, if_pos ⟨hrange, hgiven⟩] at hkept
    exact absurd hkept (by decide)
  · intro hnot
    refine ⟨rfl, rfl, rfl, rfl, rfl, rfl, ?_, fun hpaused => ?_, fun hchanged => ?_⟩
    · cases agentId <;> rfl
    · rw [hstatus, if_neg fun hrepaired => hnot ⟨hpaused, hrepaired⟩]
      exact hpaused
    · rw [hstatus] at hchanged ⊢
      by_cases hrepaired : (row.intervalSecs < 1 ∨ 86400 < row.intervalSecs) ∧ intervalSecs ≠ none
      · rw [if_pos hrepaired]
        exact ⟨rfl, hrepaired⟩
      · rw [if_neg hrepaired] at hchanged
        exact absurd rfl hchanged

/-- An update that succeeds finds its row, and touches the table of the monitors only. -/
theorem of_updateMonitor {db db' : Db} {id : UInt64} {name target : Option String} {intervalSecs agentId : Option UInt64}
    (h : db.updateMonitor id name target intervalSecs agentId = .ok db') :
    (∃ row, db.row? id = some row) ∧ { db' with monitors := db.monitors } = db := by
  unfold Db.updateMonitor at h
  split at h
  · cases h
  · split at h
    · cases h
    · rename_i row hrow
      split at h
      · cases h
        exact ⟨⟨row, hrow⟩, rfl⟩
      · cases h

end UpdateAux

/-- For every store and every update of it: one that succeeds changes what it is given, and nothing else, exactly if the row is
not both paused and out of range while an interval is given; and one that fails changes nothing. -/
theorem update_changes_given_iff (db : Db) (id : UInt64) (name target : Option String) (intervalSecs agentId : Option UInt64) :
    (∀ db', db.updateMonitor id name target intervalSecs agentId = .ok db' →
        (ChangesGiven db db' id name target intervalSecs agentId ↔
          ¬∃ row, db.row? id = some row ∧ row.status = "paused" ∧ (row.intervalSecs < 1 ∨ 86400 < row.intervalSecs) ∧
            intervalSecs ≠ none)) ∧
      ∀ pick db' op e, db.step (.updateMonitor id name target intervalSecs agentId, pick) = some (db', [(op, .error e)]) →
        db' = db := by
  refine ⟨fun db' h => ?_, fun pick db' op e h => ?_⟩
  · obtain ⟨⟨row, hrow⟩, htables⟩ := UpdateAux.of_updateMonitor h
    obtain ⟨-, -, -, hget⟩ := Db.updateMonitor_eq_ok h
    have hrow' : db'.row? id = some (Db.updatedRow name target intervalSecs agentId row) := by
      rw [hget, hrow, Option.map_some, if_pos rfl]
    constructor
    · rintro ⟨⟨row₁, row₁', hrow₁, hrow₁', hchanges⟩, -, -⟩ ⟨row₂, hrow₂, hbad⟩
      cases hrow.symm.trans hrow₁
      cases hrow.symm.trans hrow₂
      cases hrow'.symm.trans hrow₁'
      exact UpdateAux.rowChangesGiven_updatedRow_iff.mp hchanges hbad
    · intro hnot
      refine ⟨⟨row, _, hrow, hrow', ?_⟩, fun k hk => ?_, htables⟩
      · exact UpdateAux.rowChangesGiven_updatedRow_iff.mpr fun hbad => hnot ⟨row, hrow, hbad⟩
      · simp only [hget, if_neg hk, Option.map_id']
  · unfold Db.step at h
    split at h
    · cases h
    · cases h
      rfl

/-- A paused monitor whose stored interval is out of range. -/
def pausedOutOfRange : Db :=
  { Db.empty with monitors := Table.ofRows MonitorRow.id [⟨1, 1, "api", "http://api", "http", 0, "paused", none⟩] }

/-- Its interval is repaired, and the pause is gone. -/
theorem repaired_pause_lost : ¬∀ (db db' : Db) (id : UInt64) (name target : Option String) (intervalSecs agentId : Option UInt64),
    db.updateMonitor id name target intervalSecs agentId = .ok db' → ChangesGiven db db' id name target intervalSecs agentId := by
  intro h
  obtain ⟨db', hok⟩ : ∃ db', pausedOutOfRange.updateMonitor 1 none none (some 60) none = .ok db' := ⟨_, rfl⟩
  obtain ⟨⟨row, row', hrow, hrow', hchanges⟩, -, -⟩ := h _ _ _ _ _ _ _ hok
  cases hok
  cases hrow
  cases hrow'
  exact absurd (hchanges.keepsPause rfl) (by decide)

/-- A monitor that was up, with the same interval, is repaired as it should be. -/
theorem repaired_up_pending :
    let db : Db := { Db.empty with monitors := Table.ofRows MonitorRow.id [⟨1, 1, "api", "http://api", "http", 0, "up", none⟩] }
    ∃ db', db.updateMonitor 1 none none (some 60) none = .ok db' ∧ ChangesGiven db db' 1 none none (some 60) none := by
  intro db
  obtain ⟨db', hok⟩ : ∃ db', db.updateMonitor 1 none none (some 60) none = .ok db' := ⟨_, rfl⟩
  refine ⟨db', hok, ((update_changes_given_iff db 1 none none (some 60) none).1 db' hok).mpr ?_⟩
  rintro ⟨row, hrow, hpaused, -⟩
  cases hrow
  exact absurd hpaused (by decide)

end Monitra
