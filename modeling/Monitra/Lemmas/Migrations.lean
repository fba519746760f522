import Mathlib.Tactic.IntervalCases
import Monitra.Storage.Migrations

/-!
# What the migrations do

A database of version `n` is one that has the schema the first `n` migrations make, whatever its rows are. `run` brings a
database of any version to the last one, and does to the rows of each table what the statements of the migrations that were
missing do. The agents of the store are then read from rows that all have a token.
-/

namespace Monitra

namespace Migrations

open Sql

/-- The schema that the first migrations make, with no rows. -/
def schema : Nat → Database
  | 0 => ⟨[("schema_migrations", recordColumns)], [], fun _ => []⟩
  | n + 1 =>
    match MIGRATIONS[n]? with
    | none => schema n
    | some migration => ((schema n).execBatch migration.2).toOption.getD (schema n)

/-- A database on which the first `n` migrations have been run, and no others. -/
structure AtVersion (n : Nat) (db : Database) : Prop where
  wellFormed : db.WellFormed
  tables : db.tables = (schema n).tables
  indexes : db.indexes = (schema n).indexes
  recorded : (db.rows "schema_migrations").map (·.head?) = (MIGRATIONS.take n).map fun m => some (.text m.1)

/-- A database of a version: with its migrations run, or a file without any table. -/
def OfVersion (n : Nat) (db : Database) : Prop :=
  AtVersion n db ∨ (n = 0 ∧ db.WellFormed ∧ db.tables = [] ∧ db.indexes = [])

/-! ## One migration -/

theorem execBatch_schema : ∀ n < 8, ∃ m, MIGRATIONS[n]? = some m ∧ ∃ d, (schema n).execBatch m.2 = .ok d ∧
    d.tables = (schema (n + 1)).tables ∧ d.indexes = (schema (n + 1)).indexes := by
  intro n hn
  interval_cases n <;> exact ⟨_, rfl, _, rfl, rfl, rfl⟩

theorem columns?_schema : ∀ n ≤ 8, (schema n).columns? "schema_migrations" = some recordColumns := by
  intro n hn
  interval_cases n <;> rfl

theorem safe_of_mem {m : String × List Statement} (hm : m ∈ MIGRATIONS) : ∀ s ∈ m.2, s.safe = true := by
  revert m
  decide

/-- No migration touches the record of migrations. -/
theorem onRows_schema_migrations {m : String × List Statement} (hm : m ∈ MIGRATIONS) (rows : List Row) :
    onRowsAll "schema_migrations" m.2 rows = rows := by
  simp only [MIGRATIONS, List.mem_cons, List.not_mem_nil, or_false] at hm
  rcases hm with rfl | rfl | rfl | rfl | rfl | rfl | rfl | rfl <;> rfl

theorem versions_nodup : (MIGRATIONS.map (·.1)).Nodup := by decide

variable {now : Int64} {n : Nat} {db db' : Database}

theorem AtVersion.columns? (h : AtVersion n db) (hn : n ≤ 8) : db.columns? "schema_migrations" = some recordColumns := by
  have hc := columns?_schema n hn
  unfold Database.columns? at hc ⊢
  rwa [h.tables]

/-- A migration is recorded exactly when it is one of the first. -/
theorem AtVersion.existsWhere (h : AtVersion n db) (hn : n ≤ 8) (version : String) :
    db.existsWhere "schema_migrations" "version" (.text version) =
      .ok (decide (version ∈ (MIGRATIONS.take n).map (·.1))) := by
  have hany : ∀ rows : List Row, rows.any (fun row => row[0]? == some (.text version)) =
      decide (some (.text version) ∈ rows.map (·.head?)) := by
    intro rows
    rw [Bool.eq_iff_iff, decide_eq_true_eq, List.any_eq_true, List.mem_map]
    refine exists_congr fun row => and_congr_right fun _ => ?_
    rw [beq_iff_eq, List.head?_eq_getElem?]
  unfold Database.existsWhere
  rw [h.columns? hn]
  change Except.ok ((db.rows "schema_migrations").any fun row => row[0]? == some (.text version)) = _
  rw [hany, h.recorded]
  simp only [List.mem_map, Option.some.injEq, Value.text.injEq]

/-- A recorded migration is left out. -/
theorem AtVersion.apply_recorded (h : AtVersion n db) (hn : n ≤ 8) {m : String × List Statement}
    (hm : m ∈ MIGRATIONS.take n) : apply now db m = .ok db := by
  unfold apply
  rw [h.existsWhere hn, decide_eq_true (List.mem_map_of_mem hm)]

theorem keyOf_recordColumns (row : Row) : keyOf recordColumns row = row.head?.toList := by
  rcases row with _ | ⟨a, _ | ⟨b, row⟩⟩ <;> rfl

/-- The next migration is executed and recorded. -/
theorem AtVersion.apply_next (now : Int64) (h : AtVersion n db) (hn : n < 8) {m : String × List Statement}
    (hm : MIGRATIONS[n]? = some m) :
    ∃ db', apply now db m = .ok db' ∧ AtVersion (n + 1) db' ∧
      ∀ table, table ≠ "schema_migrations" → db'.rows table = onRowsAll table m.2 (db.rows table) := by
  have hmem : m ∈ MIGRATIONS := List.mem_of_getElem? hm
  have hnew : m.1 ∉ (MIGRATIONS.take n).map (·.1) := by
    intro hv
    have hd := versions_nodup
    rw [← List.take_append_drop n MIGRATIONS, List.map_append, List.nodup_append'] at hd
    refine hd.2.2 hv (List.mem_map_of_mem ?_)
    rw [List.drop_eq_getElem_cons (List.getElem?_eq_some_iff.mp hm).1, (List.getElem?_eq_some_iff.mp hm).2]
    exact List.mem_cons_self
  obtain ⟨m', hm', d, hd, hdt, hdi⟩ := execBatch_schema n hn
  cases hm.symm.trans hm'
  obtain ⟨db₁, h₁, ht₁, hi₁⟩ := Database.execBatch_safe (safe_of_mem hmem) h.tables h.indexes hd
  have hrec : db₁.rows "schema_migrations" = db.rows "schema_migrations" := by
    rw [Database.rows_of_execBatch _ h₁, onRows_schema_migrations hmem]
  have hcols : db₁.columns? "schema_migrations" = some recordColumns := by
    have hc := columns?_schema (n + 1) hn
    unfold Database.columns? at hc ⊢
    rwa [ht₁, hdt]
  have hkey : keyOf recordColumns [.text m.1, .integer now] ∉ (db₁.rows "schema_migrations").map (keyOf recordColumns) := by
    rw [hrec]
    intro hk
    obtain ⟨row, hrow, hk⟩ := List.mem_map.mp hk
    rw [keyOf_recordColumns, keyOf_recordColumns] at hk
    have hhead : row.head? = some (.text m.1) := by
      cases hrh : row.head? with
      | none => simp [hrh] at hk
      | some v => simpa [hrh] using hk
    have hin := List.mem_map_of_mem (f := fun row : Row => row.head?) hrow
    rw [hhead, h.recorded] at hin
    obtain ⟨m', hm', he⟩ := List.mem_map.mp hin
    refine hnew (List.mem_map.mpr ⟨m', hm', ?_⟩)
    simpa using he
  have hconf : Conforms recordColumns [.text m.1, .integer now] := .cons rfl (.cons rfl .nil)
  have hins := Database.insert_of_fresh hcols hconf hkey
  refine ⟨_, ?_, ⟨(h.wellFormed.execBatch h₁).insert hins, ht₁.trans hdt, hi₁.trans hdi, ?_⟩, fun table ht => ?_⟩
  · unfold apply
    rw [h.existsWhere (Nat.le_of_lt hn), decide_eq_false hnew]
    simp only [h₁, hins]
  · simp only [Function.update_self, List.map_append, hrec, h.recorded, List.take_add_one, hm, Option.toList_some,
      List.map_cons, List.map_nil, List.head?_cons]
  · simp only [Function.update_of_ne ht, Database.rows_of_execBatch table h₁]

/-! ## All of them -/

/-- Recorded migrations are left out. -/
theorem AtVersion.applyAll_recorded (h : AtVersion n db) (hn : n ≤ 8) : ∀ {ms ms' : List (String × List Statement)},
    (∀ m ∈ ms, m ∈ MIGRATIONS.take n) → applyAll now db (ms ++ ms') = applyAll now db ms'
  | [], _, _ => rfl
  | m :: ms, ms', hms => by
    rw [List.cons_append, applyAll, h.apply_recorded hn (hms m List.mem_cons_self)]
    exact h.applyAll_recorded hn fun m' hm' => hms m' (List.mem_cons_of_mem m hm')

/-- The missing migrations are executed one after the other. -/
theorem AtVersion.applyAll_missing (now : Int64) : ∀ {k n : Nat} {db : Database}, AtVersion n db → n + k = 8 →
    ∃ db', applyAll now db (MIGRATIONS.drop n) = .ok db' ∧ AtVersion 8 db' ∧
      ∀ table, table ≠ "schema_migrations" →
        db'.rows table = onRowsAll table ((MIGRATIONS.drop n).flatMap (·.2)) (db.rows table)
  | 0, n, db, h, hk => by
    obtain rfl : n = 8 := by omega
    exact ⟨db, rfl, h, fun _ _ => rfl⟩
  | k + 1, n, db, h, hk => by
    obtain ⟨m, hm, -⟩ := execBatch_schema n (by omega)
    obtain ⟨hlt, hget⟩ := List.getElem?_eq_some_iff.mp hm
    obtain ⟨db₁, h₁, hv₁, hr₁⟩ := h.apply_next now (by omega) hm
    obtain ⟨db', h', hv', hr'⟩ := applyAll_missing now (k := k) hv₁ (by omega)
    refine ⟨db', ?_, hv', fun table ht => ?_⟩
    · rw [List.drop_eq_getElem_cons hlt, hget, applyAll, h₁]
      exact h'
    · rw [List.drop_eq_getElem_cons hlt, hget, List.flatMap_cons, onRowsAll_append, ← hr₁ table ht]
      exact hr' table ht

/-- A file without tables gets the table of records, and is then of version 0. -/
theorem atVersion_zero_of_empty (hw : db.WellFormed) (ht : db.tables = []) (hi : db.indexes = []) :
    ∃ db', db.createTableIfNotExists "schema_migrations" recordColumns = .ok db' ∧ AtVersion 0 db' ∧
      ∀ table, db'.rows table = db.rows table := by
  have hrows : ∀ table, db.rows table = [] := by
    intro table
    refine List.eq_nil_iff_forall_not_mem.mpr fun row hr => ?_
    obtain ⟨columns, hcols, -⟩ := hw.conforms table row hr
    simp [Database.columns?, ht] at hcols
  have hexec : db.exec (.createTable "schema_migrations" recordColumns) =
      .ok ⟨[("schema_migrations", recordColumns)], [], fun _ => []⟩ := by
    simp [Database.exec, Database.columns?, ht, hi, Statement.onRows, hrows]
  refine ⟨_, ?_, ⟨hw.exec hexec, rfl, rfl, rfl⟩, fun table => (hrows table).symm⟩
  unfold Database.createTableIfNotExists
  rw [← hexec]
  simp [Database.columns?, ht]

/-- Migrations succeed on a database of any version. They leave it at the last one, with the rows that the missing ones make of
the rows it had. -/
theorem run_eq_ok (now : Int64) (h : OfVersion n db) (hn : n ≤ 8) :
    ∃ db', run now db = .ok db' ∧ AtVersion 8 db' ∧
      ∀ table, table ≠ "schema_migrations" →
        db'.rows table = onRowsAll table ((MIGRATIONS.drop n).flatMap (·.2)) (db.rows table) := by
  have hgo : ∀ {db₁ : Database}, AtVersion n db₁ → ∃ db', applyAll now db₁ MIGRATIONS = .ok db' ∧ AtVersion 8 db' ∧
      ∀ table, table ≠ "schema_migrations" →
        db'.rows table = onRowsAll table ((MIGRATIONS.drop n).flatMap (·.2)) (db₁.rows table) := by
    intro db₁ h₁
    obtain ⟨db', h', hv', hr'⟩ := h₁.applyAll_missing now (k := 8 - n) (by omega)
    refine ⟨db', ?_, hv', hr'⟩
    calc applyAll now db₁ MIGRATIONS
        = applyAll now db₁ (MIGRATIONS.take n ++ MIGRATIONS.drop n) := by rw [List.take_append_drop]
      _ = applyAll now db₁ (MIGRATIONS.drop n) := h₁.applyAll_recorded hn fun m hm => hm
      _ = .ok db' := h'
  rcases h with h | ⟨rfl, hw, ht, hi⟩
  · obtain ⟨db', h', hv', hr'⟩ := hgo h
    refine ⟨db', ?_, hv', hr'⟩
    unfold run Database.createTableIfNotExists
    simp only [h.columns? hn, Option.isSome_some, if_true]
    exact h'
  · obtain ⟨db₁, h₁, hv₁, hr₁⟩ := atVersion_zero_of_empty hw ht hi
    obtain ⟨db', h', hv', hr'⟩ := hgo hv₁
    refine ⟨db', ?_, hv', fun table ht => by rw [hr' table ht, hr₁ table]⟩
    unfold run
    rw [h₁]
    exact h'

/-! ## The agents -/

/-- Whether the row of an agent has a token, and not the empty one. -/
def tokenSet (db : Database) (row : Row) : Bool := (db.value? "agents" "token" row).any fun v => v != .text ""

/-- Whether every agent of a database, of any version, has a token that is not empty. -/
def tokensSet (db : Database) : Bool := (db.rows "agents").all (tokenSet db)

/-- The columns that `agents` was created with. -/
def agentColumns : List Column := [idColumn, textColumn "name", integerColumn "last_heartbeat_at", textColumn "scope"]

theorem columns?_agents_none : ∀ n < 3, (schema n).columns? "agents" = none := by
  intro n hn
  interval_cases n <;> rfl

theorem columns?_agents_created : ∀ n, 3 ≤ n → n ≤ 5 → (schema n).columns? "agents" = some agentColumns := by
  intro n h3 h5
  interval_cases n <;> rfl

theorem columns?_agents_token : (schema 6).columns? "agents" = some (agentColumns ++ [tokenColumn]) := rfl

theorem columns?_agents_region : ∀ n, 7 ≤ n → n ≤ 8 →
    (schema n).columns? "agents" = some (agentColumns ++ [tokenColumn] ++ [regionColumn]) := by
  intro n h7 h8
  interval_cases n <;> rfl

/-- A row of `agents` as it was created. -/
theorem shape_agentColumns {row : Row} (h : Conforms agentColumns row) :
    ∃ id name at' scope, row = [.integer id, .text name, .integer at', .text scope] := by
  rcases h with _ | ⟨hid, _ | ⟨hname, _ | ⟨hat, _ | ⟨hscope, h⟩⟩⟩⟩
  obtain ⟨id, rfl⟩ := integer_of_admits hid rfl rfl
  obtain ⟨name, rfl⟩ := text_of_admits hname rfl rfl
  obtain ⟨at', rfl⟩ := integer_of_admits hat rfl rfl
  obtain ⟨scope, rfl⟩ := text_of_admits hscope rfl rfl
  cases h
  exact ⟨id, name, at', scope, rfl⟩

/-- A row with one more column is a row, and a value for it. -/
theorem shape_append {c : Column} : ∀ {columns : List Column} {row : Row}, Conforms (columns ++ [c]) row →
    ∃ row' v, row = row' ++ [v] ∧ Conforms columns row' ∧ c.admits v = true
  | [], _, .cons hv .nil => ⟨[], _, rfl, .nil, hv⟩
  | _ :: _, _, .cons hv₀ h => by
    obtain ⟨row', v, rfl, hrow', hv⟩ := shape_append h
    exact ⟨_ :: row', v, rfl, .cons hv₀ hrow', hv⟩

/-- A region reads as text or as none. -/
theorem optionText_of_admits {v : Value} (h : regionColumn.admits v = true) : ∃ region, optionText v = some region := by
  cases v with
  | null => exact ⟨none, rfl⟩
  | integer i => cases h
  | text s => exact ⟨some s, rfl⟩

/-- The row of a table of a version has the columns that the schema of the version says. -/
theorem AtVersion.conforms (h : AtVersion n db) {table : String} {row : Row} (hr : row ∈ db.rows table) :
    ∃ columns, (schema n).columns? table = some columns ∧ db.columns? table = some columns ∧ Conforms columns row := by
  obtain ⟨columns, hcols, hconf⟩ := h.wellFormed.conforms table row hr
  refine ⟨columns, ?_, hcols, hconf⟩
  unfold Database.columns? at hcols ⊢
  rwa [← h.tables]

theorem onRowsAll_nil (table : String) : ∀ ss : List Statement, onRowsAll table ss [] = []
  | [] => rfl
  | s :: ss => by
    have hs : s.onRows table [] = [] := by
      cases s <;> simp [Statement.onRows]
    unfold onRowsAll
    rw [List.foldl_cons, hs]
    exact onRowsAll_nil table ss

/-- The missing migrations complete the row of an agent, without a token when it had none; and it then reads as an agent. -/
theorem AtVersion.agents_completed (h : AtVersion n db) (hn : n ≤ 8) :
    ∃ complete : Row → Row,
      onRowsAll "agents" ((MIGRATIONS.drop n).flatMap (·.2)) (db.rows "agents") = (db.rows "agents").map complete ∧
      ∀ row ∈ db.rows "agents", ∃ a, AgentRow.ofSql (complete row) = some a ∧ (a.token ≠ "" ↔ tokenSet db row = true) := by
  rcases Nat.lt_or_ge n 3 with h3 | h3
  · have hnil : db.rows "agents" = [] := by
      refine List.eq_nil_iff_forall_not_mem.mpr fun row hr => ?_
      obtain ⟨columns, hcols, -, -⟩ := h.conforms hr
      cases (columns?_agents_none n h3).symm.trans hcols
    refine ⟨id, by rw [hnil, onRowsAll_nil, List.map_nil], fun row hr => ?_⟩
    rw [hnil] at hr
    cases hr
  rcases Nat.lt_or_ge 5 n with h5 | h5
  · rcases Nat.lt_or_ge 6 n with h6 | h6
    · refine ⟨id, ?_, fun row hr => ?_⟩
      · rw [List.map_id]
        obtain rfl | rfl : n = 7 ∨ n = 8 := by omega
        · rfl
        · rfl
      · obtain ⟨columns, hcols, hcols', hconf⟩ := h.conforms hr
        cases (columns?_agents_region n h6 hn).symm.trans hcols
        obtain ⟨row, region, rfl, hconf, hregion⟩ := shape_append hconf
        obtain ⟨row, token, rfl, hconf, htoken⟩ := shape_append hconf
        obtain ⟨id, name, at', scope, rfl⟩ := shape_agentColumns hconf
        obtain ⟨token, rfl⟩ := text_of_admits htoken rfl rfl
        obtain ⟨region', hregion'⟩ := optionText_of_admits hregion
        refine ⟨⟨id, name, at', scope, token, region'⟩, by simp [AgentRow.ofSql, hregion'], ?_⟩
        have hv : db.value? "agents" "token" [.integer id, .text name, .integer at', .text scope, .text token, region] =
            some (.text token) := by
          unfold Database.value?
          rw [hcols']
          rfl
        simp [tokenSet, hv]
    · obtain rfl : n = 6 := by omega
      refine ⟨fun row => row ++ [.null], rfl, fun row hr => ?_⟩
      obtain ⟨columns, hcols, hcols', hconf⟩ := h.conforms hr
      cases columns?_agents_token.symm.trans hcols
      obtain ⟨row, token, rfl, hconf, htoken⟩ := shape_append hconf
      obtain ⟨id, name, at', scope, rfl⟩ := shape_agentColumns hconf
      obtain ⟨token, rfl⟩ := text_of_admits htoken rfl rfl
      refine ⟨⟨id, name, at', scope, token, none⟩, rfl, ?_⟩
      have hv : db.value? "agents" "token" [.integer id, .text name, .integer at', .text scope, .text token] =
          some (.text token) := by
        unfold Database.value?
        rw [hcols']
        rfl
      simp [tokenSet, hv]
  · refine ⟨fun row => row ++ [.text ""] ++ [.null], ?_, fun row hr => ?_⟩
    · have hmap : ∀ rows : List Row, rows.map (fun row => row ++ [.text ""] ++ [.null]) =
          (rows.map fun row => row ++ [.text ""]).map fun row => row ++ [.null] := by
        intro rows
        rw [List.map_map]
        rfl
      rw [hmap]
      interval_cases n <;> rfl
    · obtain ⟨columns, hcols, hcols', hconf⟩ := h.conforms hr
      cases (columns?_agents_created n h3 h5).symm.trans hcols
      obtain ⟨id, name, at', scope, rfl⟩ := shape_agentColumns hconf
      refine ⟨⟨id, name, at', scope, "", none⟩, rfl, ?_⟩
      have hv : db.value? "agents" "token" [.integer id, .text name, .integer at', .text scope] = none := by
        unfold Database.value?
        rw [hcols']
        rfl
      simp [tokenSet, hv]

/-- The id of an agent is the key of its row. -/
theorem keyOf_of_ofSql {row : Row} {a : AgentRow} (h : AgentRow.ofSql row = some a) :
    keyOf (agentColumns ++ [tokenColumn] ++ [regionColumn]) row = [.integer a.id] := by
  unfold AgentRow.ofSql at h
  split at h
  · obtain ⟨region, -, rfl⟩ := Option.map_eq_some_iff.mp h
    rfl
  · cases h

/-- The agents that are read are the rows. -/
theorem AtVersion.mem_agents_read (h : AtVersion 8 db) {a : AgentRow} :
    a ∈ (Db.read db).agents.rows ↔ ∃ row ∈ db.rows "agents", AgentRow.ofSql row = some a := by
  have hcols : db.columns? "agents" = some (agentColumns ++ [tokenColumn] ++ [regionColumn]) := by
    have hc := columns?_agents_region 8 (by omega) (by omega)
    unfold Database.columns? at hc ⊢
    rwa [h.tables]
  have hkeys := h.wellFormed.distinct "agents" _ hcols rfl
  have hnodup : (((db.rows "agents").filterMap AgentRow.ofSql).map (·.id)).Nodup := by
    unfold List.Nodup at hkeys ⊢
    rw [List.pairwise_map] at hkeys ⊢
    refine hkeys.filterMap AgentRow.ofSql fun row row' hne a ha a' ha' he => hne ?_
    rw [keyOf_of_ofSql ha, keyOf_of_ofSql ha', he]
  change a ∈ (Table.ofRows AgentRow.id ((db.rows "agents").filterMap AgentRow.ofSql)).rows ↔ _
  rw [Table.mem_rows_ofRows hnodup, List.mem_filterMap]

/-- After the migrations every agent has a token that is not empty exactly when every agent had one before. -/
theorem tokens_of_run (h : OfVersion n db) (hn : n ≤ 8) (hrun : run now db = .ok db') :
    (∀ a ∈ (Db.read db').agents.rows, a.token ≠ "") ↔ tokensSet db = true := by
  obtain ⟨db'', hrun', hv, hrows⟩ := run_eq_ok now h hn
  cases hrun.symm.trans hrun'
  have hagents := hrows "agents" (by decide)
  rcases h with h | ⟨rfl, hw, ht, -⟩
  · obtain ⟨complete, hcomplete, htoken⟩ := h.agents_completed hn
    rw [hcomplete] at hagents
    unfold tokensSet
    rw [List.all_eq_true]
    constructor
    · intro hall row hr
      obtain ⟨a, ha, hiff⟩ := htoken row hr
      refine hiff.mp (hall a (hv.mem_agents_read.mpr ⟨complete row, ?_, ha⟩))
      rw [hagents]
      exact List.mem_map_of_mem hr
    · intro hall a ha
      obtain ⟨row', hr', ha'⟩ := hv.mem_agents_read.mp ha
      rw [hagents] at hr'
      obtain ⟨row, hr, rfl⟩ := List.mem_map.mp hr'
      obtain ⟨a', ha'', hiff⟩ := htoken row hr
      cases ha'.symm.trans ha''
      exact hiff.mpr (hall row hr)
  · have hnil : db.rows "agents" = [] := by
      refine List.eq_nil_iff_forall_not_mem.mpr fun row hr => ?_
      obtain ⟨columns, hcols, -⟩ := hw.conforms "agents" row hr
      simp [Database.columns?, ht] at hcols
    rw [hnil, onRowsAll_nil] at hagents
    refine iff_of_true (fun a ha => ?_) (by simp [tokensSet, hnil])
    obtain ⟨row, hr, -⟩ := hv.mem_agents_read.mp ha
    rw [hagents] at hr
    cases hr

end Migrations

end Monitra
