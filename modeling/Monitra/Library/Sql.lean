import Mathlib.Data.List.Forall2
import Mathlib.Data.List.Nodup
import Mathlib.Logic.Function.Basic

/-!
# A relational database and its definition language

A database is a schema, the tables with their columns and the names of the indexes, and the rows of each table. A row is the
list of its values in the order of the columns. The statements are the ones that change a schema, `CREATE TABLE`,
`CREATE INDEX` and `ALTER TABLE ... ADD COLUMN`; with them come the insert of a row and the search for one. Names are compared
as they are written. What a statement is refused for, and the texts, are SQLite's.

What a statement does splits in two: the checks look at the schema, and what happens to the rows depends on the statement alone
(`Statement.onRows`). The one check that looks at rows is for a new column without a usable default (`Statement.safe`).
-/

namespace Sql

inductive Value where
  | null
  | integer (i : Int64)
  | text (s : String)
  deriving DecidableEq, Repr

inductive ColumnType where
  | integer
  | text
  deriving DecidableEq, Repr

/-- A value of a type. `NULL` is of every type. -/
def ColumnType.holds : ColumnType → Value → Bool
  | _, .null => true
  | .integer, .integer _ => true
  | .text, .text _ => true
  | _, _ => false

/-- A `REFERENCES` clause. -/
structure Reference where
  table : String
  onDeleteCascade : Bool
  deriving DecidableEq, Repr

/-- A column. Its default is of its type. -/
structure Column where
  name : String
  type : ColumnType
  primaryKey : Bool
  notNull : Bool
  default : Value
  references : Option Reference
  holds_default : type.holds default = true
  deriving DecidableEq

namespace Column

/-- A column with a type and nothing else. -/
def plain (name : String) (type : ColumnType) : Column := ⟨name, type, false, false, .null, none, by cases type <;> rfl⟩

def asPrimaryKey (c : Column) : Column := { c with primaryKey := true }

def required (c : Column) : Column := { c with notNull := true }

def withDefault (c : Column) (v : Value) (h : c.type.holds v = true) : Column := { c with default := v, holds_default := h }

def referring (c : Column) (table : String) (onDeleteCascade : Bool) : Column :=
  { c with references := some ⟨table, onDeleteCascade⟩ }

/-- Whether the column can hold a value. A key is never `NULL`. -/
def admits (c : Column) (v : Value) : Bool := c.type.holds v && (v != .null || !(c.notNull || c.primaryKey))

end Column

abbrev Row : Type := List Value

/-- Whether a row has a value for each column, in order, and the columns can hold them. -/
def Conforms (columns : List Column) (row : Row) : Prop := List.Forall₂ (fun c v => c.admits v = true) columns row

instance Conforms.decidable (columns : List Column) (row : Row) : Decidable (Conforms columns row) :=
  inferInstanceAs (Decidable (List.Forall₂ (fun c v => c.admits v = true) columns row))

/-- The values of a row in the columns of the primary key. -/
def keyOf (columns : List Column) (row : Row) : List Value :=
  ((columns.zip row).filter fun cv => cv.1.primaryKey).map (·.2)

structure Database where
  tables : List (String × List Column)
  indexes : List String
  rows : String → List Row

namespace Database

/-- The database of a new file. -/
def empty : Database := ⟨[], [], fun _ => []⟩

def columns? (db : Database) (table : String) : Option (List Column) := db.tables.lookup table

/-- What holds of every database: rows are in tables, have the table's columns, and no two of a table have the same key. -/
structure WellFormed (db : Database) : Prop where
  conforms : ∀ table, ∀ row ∈ db.rows table, ∃ columns, db.columns? table = some columns ∧ Conforms columns row
  distinct : ∀ table columns, db.columns? table = some columns → columns.any (·.primaryKey) = true →
    ((db.rows table).map (keyOf columns)).Nodup

end Database

/-! ## Statements -/

inductive Statement where
  | createTable (name : String) (columns : List Column)
  | createIndex (name table : String) (columns : List String)
  | addColumn (table : String) (column : Column)
  deriving DecidableEq

/-- What a statement does to the rows of a table. -/
def Statement.onRows : Statement → String → List Row → List Row
  | .createTable name _, table, rows => if table = name then [] else rows
  | .createIndex _ _ _, _, rows => rows
  | .addColumn name column, table, rows => if table = name then rows.map (· ++ [column.default]) else rows

/-- What statements do to the rows of a table, one after the other. -/
def onRowsAll (table : String) (ss : List Statement) (rows : List Row) : List Row :=
  ss.foldl (fun rows s => s.onRows table rows) rows

/-- Whether a statement cannot be refused for the rows there are: a new column has a default that every row can take. -/
def Statement.safe : Statement → Bool
  | .addColumn _ column => !(column.notNull && column.default == .null) && (column.references.isNone || column.default == .null)
  | _ => true

namespace Database

/-- Execute a statement. -/
def exec (db : Database) : Statement → Except String Database
  | .createTable name columns =>
    if (db.columns? name).isSome then .error ("table " ++ name ++ " already exists")
    else if name ∈ db.indexes then .error ("there is already an index named " ++ name)
    else .ok ⟨db.tables ++ [(name, columns)], db.indexes, fun t => (Statement.createTable name columns).onRows t (db.rows t)⟩
  | .createIndex name table columns =>
    match db.columns? table with
    | none => .error ("no such table: main." ++ table)
    | some cols =>
      if (db.columns? name).isSome then .error ("there is already a table named " ++ name)
      else if name ∈ db.indexes then .error ("index " ++ name ++ " already exists")
      else
        match columns.find? fun c => !cols.any fun col => col.name == c with
        | some c => .error ("table " ++ table ++ " has no column named " ++ c)
        | none =>
          .ok ⟨db.tables, db.indexes ++ [name], fun t => (Statement.createIndex name table columns).onRows t (db.rows t)⟩
  | .addColumn table column =>
    match db.columns? table with
    | none => .error ("no such table: " ++ table)
    | some cols =>
      if cols.any fun col => col.name == column.name then .error ("duplicate column name: " ++ column.name)
      else if column.primaryKey then .error "Cannot add a PRIMARY KEY column"
      else if column.notNull ∧ column.default = .null ∧ db.rows table ≠ [] then
        .error "Cannot add a NOT NULL column with default value NULL"
      else if column.references.isSome ∧ column.default ≠ .null ∧ db.rows table ≠ [] then
        .error "Cannot add a REFERENCES column with non-NULL default value"
      else
        .ok ⟨db.tables.map fun t => if t.1 = table then (table, cols ++ [column]) else t, db.indexes,
          fun t => (Statement.addColumn table column).onRows t (db.rows t)⟩

/-- Execute statements one after the other, up to the first that is refused. -/
def execBatch (db : Database) : List Statement → Except String Database
  | [] => .ok db
  | s :: ss =>
    match db.exec s with
    | .error e => .error e
    | .ok db => db.execBatch ss

/-- `CREATE TABLE IF NOT EXISTS`. -/
def createTableIfNotExists (db : Database) (name : String) (columns : List Column) : Except String Database :=
  if (db.columns? name).isSome then .ok db else db.exec (.createTable name columns)

/-- `INSERT` of a row with a value for each column. -/
def insert (db : Database) (table : String) (row : Row) : Except String Database :=
  match db.columns? table with
  | none => .error ("no such table: " ++ table)
  | some columns =>
    if columns.length ≠ row.length then
      .error ("table " ++ table ++ " has " ++ toString columns.length ++ " columns but " ++ toString row.length ++
        " values were supplied")
    else
      match (columns.zip row).find? fun cv => !cv.1.admits cv.2 with
      | some (c, _) => .error ("NOT NULL constraint failed: " ++ table ++ "." ++ c.name)
      | none =>
        if columns.any (·.primaryKey) ∧ keyOf columns row ∈ (db.rows table).map (keyOf columns) then
          .error ("UNIQUE constraint failed: " ++ table ++ "." ++
            ", ".intercalate ((columns.filter (·.primaryKey)).map (·.name)))
        else .ok { db with rows := Function.update db.rows table (db.rows table ++ [row]) }

/-- `SELECT EXISTS(SELECT 1 FROM table WHERE column = value)`. -/
def existsWhere (db : Database) (table column : String) (value : Value) : Except String Bool :=
  match db.columns? table with
  | none => .error ("no such table: " ++ table)
  | some columns =>
    match columns.findIdx? fun c => c.name == column with
    | none => .error ("no such column: " ++ column)
    | some i => .ok ((db.rows table).any fun row => row[i]? == some value)

/-- The value of a row of a table in a column, if the table has the column. -/
def value? (db : Database) (table column : String) (row : Row) : Option Value :=
  ((db.columns? table).bind fun columns => columns.findIdx? fun c => c.name == column).bind fun i => row[i]?

end Database

/-- Whether what a statement makes is there already. -/
def Database.made (db : Database) : Statement → Bool
  | .createTable name _ => (db.columns? name).isSome
  | .createIndex name _ _ => name ∈ db.indexes
  | .addColumn table column => ((db.columns? table).getD []).any fun col => col.name == column.name

/-- A statement that makes what is there already is refused. -/
theorem Database.exec_made {db : Database} {s : Statement} (h : db.made s = true) : ∃ e, db.exec s = .error e := by
  cases hexec : db.exec s with
  | error e => exact ⟨e, rfl⟩
  | ok db' =>
    exfalso
    cases s with
    | createTable name columns =>
      simp only [exec] at hexec
      rw [made] at h
      rw [if_pos h] at hexec
      cases hexec
    | createIndex name table columns =>
      have hin : name ∈ db.indexes := by simpa [made] using h
      simp only [exec, hin, if_true] at hexec
      split at hexec
      · cases hexec
      · split at hexec <;> cases hexec
    | addColumn table column =>
      simp only [exec] at hexec
      split at hexec
      · cases hexec
      · rename_i cols hcols
        rw [made, hcols, Option.getD_some] at h
        rw [if_pos h] at hexec
        cases hexec

/-! ## Values of a column -/

/-- A column of integers that is not `NULL` holds an integer. -/
theorem integer_of_admits {c : Column} {v : Value} (h : c.admits v = true) (ht : c.type = .integer)
    (hn : (c.notNull || c.primaryKey) = true) : ∃ i, v = .integer i := by
  unfold Column.admits at h
  cases v with
  | null => simp [hn] at h
  | integer i => exact ⟨i, rfl⟩
  | text s => simp [ht, ColumnType.holds] at h

/-- A column of text that is not `NULL` holds text. -/
theorem text_of_admits {c : Column} {v : Value} (h : c.admits v = true) (ht : c.type = .text)
    (hn : (c.notNull || c.primaryKey) = true) : ∃ s, v = .text s := by
  unfold Column.admits at h
  cases v with
  | null => simp [hn] at h
  | integer i => simp [ht, ColumnType.holds] at h
  | text s => exact ⟨s, rfl⟩

/-! ## What a statement does to the schema and to the rows -/

theorem onRowsAll_append (table : String) (ss ss' : List Statement) (rows : List Row) :
    onRowsAll table (ss ++ ss') rows = onRowsAll table ss' (onRowsAll table ss rows) :=
  List.foldl_append

/-- Looking up in an association list whose entry for one key is replaced. -/
theorem lookup_replace {β : Type} (a k : String) (b : β) : ∀ l : List (String × β),
    (l.map fun t => if t.1 = a then (a, b) else t).lookup k = if k = a then (l.lookup a).map fun _ => b else l.lookup k
  | [] => by simp
  | t :: l => by
    rw [List.map_cons, List.lookup_cons, List.lookup_cons, List.lookup_cons, lookup_replace a k b l]
    by_cases ht : t.1 = a
    · by_cases hk : k = a
      · simp [ht, hk]
      · simp [ht, hk, beq_false_of_ne hk]
    · by_cases hk : k = a
      · simp [ht, hk, beq_false_of_ne (Ne.symm ht)]
      · simp [ht, hk]

namespace Database

variable {db db' d d' : Database}

/-- A statement that is executed does to the rows what it always does. -/
theorem rows_of_exec {s : Statement} (h : db.exec s = .ok db') (table : String) :
    db'.rows table = s.onRows table (db.rows table) := by
  unfold exec at h
  repeat' split at h
  all_goals cases h
  all_goals rfl

/-- A safe statement that is executed on some rows is executed on any, with the same schema as result. -/
theorem exec_safe {s : Statement} (hs : s.safe = true) (ht : db.tables = d.tables) (hi : db.indexes = d.indexes)
    (h : d.exec s = .ok d') : db.exec s = .ok ⟨d'.tables, d'.indexes, fun t => s.onRows t (db.rows t)⟩ := by
  have hc : db.columns? = d.columns? := by
    funext table
    unfold columns?
    rw [ht]
  cases s with
  | createTable name columns =>
    simp only [exec, hc, ht, hi] at h ⊢
    repeat' split at h
    all_goals cases h
    simp_all
  | createIndex name table columns =>
    simp only [exec, hc, ht, hi] at h ⊢
    repeat' split at h
    all_goals cases h
    simp_all
  | addColumn table column =>
    simp only [Statement.safe, Bool.and_eq_true, Bool.not_eq_true', Bool.and_eq_false_iff, Bool.or_eq_true] at hs
    simp only [exec, hc, ht, hi] at h ⊢
    repeat' split at h
    all_goals cases h
    rename_i cols hcols hdup hpk hnull href
    have hnull' : ¬(column.notNull = true ∧ column.default = .null ∧ db.rows table ≠ []) := by
      rintro ⟨hn, hd, -⟩
      rcases hs.1 with h | h <;> simp_all
    have href' : ¬(column.references.isSome = true ∧ column.default ≠ .null ∧ db.rows table ≠ []) := by
      rintro ⟨hr, hd, -⟩
      rcases hs.2 with h | h <;> simp_all
    simp only [hdup, hpk, hnull', href', if_false, Bool.false_eq_true]

/-- Statements that are executed do to the rows what they always do. -/
theorem rows_of_execBatch (table : String) : ∀ {ss : List Statement} {db db' : Database}, db.execBatch ss = .ok db' →
    db'.rows table = onRowsAll table ss (db.rows table)
  | [], db, db', h => by
    cases h
    rfl
  | s :: ss, db, db', h => by
    unfold execBatch at h
    split at h
    · cases h
    · rename_i db₁ h₁
      rw [rows_of_execBatch table h, rows_of_exec h₁]
      rfl

/-- Safe statements that are executed on some rows are executed on any, with the same schema as result. -/
theorem execBatch_safe : ∀ {ss : List Statement} {db d d' : Database}, (∀ s ∈ ss, s.safe = true) → db.tables = d.tables →
    db.indexes = d.indexes → d.execBatch ss = .ok d' →
    ∃ db', db.execBatch ss = .ok db' ∧ db'.tables = d'.tables ∧ db'.indexes = d'.indexes
  | [], db, d, d', _, ht, hi, h => by
    cases h
    exact ⟨db, rfl, ht, hi⟩
  | s :: ss, db, d, d', hs, ht, hi, h => by
    unfold execBatch at h ⊢
    split at h
    · cases h
    · rename_i d₁ h₁
      rw [exec_safe (hs s List.mem_cons_self) ht hi h₁]
      exact execBatch_safe (d := d₁) (fun s' hs' => hs s' (List.mem_cons_of_mem s hs')) rfl rfl h

/-! ## Databases stay well-formed -/

theorem wellFormed_empty : empty.WellFormed where
  conforms _ _ hr := by cases hr
  distinct _ _ h := by cases h

/-- The columns of the tables after a table is created. -/
theorem columns?_append (name table : String) (columns : List Column) (indexes : List String) (rows : String → List Row) :
    (⟨db.tables ++ [(name, columns)], indexes, rows⟩ : Database).columns? table =
      (db.columns? table).or (if table = name then some columns else none) := by
  unfold columns?
  rw [List.lookup_append]
  by_cases h : table = name
  · simp [h]
  · simp [h, List.lookup_cons, beq_false_of_ne h]

/-- A row with a value for one more column. -/
theorem conforms_append {columns : List Column} {row : Row} {c : Column} {v : Value} (h : Conforms columns row)
    (hv : c.admits v = true) : Conforms (columns ++ [c]) (row ++ [v]) :=
  List.rel_append h (.cons hv .nil)

/-- The key of a row with a value for one more column. -/
theorem keyOf_append {columns : List Column} {row : Row} {c : Column} {v : Value} (h : Conforms columns row)
    (hc : c.primaryKey = false) : keyOf (columns ++ [c]) (row ++ [v]) = keyOf columns row := by
  unfold keyOf
  rw [List.zip_append h.length_eq, List.filter_append]
  simp [hc]

/-- A statement keeps a database well-formed. -/
theorem WellFormed.exec {s : Statement} (hw : db.WellFormed) (h : db.exec s = .ok db') : db'.WellFormed := by
  cases s with
  | createTable name columns =>
    simp only [Database.exec] at h
    split at h
    · cases h
    · rename_i hnew
      split at h
      · cases h
      · cases h
        have hnone : db.columns? name = none := by simpa using hnew
        constructor
        · intro table row hr
          by_cases ht : table = name
          · simp [Statement.onRows, ht] at hr
          · simp only [Statement.onRows, if_neg ht] at hr
            obtain ⟨cols, hcols, hconf⟩ := hw.conforms table row hr
            exact ⟨cols, by rw [columns?_append, hcols, Option.some_or], hconf⟩
        · intro table cols hcols hpk
          by_cases ht : table = name
          · simp [Statement.onRows, ht]
          · simp only [Statement.onRows, if_neg ht]
            rw [columns?_append, if_neg ht, Option.or_none] at hcols
            exact hw.distinct table cols hcols hpk
  | createIndex name table columns =>
    simp only [Database.exec] at h
    repeat' split at h
    all_goals cases h
    exact ⟨hw.conforms, hw.distinct⟩
  | addColumn table column =>
    simp only [Database.exec] at h
    split at h
    · cases h
    · rename_i cols hcols
      repeat' split at h
      all_goals cases h
      rename_i hdup hpk hnull href
      rw [Bool.not_eq_true] at hpk
      have hnew : ∀ t, (⟨db.tables.map fun t => if t.1 = table then (table, cols ++ [column]) else t, db.indexes,
          fun t => (Statement.addColumn table column).onRows t (db.rows t)⟩ : Database).columns? t =
            if t = table then some (cols ++ [column]) else db.columns? t := by
        intro t
        unfold columns? at hcols ⊢
        rw [lookup_replace, hcols, Option.map_some]
      have hconf : ∀ row ∈ db.rows table, Conforms cols row := by
        intro row hr
        obtain ⟨cols', hcols', hc⟩ := hw.conforms table row hr
        cases hcols.symm.trans hcols'
        exact hc
      constructor
      · intro t row hr
        by_cases ht : t = table
        · subst ht
          simp only [Statement.onRows, if_true, List.mem_map] at hr
          obtain ⟨row, hr, rfl⟩ := hr
          refine ⟨cols ++ [column], by rw [hnew, if_pos rfl], conforms_append (hconf row hr) ?_⟩
          have hne : db.rows t ≠ [] := List.ne_nil_of_mem hr
          simp only [hne, ne_eq, not_false_eq_true, and_true] at hnull
          simp only [Column.admits, column.holds_default, Bool.true_and, hpk, Bool.or_false, Bool.or_eq_true, bne_iff_ne,
            ne_eq, Bool.not_eq_true']
          by_cases hd : column.default = .null
          · exact Or.inr (by simpa [hd] using hnull)
          · exact Or.inl hd
        · simp only [Statement.onRows, if_neg ht] at hr
          obtain ⟨cols', hcols', hc⟩ := hw.conforms t row hr
          exact ⟨cols', by rw [hnew, if_neg ht, hcols'], hc⟩
      · intro t cols' hcols' hany
        rw [hnew] at hcols'
        by_cases ht : t = table
        · subst ht
          simp only [if_true, Option.some.injEq] at hcols'
          subst hcols'
          simp only [List.any_append, List.any_cons, hpk, List.any_nil, Bool.or_false] at hany
          simp only [Statement.onRows, if_true, List.map_map]
          have hkeys : (db.rows t).map (keyOf (cols ++ [column]) ∘ fun row => row ++ [column.default]) =
              (db.rows t).map (keyOf cols) :=
            List.map_congr_left fun row hr => keyOf_append (hconf row hr) hpk
          rw [hkeys]
          exact hw.distinct t cols hcols hany
        · rw [if_neg ht] at hcols'
          simp only [Statement.onRows, if_neg ht]
          exact hw.distinct t cols' hcols' hany

/-- Statements keep a database well-formed. -/
theorem WellFormed.execBatch : ∀ {ss : List Statement} {db db' : Database}, db.WellFormed → db.execBatch ss = .ok db' →
    db'.WellFormed
  | [], _, _, hw, h => by
    cases h
    exact hw
  | s :: ss, db, db', hw, h => by
    unfold Database.execBatch at h
    split at h
    · cases h
    · rename_i db₁ h₁
      exact WellFormed.execBatch (hw.exec h₁) h

/-- What an insert does: the row is added, and it conforms and has a new key. -/
theorem insert_eq_ok {table : String} {row : Row} (h : db.insert table row = .ok db') :
    db' = { db with rows := Function.update db.rows table (db.rows table ++ [row]) } ∧
      ∃ columns, db.columns? table = some columns ∧ Conforms columns row ∧
        (columns.any (·.primaryKey) = true → keyOf columns row ∉ (db.rows table).map (keyOf columns)) := by
  unfold insert at h
  split at h
  · cases h
  · rename_i columns hcols
    split at h
    · cases h
    · rename_i hlen
      split at h
      · cases h
      · rename_i hadm
        split at h
        · cases h
        · rename_i hkey
          cases h
          refine ⟨rfl, columns, hcols, List.forall₂_iff_zip.mpr ⟨not_not.mp hlen, fun {c v} hcv => ?_⟩, fun hpk hmem =>
            hkey ⟨hpk, hmem⟩⟩
          have h := List.find?_eq_none.mp hadm (c, v) hcv
          simpa using h

/-- An insert keeps a database well-formed. -/
theorem WellFormed.insert {table : String} {row : Row} (hw : db.WellFormed) (h : db.insert table row = .ok db') :
    db'.WellFormed := by
  obtain ⟨rfl, columns, hcols, hconf, hkey⟩ := insert_eq_ok h
  constructor
  · intro t r hr
    by_cases ht : t = table
    · subst ht
      simp only [Function.update_self, List.mem_append, List.mem_singleton] at hr
      rcases hr with hr | rfl
      · exact hw.conforms t r hr
      · exact ⟨columns, hcols, hconf⟩
    · simp only [Function.update_of_ne ht] at hr
      exact hw.conforms t r hr
  · intro t cols hcols' hpk
    by_cases ht : t = table
    · subst ht
      cases hcols.symm.trans hcols'
      simp only [Function.update_self, List.map_append, List.map_cons, List.map_nil]
      refine List.nodup_append'.mpr ⟨hw.distinct t columns hcols hpk, List.nodup_singleton _, ?_⟩
      rw [List.disjoint_singleton]
      exact hkey hpk
    · simp only [Function.update_of_ne ht]
      exact hw.distinct t cols hcols' hpk

/-- An insert of a row that conforms and has a new key is executed. -/
theorem insert_of_fresh {table : String} {row : Row} {columns : List Column} (hcols : db.columns? table = some columns)
    (hconf : Conforms columns row) (hkey : keyOf columns row ∉ (db.rows table).map (keyOf columns)) :
    db.insert table row = .ok { db with rows := Function.update db.rows table (db.rows table ++ [row]) } := by
  have hnone : (columns.zip row).find? (fun cv => !cv.1.admits cv.2) = none := by
    rw [List.find?_eq_none]
    rintro ⟨c, v⟩ hcv
    have hadm : c.admits v = true := (List.forall₂_iff_zip.mp hconf).2 hcv
    simp [hadm]
  unfold insert
  simp only [hcols, hconf.length_eq, ne_eq, not_true_eq_false, if_false, hnone, hkey, and_false]

end Database

end Sql
