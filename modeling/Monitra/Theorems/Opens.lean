import Monitra.Storage.Opening
import Monitra.Library.Runs
import Monitra.Lemmas.Migrations

/-!
# Concurrent opens

The test whether a migration is recorded comes before the transaction that applies it. When no other process commits the
migration between the two, processes that open one file at a time bring it to the last version together, each migration once,
and none of them fails. A process that begins a migration that was committed in between fails with the first statement.
-/

namespace Monitra

open Runs Sql

namespace Migrations

variable {ι : Type}

/-- The condition. When a process begins to write a migration, the migration is still not recorded. -/
def stillMissing (x : Opening ι) : ι × MigratorAction → Bool
  | (p, .statement _) =>
    match x.pc p with
    | .beginning version _ _ => !((x.db.existsWhere "schema_migrations" "version" (.text version)).toOption.getD false)
    | _ => true
  | (_, .crash) => true

/-- How many statements the migrations of a list take at most, with the return. -/
def work (rest : List (String × List Statement)) : Nat := (rest.map fun m => m.2.length + 4).sum + 1

/-- How many steps a process has left at most. -/
def stepsLeft : MigratorPc → Nat
  | .creating => work MIGRATIONS + 1
  | .testing rest => work rest
  | .beginning _ statements rest => statements.length + 3 + work rest
  | .executing _ todo rest => todo.length + 2 + work rest
  | .committing _ rest => 1 + work rest
  | .returned _ | .crashed => 0

namespace OpensAux

theorem work_cons (m : String × List Statement) (rest : List (String × List Statement)) :
    work (m :: rest) = m.2.length + 4 + work rest := by
  simp [work, Nat.add_assoc]

/-- Whether a process is in its write transaction. -/
def writes : MigratorPc → Bool
  | .executing _ _ _ | .committing _ _ => true
  | _ => false

/-- What holds of a process when the database is of version `k`: it has not passed a migration that is not recorded, and in its
transaction it is on the way to what the migration makes of the database. -/
def Fits (k : Nat) (db : Database) (writer : Option (ι × Database)) (p : ι) : MigratorPc → Prop
  | .creating | .crashed => True
  | .testing rest => AtVersion k db ∧ ∃ j ≤ k, rest = MIGRATIONS.drop j
  | .beginning version statements rest => AtVersion k db ∧ ∃ j ≤ k, (version, statements) :: rest = MIGRATIONS.drop j
  | .executing version todo rest =>
    AtVersion k db ∧ ∃ statements copy, (version, statements) :: rest = MIGRATIONS.drop k ∧ writer = some (p, copy) ∧
      copy.execBatch todo = db.execBatch statements
  | .committing version rest =>
    AtVersion k db ∧ ∃ statements copy now, (version, statements) :: rest = MIGRATIONS.drop k ∧ writer = some (p, copy) ∧
      apply now db (version, statements) = .ok copy
  | .returned result => result = .ok () ∧ k = 8 ∧ AtVersion k db

/-- The invariant: the database has got from version `n` to version `k`, and every process fits. -/
structure Sound (n : Nat) (db₀ : Database) (x : Opening ι) (log : List String) (k : Nat) : Prop where
  from_le : n ≤ k
  le_last : k ≤ 8
  version : OfVersion k x.db
  rows : ∀ table, table ≠ "schema_migrations" →
    x.db.rows table = onRowsAll table (((MIGRATIONS.take k).drop n).flatMap (·.2)) (db₀.rows table)
  committed : log = ((MIGRATIONS.take k).drop n).map (·.1)
  fits : ∀ p, Fits k x.db x.writer p (x.pc p)
  owned : ∀ p copy, x.writer = some (p, copy) → writes (x.pc p) = true

/-- A process in its write transaction is the one that writes. -/
theorem writer_of_writes {k : Nat} {db : Database} {writer : Option (ι × Database)} {p : ι} {pc : MigratorPc}
    (h : Fits k db writer p pc) (hw : writes pc = true) : ∃ copy, writer = some (p, copy) := by
  cases pc with
  | executing version todo rest =>
    obtain ⟨-, _, copy, -, hc, -⟩ := h
    exact ⟨copy, hc⟩
  | committing version rest =>
    obtain ⟨-, _, copy, _, -, hc, -⟩ := h
    exact ⟨copy, hc⟩
  | _ => cases hw

/-- A process that does not write fits a later version as well, whoever writes. -/
theorem Fits.later {k k' : Nat} {db db' : Database} {writer writer' : Option (ι × Database)} {p : ι} {pc : MigratorPc}
    (h : Fits k db writer p pc) (hw : writes pc = false) (hk : k ≤ k') (hk' : k' ≤ 8)
    (hdb : AtVersion k db → AtVersion k' db') : Fits k' db' writer' p pc := by
  cases pc with
  | creating | crashed => trivial
  | testing rest =>
    obtain ⟨hv, j, hj, hr⟩ := h
    exact ⟨hdb hv, j, hj.trans hk, hr⟩
  | beginning version statements rest =>
    obtain ⟨hv, j, hj, hr⟩ := h
    exact ⟨hdb hv, j, hj.trans hk, hr⟩
  | executing | committing => cases hw
  | returned result =>
    obtain ⟨hr, rfl, hv⟩ := h
    obtain rfl : k' = 8 := Nat.le_antisymm hk' hk
    exact ⟨hr, rfl, hdb hv⟩

/-- The migration that a process is at has the place in the list that the rest of the list says. -/
theorem getElem?_of_drop {j : Nat} {m : String × List Statement} {rest : List (String × List Statement)}
    (h : m :: rest = MIGRATIONS.drop j) : j < 8 ∧ MIGRATIONS[j]? = some m ∧ rest = MIGRATIONS.drop (j + 1) := by
  have hj : j < MIGRATIONS.length := by
    by_contra hge
    rw [List.drop_eq_nil_of_le (Nat.not_lt.mp hge)] at h
    cases h
  rw [List.drop_eq_getElem_cons hj, List.cons.injEq] at h
  exact ⟨hj, by rw [List.getElem?_eq_getElem hj, h.1], h.2⟩

/-- The migration of a place is recorded in a database of a version exactly when the version is past it. -/
theorem recorded_iff {k j : Nat} {db : Database} {m : String × List Statement} (h : AtVersion k db) (hk : k ≤ 8)
    (hm : MIGRATIONS[j]? = some m) :
    db.existsWhere "schema_migrations" "version" (.text m.1) = .ok (decide (j < k)) := by
  rw [h.existsWhere hk]
  obtain ⟨hj, hget⟩ := List.getElem?_eq_some_iff.mp hm
  congr 2
  rw [eq_iff_iff]
  constructor
  · intro hmem
    obtain ⟨m', hm', he⟩ := List.mem_map.mp hmem
    obtain ⟨i, hi, hget'⟩ := List.getElem_of_mem hm'
    rw [List.length_take] at hi
    rw [List.getElem_take] at hget'
    -- the versions are distinct, so it is the same place
    have hij : i = j := by
      have hi' : i < (MIGRATIONS.map (·.1)).length := by
        rw [List.length_map]
        omega
      have hj' : j < (MIGRATIONS.map (·.1)).length := by
        rw [List.length_map]
        omega
      have hsame : (MIGRATIONS.map (·.1))[i] = (MIGRATIONS.map (·.1))[j] := by
        rw [List.getElem_map, List.getElem_map, hget', hget, he]
      exact versions_nodup.getElem_inj_iff.mp hsame
    omega
  · intro hlt
    refine List.mem_map.mpr ⟨m, ?_, rfl⟩
    rw [List.mem_iff_getElem]
    refine ⟨j, ?_, ?_⟩
    · rw [List.length_take]
      omega
    · rw [List.getElem_take, hget]

variable {n k : Nat} {db₀ : Database} {x : Opening ι} {log : List String} {p : ι}

/-- Where no process writes, or `p` does, no other is in its write transaction. -/
theorem Sound.others (h : Sound n db₀ x log k) (hfree : ∀ q c, x.writer = some (q, c) → q = p) :
    ∀ q, q ≠ p → writes (x.pc q) = false := by
  intro q hq
  by_contra hne
  obtain ⟨c, hc⟩ := writer_of_writes (h.fits q) (by simpa using hne)
  exact hq (hfree q c hc)

/-- One process writes at a time. -/
theorem free_of_writer {c : Database} (hc : x.writer = some (p, c)) : ∀ q c', x.writer = some (q, c') → q = p := by
  intro q c' hc'
  cases hc.symm.trans hc'
  rfl

variable [DecidableEq ι]

/-- A step of one process that leaves the database and the writer as they are. -/
theorem Sound.goto (h : Sound n db₀ x log k) {pc : MigratorPc} (hpc : Fits k x.db x.writer p pc)
    (hw : writes (x.pc p) = false) : Sound n db₀ (x.goto p pc) log k where
  from_le := h.from_le
  le_last := h.le_last
  version := h.version
  rows := h.rows
  committed := h.committed
  fits q := by
    by_cases hq : q = p
    · subst hq
      simpa [Opening.goto] using hpc
    · simpa [Opening.goto, Function.update_of_ne hq] using h.fits q
  owned q copy hc := by
    have hown := h.owned q copy hc
    by_cases hq : q = p
    · subst hq
      rw [hw] at hown
      cases hown
    · simpa [Opening.goto, Function.update_of_ne hq] using hown

/-- A step of a process while no other is in its write transaction, which may bring the database to another version. -/
theorem Sound.alone (h : Sound n db₀ x log k) (hfree : ∀ q c, x.writer = some (q, c) → q = p) {k' : Nat} {db : Database}
    {writer : Option (ι × Database)} {pc : MigratorPc} {log' : List String} (hk : k ≤ k') (hk' : k' ≤ 8)
    (hversion : OfVersion k' db) (hdb : AtVersion k x.db → AtVersion k' db)
    (hrows : ∀ table, table ≠ "schema_migrations" →
      db.rows table = onRowsAll table (((MIGRATIONS.take k').drop n).flatMap (·.2)) (db₀.rows table))
    (hlog : log' = ((MIGRATIONS.take k').drop n).map (·.1)) (hpc : Fits k' db writer p pc)
    (hw : ∀ q c, writer = some (q, c) → q = p ∧ writes pc = true) :
    Sound n db₀ { x.goto p pc with db, writer } log' k' where
  from_le := h.from_le.trans hk
  le_last := hk'
  version := hversion
  rows := hrows
  committed := hlog
  fits q := by
    by_cases hq : q = p
    · subst hq
      simpa [Opening.goto] using hpc
    · have hlater : Fits k' db writer q (x.pc q) := (h.fits q).later (h.others hfree q hq) hk hk' hdb
      simpa [Opening.goto, Function.update_of_ne hq] using hlater
  owned q c hc := by
    obtain ⟨rfl, hwrites⟩ := hw q c hc
    simpa [Opening.goto] using hwrites

/-- A step of one process while no other is in its write transaction, which leaves the committed database as it is. -/
theorem Sound.writing (h : Sound n db₀ x log k) (hfree : ∀ q c, x.writer = some (q, c) → q = p)
    {writer : Option (ι × Database)} {pc : MigratorPc} (hpc : Fits k x.db writer p pc)
    (hw : ∀ q c, writer = some (q, c) → q = p ∧ writes pc = true) :
    Sound n db₀ { x.goto p pc with writer } log k :=
  h.alone hfree le_rfl h.le_last h.version id h.rows h.committed hpc hw

/-- A process leaves, and a transaction it is in is rolled back. -/
theorem Sound.leave (h : Sound n db₀ x log k) {pc : MigratorPc} (hpc : ∀ writer, Fits k x.db writer p pc) :
    Sound n db₀ (x.leave p pc) log k := by
  unfold Opening.leave
  split
  · rename_i hcopy
    refine h.writing (fun q c hc => ?_) (hpc none) (fun q c hc => by cases hc)
    unfold Opening.copy? at hcopy
    rw [hc, Option.bind_some] at hcopy
    by_contra hq
    simp [hq] at hcopy
  · rename_i hcopy
    refine h.goto (hpc _) ?_
    by_contra hne
    obtain ⟨c, hc⟩ := writer_of_writes (h.fits p) (by simpa using hne)
    simp [Opening.copy?, hc] at hcopy

/-- What the process that writes has made of the database. -/
theorem copy?_eq {c : Database} (hc : x.writer = some (p, c)) : x.copy? p = some c := by
  simp [Opening.copy?, hc]

/-- A migration that is not recorded and is applied has its statements executed, and is recorded then. -/
theorem apply_eq_ok {now : Int64} {db db' : Database} {m : String × List Statement} (h : apply now db m = .ok db')
    (hnew : db.existsWhere "schema_migrations" "version" (.text m.1) = .ok false) :
    ∃ copy, db.execBatch m.2 = .ok copy ∧ copy.insert "schema_migrations" [.text m.1, .integer now] = .ok db' := by
  unfold apply at h
  simp only [hnew] at h
  split at h
  · cases h
  · rename_i copy hbatch
    split at h
    · cases h
    · rename_i hins
      cases h
      exact ⟨copy, hbatch, hins⟩

/-- One migration more. -/
theorem take_drop_succ {m : String × List Statement} (hn : n ≤ k) (hm : MIGRATIONS[k]? = some m) :
    (MIGRATIONS.take (k + 1)).drop n = (MIGRATIONS.take k).drop n ++ [m] := by
  have hlen : n ≤ (MIGRATIONS.take k).length := by
    rw [List.length_take]
    have hk := (List.getElem?_eq_some_iff.mp hm).1
    omega
  rw [List.take_add_one, hm, Option.toList_some, List.drop_append_of_le_length hlen]

/-- A step that meets the condition keeps the invariant, and no process fails in it. -/
theorem sound_statement {x' : Opening ι} {now : Int64} {ev : List String} (h : Sound n db₀ x log k)
    (hok : stillMissing x (p, .statement now) = true) (hs : x.statement p now = some (x', ev)) :
    ∃ k', Sound n db₀ x' (log ++ ev) k' := by
  have hfit := h.fits p
  unfold Opening.statement at hs
  cases hpc : x.pc p with
  | creating =>
    have hidle : writes (x.pc p) = false := by rw [hpc]; rfl
    simp only [hpc] at hs
    split at hs
    · cases hs
    · rename_i hwait
      rcases h.version with hv | ⟨hk, hwf, ht, hi⟩
      · have hcreate : x.db.createTableIfNotExists "schema_migrations" recordColumns = .ok x.db := by
          unfold Database.createTableIfNotExists
          rw [hv.columns? h.le_last, Option.isSome_some, if_pos rfl]
        rw [hcreate] at hs
        cases hs
        rw [List.append_nil]
        exact ⟨k, h.goto ⟨hv, 0, Nat.zero_le k, rfl⟩ hidle⟩
      · -- the file has no table: the process creates the one of records, and no other is writing
        subst hk
        obtain ⟨db', hcreate, hv, hrows⟩ := atVersion_zero_of_empty hwf ht hi
        have hnone : x.writer = none := by
          by_contra hne
          refine hwait ⟨by simp [Database.columns?, ht], Option.isSome_iff_ne_none.mpr hne⟩
        rw [hcreate] at hs
        cases hs
        rw [List.append_nil]
        refine ⟨0, h.alone (by simp [hnone]) le_rfl h.le_last (Or.inl hv) (fun _ => hv) (fun table ht => ?_) h.committed
          ⟨hv, 0, le_rfl, rfl⟩ (by simp [Opening.goto, hnone])⟩
        rw [hrows table, h.rows table ht]
  | testing rest =>
    have hidle : writes (x.pc p) = false := by rw [hpc]; rfl
    rw [hpc] at hfit
    obtain ⟨hv, j, hj, hrest⟩ := hfit
    cases rest with
    | nil =>
      simp only [hpc] at hs
      cases hs
      rw [List.append_nil]
      have hlast : k = 8 := by
        have hlen := congrArg List.length hrest
        have hle := h.le_last
        rw [List.length_nil, List.length_drop] at hlen
        have h8 : MIGRATIONS.length = 8 := rfl
        omega
      exact ⟨k, h.goto ⟨rfl, hlast, hv⟩ hidle⟩
    | cons m rest =>
      obtain ⟨hj8, hm, hrest'⟩ := getElem?_of_drop hrest
      simp only [hpc, recorded_iff hv h.le_last hm] at hs
      by_cases hjk : j < k
      · rw [decide_eq_true hjk] at hs
        cases hs
        rw [List.append_nil]
        exact ⟨k, h.goto ⟨hv, j + 1, hjk, hrest'⟩ hidle⟩
      · rw [decide_eq_false hjk] at hs
        cases hs
        rw [List.append_nil]
        exact ⟨k, h.goto ⟨hv, j, hj, hrest⟩ hidle⟩
  | beginning version statements rest =>
    rw [hpc] at hfit
    obtain ⟨hv, j, hj, hrest⟩ := hfit
    obtain ⟨hj8, hm, -⟩ := getElem?_of_drop hrest
    simp only [hpc] at hs
    split at hs
    · cases hs
    · rename_i hnone
      cases hs
      rw [List.append_nil]
      -- still not recorded, it is the next one
      have hjk : j = k := by
        simp only [stillMissing, hpc, recorded_iff hv h.le_last hm] at hok
        have hlt : ¬j < k := by simpa [Except.toOption] using hok
        omega
      subst hjk
      refine ⟨j, h.writing (by simp [hnone]) ⟨hv, statements, x.db, hrest, rfl, rfl⟩ fun q c hc => ?_⟩
      cases hc
      exact ⟨rfl, rfl⟩
  | executing version todo rest =>
    rw [hpc] at hfit
    obtain ⟨hv, statements, copy, hrest, hwriter, hcopy⟩ := hfit
    obtain ⟨hk8, hm, -⟩ := getElem?_of_drop hrest
    obtain ⟨db', happly, -, -⟩ := hv.apply_next now hk8 hm
    obtain ⟨copy', hbatch, hins⟩ := apply_eq_ok happly (by rw [recorded_iff hv h.le_last hm, decide_eq_false (lt_irrefl k)])
    rw [hbatch] at hcopy
    cases todo with
    | nil =>
      cases hcopy
      simp only [hpc, copy?_eq hwriter, Option.map_some, hins] at hs
      cases hs
      rw [List.append_nil]
      refine ⟨k, h.writing (free_of_writer hwriter) ⟨hv, statements, db', now, hrest, rfl, happly⟩ fun q c hc => ?_⟩
      cases hc
      exact ⟨rfl, rfl⟩
    | cons s todo =>
      simp only [hpc, copy?_eq hwriter, Option.map_some] at hs
      rw [Database.execBatch] at hcopy
      cases hexec : copy.exec s with
      | error e =>
        rw [hexec] at hcopy
        cases hcopy
      | ok copy₁ =>
        rw [hexec] at hcopy hs
        cases hs
        rw [List.append_nil]
        refine ⟨k, h.writing (free_of_writer hwriter) ⟨hv, statements, copy₁, hrest, rfl, hcopy.trans hbatch.symm⟩
          fun q c hc => ?_⟩
        cases hc
        exact ⟨rfl, rfl⟩
  | committing version rest =>
    rw [hpc] at hfit
    obtain ⟨hv, statements, copy, now', hrest, hwriter, happly⟩ := hfit
    obtain ⟨hk8, hm, hrest'⟩ := getElem?_of_drop hrest
    obtain ⟨db', happly', hv', hrows'⟩ := hv.apply_next now' hk8 hm
    cases happly.symm.trans happly'
    simp only [hpc, copy?_eq hwriter, Option.map_some] at hs
    cases hs
    refine ⟨k + 1, h.alone (free_of_writer hwriter) (Nat.le_succ k) hk8 (Or.inl hv') (fun _ => hv') (fun table ht => ?_) ?_
      ⟨hv', k + 1, le_rfl, hrest'⟩ fun q c hc => by cases hc⟩
    · rw [hrows' table ht, h.rows table ht, take_drop_succ h.from_le hm, List.flatMap_append, onRowsAll_append,
        List.flatMap_singleton]
    · rw [take_drop_succ h.from_le hm, List.map_append, h.committed]
      rfl
  | returned | crashed =>
    simp only [hpc] at hs
    cases hs

/-- Every step that meets the condition keeps the invariant. -/
theorem sound_step {x' : Opening ι} {a : ι × MigratorAction} {ev : List String} (h : ∃ k, Sound n db₀ x log k)
    (hok : stillMissing x a = true) (hs : x.step a = some (x', ev)) : ∃ k, Sound n db₀ x' (log ++ ev) k := by
  obtain ⟨k, h⟩ := h
  obtain ⟨p, a⟩ := a
  cases a with
  | statement now => exact sound_statement h hok hs
  | crash =>
    simp only [Opening.step] at hs
    split at hs
    · cases hs
    · cases hs
      rw [List.append_nil]
      exact ⟨k, h.leave fun _ => trivial⟩

theorem sound_of_run (h₀ : OfVersion n db₀) (hn : n ≤ 8)
    (h : Run Opening.step (fun x a => stillMissing x a = true) (Opening.start db₀) x log) : ∃ k, Sound n db₀ x log k := by
  refine h.invariant (I := fun x log => ∃ k, Sound n db₀ x log k) ⟨n, ?_⟩ fun _ _ _ _ _ hI hok hs => sound_step hI hok hs
  have hnil : (MIGRATIONS.take n).drop n = [] := List.drop_eq_nil_of_le (by simp)
  refine ⟨le_rfl, hn, h₀, fun table _ => ?_, ?_, fun _ => trivial, fun p copy hc => by cases hc⟩
  · rw [hnil]
    rfl
  · rw [hnil]
    rfl

/-- A process that writes can go on. -/
theorem statement_of_writes (h : Sound n db₀ x log k) (now : Int64) (hw : writes (x.pc p) = true) :
    (x.copy? p).isSome ∧ (x.statement p now).isSome := by
  obtain ⟨copy, hc⟩ := writer_of_writes (h.fits p) hw
  have hcopy := copy?_eq hc
  refine ⟨by rw [hcopy, Option.isSome_some], ?_⟩
  unfold Opening.statement
  cases hpc : x.pc p with
  | executing version todo rest => cases todo <;> simp [hcopy]
  | committing version rest => simp [hcopy]
  | _ =>
    rw [hpc] at hw
    cases hw

/-- A process that is not done can go on, or waits for one that writes, which can. -/
theorem statement_or_waits (h : Sound n db₀ x log k) (now : Int64) (hd : (x.pc p).isDone = false) :
    (x.statement p now).isSome ∨ ∃ q, q ≠ p ∧ (x.copy? q).isSome ∧ (x.statement q now).isSome := by
  have hwaits : writes (x.pc p) = false → x.writer.isSome →
      ∃ q, q ≠ p ∧ (x.copy? q).isSome ∧ (x.statement q now).isSome := by
    intro hidle hw
    obtain ⟨⟨q, copy⟩, hw⟩ := Option.isSome_iff_exists.mp hw
    have hwrites := h.owned q copy hw
    refine ⟨q, ?_, statement_of_writes h now hwrites⟩
    rintro rfl
    rw [hidle] at hwrites
    cases hwrites
  cases hpc : x.pc p with
  | creating =>
    by_cases hw : (x.db.columns? "schema_migrations").isNone ∧ x.writer.isSome
    · exact Or.inr (hwaits (by rw [hpc]; rfl) hw.2)
    · refine Or.inl ?_
      unfold Opening.statement
      simp only [hpc, if_neg hw]
      split <;> rfl
  | testing rest =>
    refine Or.inl ?_
    unfold Opening.statement
    cases rest with
    | nil => simp [hpc]
    | cons m rest =>
      simp only [hpc]
      split <;> rfl
  | beginning version statements rest =>
    cases hw : x.writer with
    | none =>
      refine Or.inl ?_
      unfold Opening.statement
      simp [hpc, hw]
    | some w => exact Or.inr (hwaits (by rw [hpc]; rfl) (by rw [hw]; rfl))
  | executing | committing => exact Or.inl (statement_of_writes h now (by rw [hpc]; rfl)).2
  | returned | crashed =>
    rw [hpc] at hd
    cases hd

@[simp] theorem pc_goto (x : Opening ι) (p : ι) (pc : MigratorPc) : (x.goto p pc).pc p = pc := by
  simp [Opening.goto]

@[simp] theorem pc_fail (x : Opening ι) (p : ι) (version e : String) :
    (x.fail p version e).pc p = .returned (.error (.migrationFailed version (.other e))) := by
  simp [Opening.fail, Opening.leave]

/-- A statement of a process leaves it with fewer steps. -/
theorem stepsLeft_statement {x' : Opening ι} {now : Int64} {ev : List String} (hs : x.statement p now = some (x', ev)) :
    stepsLeft (x'.pc p) < stepsLeft (x.pc p) := by
  unfold Opening.statement at hs
  cases hpc : x.pc p with
  | creating =>
    simp only [hpc] at hs
    split at hs
    · cases hs
    · split at hs <;> cases hs <;> simp [stepsLeft]
  | testing rest =>
    cases rest with
    | nil =>
      simp only [hpc] at hs
      cases hs
      simp [stepsLeft, work]
    | cons m rest =>
      have hwork := work_cons m rest
      simp only [hpc] at hs
      split at hs <;> cases hs <;> simp [stepsLeft] <;> omega
  | beginning version statements rest =>
    simp only [hpc] at hs
    split at hs
    · cases hs
    · cases hs
      simp [stepsLeft]
  | executing version todo rest =>
    cases todo with
    | nil | cons =>
      simp only [hpc] at hs
      obtain ⟨copy, -, hs⟩ := Option.map_eq_some_iff.mp hs
      split at hs <;> cases hs <;> simp [stepsLeft]
  | committing version rest =>
    simp only [hpc] at hs
    obtain ⟨copy, -, hs⟩ := Option.map_eq_some_iff.mp hs
    cases hs
    simp [stepsLeft]
  | returned | crashed =>
    simp only [hpc] at hs
    cases hs

/-- Each migration begins with a statement that makes what is there in every later version. -/
theorem made_schema : ∀ j < 8, ∀ k ≤ 8, j < k → ∃ v s ss, MIGRATIONS[j]? = some (v, s :: ss) ∧ (schema k).made s = true := by
  intro j hj k hk hjk
  interval_cases j <;> interval_cases k <;> exact ⟨_, _, _, rfl, rfl⟩

/-- A process whose next statement is refused fails. -/
theorem statement_refused {version e : String} {s : Statement} {todo : List Statement}
    {rest : List (String × List Statement)} {copy : Database} (hpc : x.pc p = .executing version (s :: todo) rest)
    (hcopy : x.copy? p = some copy) (he : copy.exec s = .error e) (now : Int64) :
    x.statement p now = some (x.fail p version e, []) := by
  unfold Opening.statement
  simp only [hpc, hcopy, Option.map_some, he]

/-- A process that begins a migration that is recorded fails with its first statement. -/
theorem fails_of_recorded {x' : Opening ι} {now now' : Int64} {ev : List String} (h : Sound n db₀ x log k)
    (hlate : stillMissing x (p, .statement now) = false) (hs : x.statement p now = some (x', ev)) :
    ∃ x'' e, x'.statement p now' = some (x'', []) ∧ x''.pc p = .returned (.error e) := by
  have hfit := h.fits p
  cases hpc : x.pc p with
  | beginning version statements rest =>
    rw [hpc] at hfit
    obtain ⟨hv, j, hj, hrest⟩ := hfit
    obtain ⟨hj8, hm, -⟩ := getElem?_of_drop hrest
    have hjk : j < k := by
      simp only [stillMissing, hpc, recorded_iff hv h.le_last hm] at hlate
      simpa [Except.toOption] using hlate
    obtain ⟨v, s, ss, hm', hmade⟩ := made_schema j hj8 k h.le_last hjk
    cases hm.symm.trans hm'
    have hmade' : x.db.made s = true := by
      unfold Database.made Database.columns? at hmade ⊢
      rwa [hv.tables, hv.indexes]
    obtain ⟨e, he⟩ := Database.exec_made hmade'
    simp only [Opening.statement, hpc] at hs
    split at hs
    · cases hs
    · cases hs
      let x₁ : Opening ι := { x.goto p (.executing version (s :: ss) rest) with writer := some (p, x.db) }
      have hpc₁ : x₁.pc p = .executing version (s :: ss) rest := pc_goto x p _
      exact ⟨_, _, statement_refused hpc₁ (copy?_eq rfl) he now', pc_fail x₁ p version e⟩
  | _ =>
    simp only [stillMissing, hpc] at hlate
    cases hlate

end OpensAux

/-- In every run in which a migration is still not recorded when a process begins to write it: every process that returns
returns `Ok`, and then the file is of the last version, with each migration that was missing at the start committed once, its
effect on the rows made once, and each version recorded once. A process that is not done can go on, or waits for one that writes,
and has fewer steps left after each. A process that begins a migration recorded in between fails with its next statement. -/
theorem opens_migrate_when [DecidableEq ι] {n : Nat} {db₀ : Database} {x : Opening ι} {log : List String} (h₀ : OfVersion n db₀) (hn : n ≤ 8)
    (h : Run Opening.step (fun x a => stillMissing x a = true) (Opening.start db₀) x log) :
    (∀ p result, x.pc p = .returned result → result = .ok () ∧ AtVersion 8 x.db ∧ log = (MIGRATIONS.drop n).map (·.1) ∧
      (∀ table, table ≠ "schema_migrations" →
        x.db.rows table = onRowsAll table ((MIGRATIONS.drop n).flatMap (·.2)) (db₀.rows table)) ∧
      ∀ m ∈ MIGRATIONS, (x.db.rows "schema_migrations").countP (fun row => row.head? = some (.text m.1)) = 1) ∧
    (∀ p now, (x.pc p).isDone = false →
      (x.statement p now).isSome ∨ ∃ q, q ≠ p ∧ (x.copy? q).isSome ∧ (x.statement q now).isSome) ∧
    ∀ p now x' ev, x.statement p now = some (x', ev) →
      stepsLeft (x'.pc p) < stepsLeft (x.pc p) ∧
        (stillMissing x (p, .statement now) = false →
          ∀ now', ∃ x'' e, x'.statement p now' = some (x'', []) ∧ x''.pc p = .returned (.error e)) := by
  obtain ⟨k, hI⟩ := OpensAux.sound_of_run h₀ hn h
  refine ⟨fun p result hp => ?_, fun p now hd => OpensAux.statement_or_waits hI now hd,
    fun p now x' ev hs => ⟨OpensAux.stepsLeft_statement hs, fun hlate now' => OpensAux.fails_of_recorded hI hlate hs⟩⟩
  have hfit := hI.fits p
  rw [hp] at hfit
  obtain ⟨hr, rfl, hv⟩ := hfit
  have hall : MIGRATIONS.take 8 = MIGRATIONS := rfl
  refine ⟨hr, hv, ?_, fun table ht => ?_, fun m hm => ?_⟩
  · rw [hI.committed, hall]
  · rw [hI.rows table ht, hall]
  · have hcount : (x.db.rows "schema_migrations").countP (fun row => row.head? = some (.text m.1)) =
        (MIGRATIONS.map fun m => some (Value.text m.1)).count (some (.text m.1)) := by
      have hrec := hv.recorded
      rw [hall] at hrec
      rw [← hrec, List.count, List.countP_map]
      refine List.countP_congr fun row _ => ?_
      simp
    rw [hcount]
    refine List.count_eq_one_of_mem ?_ (List.mem_map_of_mem hm)
    decide

/-- The next statements of a process, so many of them. -/
def statements {ι : Type} (p : ι) (count : Nat) : List (ι × MigratorAction) := List.replicate count (p, .statement 0)

/-- A process crashes in its second migration, and another then opens the file. -/
def crashedOpen : List (Bool × MigratorAction) := statements false 9 ++ [(false, .crash)] ++ statements true 40

/-- The other returns `Ok`, with every version committed once. -/
theorem crashed_open_completed :
    ∃ (x : Opening Bool) (log : List String),
      Run Opening.step (fun x a => stillMissing x a = true) (Opening.start Database.empty) x log ∧ x.pc false = .crashed ∧
        x.pc true = .returned (.ok ()) ∧ log = MIGRATIONS.map (·.1) := by
  let x := after Opening.step stillMissing (Opening.start Database.empty) crashedOpen
  have h : Run Opening.step (fun x a => stillMissing x a = true) (Opening.start Database.empty) x.1 x.2 :=
    run_after (by decide +kernel)
  have hfile : OfVersion 0 Database.empty := Or.inr ⟨rfl, Database.wellFormed_empty, rfl, rfl⟩
  have hpc : x.1.pc true = .returned (.ok ()) := by decide +kernel
  obtain ⟨-, -, hlog, -⟩ := (opens_migrate_when hfile (Nat.zero_le 8) h).1 true _ hpc
  exact ⟨x.1, x.2, h, by decide +kernel, hpc, hlog⟩

/-- Two processes open a new file. Both find the first migration missing, and then one after the other begins it. -/
def racingOpens : List (Bool × MigratorAction) :=
  statements false 1 ++ statements true 2 ++ statements false 5 ++ statements true 2

/-- The second returns an error. -/
theorem second_open_fails :
    ∃ (x : Opening Bool) (log : List String),
      Run Opening.step (fun x a => always x a = true) (Opening.start Database.empty) x log ∧
        x.pc true = .returned (.error (.migrationFailed "0001_monitors" (.other "table monitors already exists"))) := by
  let x := after Opening.step always (Opening.start Database.empty) racingOpens
  have h : Run Opening.step (fun x a => always x a = true) (Opening.start Database.empty) x.1 x.2 :=
    run_after (by decide +kernel)
  exact ⟨x.1, x.2, h, by decide +kernel⟩

end Migrations

end Monitra
