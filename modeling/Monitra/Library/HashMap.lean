import Mathlib.Data.List.AList

/-!
# Hash maps

A hash map is a finite map with distinct keys. Mathlib's association lists have the lookups, inserts and removals; added here
are the removal of the entries that fail a test, the update of an entry that may not be there yet, and the operations and the
entries read through a lookup.
-/

/-- A finite map with distinct keys. Its order of entries stands for the order of iteration, which no statement depends on. -/
abbrev HashMap (κ α : Type) : Type := AList (fun _ : κ => α)

namespace HashMap

variable {κ α : Type} [DecidableEq κ]

/-- The entries of a map are the pairs it looks up. -/
theorem mem_entries_iff {m : HashMap κ α} {k : κ} {v : α} :
    (⟨k, v⟩ : Sigma fun _ : κ => α) ∈ m.entries ↔ m.lookup k = some v := by
  rw [← AList.mem_lookup_iff, Option.mem_def]

/-- Keep the entries that pass the test. -/
def retain (m : HashMap κ α) (p : κ → α → Bool) : HashMap κ α :=
  ⟨m.entries.filter (fun e => p e.1 e.2), List.NodupKeys.sublist List.filter_sublist m.nodupKeys⟩

/-- Looking up after `retain`: the value of the key, if the pair passes the test. -/
theorem lookup_retain (m : HashMap κ α) (p : κ → α → Bool) (k : κ) :
    (retain m p).lookup k = (m.lookup k).filter (p k) := by
  refine Option.ext fun x => ?_
  rw [← mem_entries_iff, Option.filter_eq_some_iff, ← mem_entries_iff]
  simp [retain]

/-- Looking up after an insert. -/
theorem lookup_insert (m : HashMap κ α) (k k' : κ) (v : α) :
    (m.insert k v).lookup k' = if k' = k then some v else m.lookup k' := by
  split
  · rename_i h
    rw [h, AList.lookup_insert]
  · rename_i h
    exact AList.lookup_insert_ne h

/-- Looking up after a removal. -/
theorem lookup_erase (m : HashMap κ α) (k k' : κ) :
    (m.erase k).lookup k' = if k' = k then none else m.lookup k' := by
  split
  · rename_i h
    rw [h, AList.lookup_erase]
  · rename_i h
    exact AList.lookup_erase_ne h

@[simp] theorem lookup_empty (k : κ) : (∅ : HashMap κ α).lookup k = none := AList.lookup_empty k

/-- Update the value of a key, from a default when there is none. -/
def entryOr (m : HashMap κ α) (k : κ) (default : α) (f : α → α) : HashMap κ α := m.insert k (f ((m.lookup k).getD default))

/-- Looking up after an update. -/
theorem lookup_entryOr (m : HashMap κ α) (k k' : κ) (default : α) (f : α → α) :
    (m.entryOr k default f).lookup k' = if k' = k then some (f ((m.lookup k).getD default)) else m.lookup k' :=
  lookup_insert m k k' _

/-- A map that is filled from a list with distinct keys has the pairs of the list, and what it had of other keys. -/
theorem lookup_foldl_insert {k : κ} {v : α} : ∀ {pairs : List (κ × α)} (m : HashMap κ α), (pairs.map (·.1)).Nodup →
    ((pairs.foldl (fun m e => m.insert e.1 e.2) m).lookup k = some v ↔
      (k, v) ∈ pairs ∨ k ∉ pairs.map (·.1) ∧ m.lookup k = some v)
  | [], m, _ => by simp
  | (k', v') :: pairs, m, hnodup => by
    rw [List.map_cons, List.nodup_cons] at hnodup
    rw [List.foldl_cons, lookup_foldl_insert (m.insert k' v') hnodup.2, lookup_insert, List.map_cons, List.mem_cons, List.mem_cons]
    by_cases hk : k = k'
    · subst hk
      have hnot : (k, v) ∉ pairs := fun hmem => hnodup.1 (List.mem_map.mpr ⟨_, hmem, rfl⟩)
      simp only [hnot, hnodup.1, if_true, Prod.mk.injEq, Option.some.injEq]
      simp [eq_comm]
    · simp [hk]

end HashMap
