import Mathlib.Data.List.Basic
import Mathlib.Data.List.Nodup

/-!
# Tables with primary keys

A table has one row for each of its keys. Rows are looked up by their key, changed in place, and
searched by what they contain, in the order in which the table lists its keys.
-/

namespace CodeClash.Keys

open Function

structure Table (κ α : Type) where
  rows : κ → Option α
  keys : List κ
  nodup : keys.Nodup
  listed : ∀ key, key ∈ keys ↔ (rows key).isSome

namespace Table

variable {κ α : Type}

def find (table : Table κ α) (key : κ) : Option α := table.rows key

def findMany (table : Table κ α) (test : α → Bool) : List (κ × α) :=
  table.keys.filterMap fun key => ((table.find key).filter test).map fun row => (key, row)

variable {table : Table κ α} {test : α → Bool}

variable {key : κ}

theorem mem_findMany {row : α} :
    (key, row) ∈ table.findMany test ↔ table.find key = some row ∧ test row = true := by
  simp only [findMany, List.mem_filterMap, Option.map_eq_some_iff, Option.filter_eq_some_iff,
    Prod.mk.injEq]
  constructor
  · rintro ⟨_, _, _, ⟨isRow, passes⟩, rfl, rfl⟩
    exact ⟨isRow, passes⟩
  · rintro ⟨isRow, passes⟩
    refine ⟨key, (table.listed key).mpr ?_, row, ⟨isRow, passes⟩, rfl, rfl⟩
    exact Option.isSome_iff_exists.mpr ⟨row, isRow⟩

theorem findMany_nodup : ((table.findMany test).map Prod.fst).Nodup := by
  refine List.Nodup.sublist ?_ table.nodup
  rw [findMany]
  generalize table.keys = keys
  induction keys with
  | nil => exact List.Sublist.refl _
  | cons key _ ih =>
    rw [List.filterMap_cons]
    cases (table.find key).filter test with
    | none => exact ih.cons key
    | some => exact ih.cons_cons key

theorem length_findMany : (table.findMany fun _ => true).length = table.keys.length := by
  have same : (table.findMany fun _ => true).map Prod.fst = table.keys := by
    rw [findMany, List.map_filterMap]
    refine (List.filterMap_congr ?_).trans List.filterMap_some
    intro key member
    rcases Option.isSome_iff_exists.mp ((table.listed key).mp member) with ⟨_, found⟩
    rw [find, found]
    rfl
  rw [← List.length_map Prod.fst, same]

theorem find_of_keys_eq_nil (empty : table.keys = []) (key : κ) : table.find key = none := by
  rw [← Option.not_isSome_iff_eq_none, find, ← table.listed key, empty]
  exact List.not_mem_nil

def empty : Table κ α where
  rows _ := none
  keys := []
  nodup := List.nodup_nil
  listed key := by simp

def restrict (table : Table κ α) (test : α → Bool) : Table κ α where
  rows key := (table.rows key).filter test
  keys := table.keys.filter fun key => ((table.rows key).filter test).isSome
  nodup := table.nodup.filter _
  listed key := by
    rw [List.mem_filter, table.listed key, and_iff_right_iff_imp]
    intro passes
    rcases Option.isSome_iff_exists.mp passes with ⟨row, found⟩
    rw [(Option.filter_eq_some_iff.mp found).1]
    rfl

variable [DecidableEq κ]

def modify (table : Table κ α) (key : κ) (change : α → α) : Table κ α where
  rows := update table.rows key ((table.rows key).map change)
  keys := table.keys
  nodup := table.nodup
  listed other := by
    rw [table.listed other]
    by_cases same : other = key
    · subst other
      simp
    · rw [update_of_ne same]

@[simp]
theorem find_modify_self (key : κ) (change : α → α) :
    (table.modify key change).find key = (table.find key).map change :=
  update_self _ _ _

theorem find_modify_of_ne {other : κ} (differs : other ≠ key) (change : α → α) :
    (table.modify key change).find other = table.find other :=
  update_of_ne differs _ _

def insert (table : Table κ α) (key : κ) (row : α) : Table κ α where
  rows := update table.rows key (some row)
  keys := table.keys.insert key
  nodup := table.nodup.insert
  listed other := by
    rw [List.mem_insert_iff, table.listed other]
    by_cases same : other = key
    · subst other
      simp
    · rw [update_of_ne same]
      simp [same]

theorem find_insert (key other : κ) (row : α) :
    (table.insert key row).find other = if other = key then some row else table.find other :=
  update_apply _ _ _ _

def erase (table : Table κ α) (key : κ) : Table κ α where
  rows := update table.rows key none
  keys := table.keys.erase key
  nodup := table.nodup.erase key
  listed other := by
    rw [table.nodup.mem_erase_iff, table.listed other]
    by_cases same : other = key
    · subst other
      simp
    · rw [update_of_ne same]
      simp [same]

theorem find_erase (key other : κ) :
    (table.erase key).find other = if other = key then none else table.find other :=
  update_apply _ _ _ _

def ofKeys (keys : List κ) (nodup : keys.Nodup) (row : κ → α) : Table κ α where
  rows key := if key ∈ keys then some (row key) else none
  keys := keys
  nodup := nodup
  listed key := by
    by_cases member : key ∈ keys <;> simp [member]

theorem find_ofKeys {keys : List κ} {nodup : keys.Nodup} {row : κ → α} {found : α} :
    (ofKeys keys nodup row).find key = some found ↔ key ∈ keys ∧ row key = found := by
  simp [ofKeys, find]

end Table

end CodeClash.Keys
