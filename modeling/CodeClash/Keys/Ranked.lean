import CodeClash.Keys.Table
import Mathlib.Data.Int.Notation
import Mathlib.Data.List.Sort
import Mathlib.Order.Basic

/-!
# Sorted sets

A sorted set gives each of its members a score. It is read in the order of the scores, and
members with the same score come in their own order.
-/

namespace CodeClash.Keys

abbrev Ranked (κ : Type) := Table κ ℤ

namespace Ranked

variable {κ : Type} [LinearOrder κ]

def Precedes (first second : κ × ℤ) : Prop :=
  first.2 < second.2 ∨ first.2 = second.2 ∧ first.1 ≤ second.1

instance : DecidableRel (@Precedes κ _) := fun first second =>
  inferInstanceAs (Decidable (first.2 < second.2 ∨ first.2 = second.2 ∧ first.1 ≤ second.1))

def ascending (members : Ranked κ) : List (κ × ℤ) :=
  (members.findMany fun _ => true).insertionSort Precedes

def rangeByScore (members : Ranked κ) (lowest highest : ℤ) : List κ :=
  (members.ascending.filter fun entry => lowest ≤ entry.2 && entry.2 ≤ highest).map Prod.fst

theorem ascending_nodup (members : Ranked κ) : ((ascending members).map Prod.fst).Nodup := by
  have same := (List.perm_insertionSort Precedes (members.findMany fun _ => true)).map Prod.fst
  exact same.nodup_iff.mpr Table.findMany_nodup

instance : Std.Total (@Precedes κ _) where
  total first second := by
    rcases lt_trichotomy first.2 second.2 with less | same | less
    · exact Or.inl (Or.inl less)
    · rcases le_total first.1 second.1 with le | le
      · exact Or.inl (Or.inr ⟨same, le⟩)
      · exact Or.inr (Or.inr ⟨same.symm, le⟩)
    · exact Or.inr (Or.inl less)

instance : IsTrans (κ × ℤ) Precedes where
  trans first second third := by
    rintro (less | ⟨same, le⟩) (lessThird | ⟨sameThird, leThird⟩)
    · exact Or.inl (less.trans lessThird)
    · exact Or.inl (less.trans_eq sameThird)
    · exact Or.inl (same.trans_lt lessThird)
    · exact Or.inr ⟨same.trans sameThird, le.trans leThird⟩

theorem ascending_ordered (members : Ranked κ) :
    (ascending members).Pairwise fun first second => first.2 ≤ second.2 := by
  refine (List.pairwise_insertionSort Precedes _).imp ?_
  rintro first second (less | ⟨same, _⟩)
  · exact less.le
  · exact same.le

variable {members : Ranked κ} {member : κ}

theorem mem_ascending {score : ℤ} :
    (member, score) ∈ members.ascending ↔ members.find member = some score := by
  rw [ascending, List.mem_insertionSort, Table.mem_findMany, and_iff_left rfl]

theorem mem_keys_ascending :
    member ∈ members.ascending.map Prod.fst ↔ (members.find member).isSome := by
  simp only [List.mem_map, Prod.exists, exists_and_right, exists_eq_right, mem_ascending,
    Option.isSome_iff_exists]

theorem mem_rangeByScore {lowest highest : ℤ} :
    member ∈ members.rangeByScore lowest highest ↔
      ∃ score, members.find member = some score ∧ lowest ≤ score ∧ score ≤ highest := by
  simp only [rangeByScore, List.mem_map, List.mem_filter, Prod.exists, exists_and_right,
    exists_eq_right, mem_ascending, Bool.and_eq_true, decide_eq_true_eq]

/-- A key holds a sorted set as long as the set has members. -/
def scoreOf (set : Option (Ranked κ)) (member : κ) : Option ℤ :=
  set.bind fun members => members.find member

def zCard (set : Option (Ranked κ)) : ℕ := (set.map fun members => members.keys.length).getD 0

def zRemRangeByScore (lowest highest : ℤ) (set : Option (Ranked κ)) : Option (Ranked κ) :=
  (set.map fun members => members.restrict fun score => !(lowest ≤ score && score ≤ highest)).filter
    fun members => members.keys ≠ []

def zAdd (member : κ) (score : ℤ) (set : Option (Ranked κ)) : Option (Ranked κ) :=
  some ((set.getD Table.empty).insert member score)

def zRange (set : Option (Ranked κ)) (start stop : ℕ) : List κ :=
  (((set.map ascending).getD []).map Prod.fst |>.take (stop + 1)).drop start

variable {set : Option (Ranked κ)}

omit [LinearOrder κ] in
theorem scoreOf_zRemRangeByScore (lowest highest : ℤ) (member : κ) :
    scoreOf (zRemRangeByScore lowest highest set) member =
      (scoreOf set member).filter fun score => !(lowest ≤ score && score ≤ highest) := by
  cases set with
  | none => rfl
  | some members =>
    rw [zRemRangeByScore, Option.map_some, Option.filter_some]
    split_ifs with some?
    · rfl
    · have empty : (members.restrict fun score =>
        !(decide (lowest ≤ score) && decide (score ≤ highest))).keys = [] := by simpa using some?
      exact (Table.find_of_keys_eq_nil empty member).symm

theorem scoreOf_zAdd (member other : κ) (score : ℤ) :
    scoreOf (zAdd member score set) other =
      if other = member then some score else scoreOf set other := by
  cases set with
  | none => exact Table.find_insert _ _ _
  | some => exact Table.find_insert _ _ _

omit [LinearOrder κ] in
theorem zCard_eq_length {entries : List (κ × ℤ)} (distinct : (entries.map Prod.fst).Nodup)
    (shown : ∀ member score, scoreOf set member = some score ↔ (member, score) ∈ entries) :
    zCard set = entries.length := by
  cases set with
  | none =>
    have empty : entries = [] := by
      rw [List.eq_nil_iff_forall_not_mem]
      rintro ⟨member, score⟩ listed
      cases (shown member score).mpr listed
    rw [empty]
    rfl
  | some members =>
    have same : members.keys.Perm (entries.map Prod.fst) := by
      rw [List.perm_ext_iff_of_nodup members.nodup distinct]
      intro member
      rw [members.listed member, Option.isSome_iff_exists, List.mem_map]
      constructor
      · rintro ⟨score, found⟩
        exact ⟨(member, score), (shown member score).mp found, rfl⟩
      · rintro ⟨⟨_, score⟩, listed, rfl⟩
        exact ⟨score, (shown _ score).mpr listed⟩
    have lengths := same.length_eq
    rw [List.length_map] at lengths
    exact lengths

theorem zRange_first_eq_nil : zRange set 0 0 = [] ↔ zCard set = 0 := by
  cases set with
  | none => simp [zRange, zCard]
  | some members =>
    have lengths : (ascending members).length = members.keys.length := by
      rw [ascending, List.length_insertionSort, Table.length_findMany]
    rw [← List.length_eq_zero_iff, zRange, zCard, List.drop_zero, List.length_take,
      List.length_map, Option.map_some, Option.getD_some, Option.map_some, Option.getD_some,
      lengths]
    omega

end Ranked

end CodeClash.Keys
