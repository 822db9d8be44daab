import Mathlib.Data.Int.Notation
import Mathlib.Data.List.Basic
import Mathlib.Data.List.Induction
import Mathlib.Order.Basic

/-!
# Sliding windows

A limiter is exact if a call is allowed exactly when fewer calls than the limit were allowed in the
window that ends with it. The windows of an exact limiter never hold more allowed calls than the
limit, and an exact limiter has no choice: the moments determine all decisions.
-/

namespace CodeClash.Window

/-- Every element of a list has a property that may depend on the elements before it. -/
def Throughout {α : Type} (Holds : List α → α → Prop) (list : List α) : Prop :=
  ∀ before item after, list = before ++ item :: after → Holds before item

variable {α : Type}

theorem throughout_nil {Holds : List α → α → Prop} : Throughout Holds [] := by
  intro _ _ _ split
  simp at split

theorem throughout_append_singleton {Holds : List α → α → Prop} {list : List α}
    {last : α} : Throughout Holds (list ++ [last]) ↔ Throughout Holds list ∧ Holds list last := by
  constructor
  · intro holds
    refine ⟨?_, holds list last [] rfl⟩
    rintro before item after rfl
    exact holds before item (after ++ [last]) (by simp)
  · rintro ⟨holds, holdsLast⟩ before item after split
    rcases List.eq_nil_or_concat' after with rfl | ⟨rest, _, rfl⟩
    · rcases List.append_inj' split rfl with ⟨rfl, same⟩
      cases same
      exact holdsLast
    · rw [← List.cons_append, ← List.append_assoc] at split
      exact holds before item rest (List.append_inj' split rfl).1

structure Decision where
  time : ℤ
  allowed : Bool
deriving DecidableEq, Repr

/-- The moment is in the window of a width that ends at another. -/
def Within (width moment time : ℤ) : Prop := moment - width < time ∧ time ≤ moment

instance (width moment time : ℤ) : Decidable (Within width moment time) :=
  inferInstanceAs (Decidable (_ ∧ _))

def allowedIn (width moment : ℤ) (decisions : List Decision) : ℕ :=
  decisions.countP fun decision => decision.allowed && decide (Within width moment decision.time)

/-- A call is allowed exactly if the window that ends with it has room. -/
def Exact (limit width : ℤ) (decisions : List Decision) : Prop :=
  Throughout (fun before decision =>
    decision.allowed = true ↔ (allowedIn width decision.time before : ℤ) < limit) decisions

variable {limit width : ℤ} {decisions : List Decision} {decision : Decision}

theorem allowedIn_append_singleton (moment : ℤ) :
    allowedIn width moment (decisions ++ [decision]) = allowedIn width moment decisions +
      if decision.allowed = true ∧ Within width moment decision.time then 1 else 0 := by
  rw [allowedIn, List.countP_append, List.countP_singleton]
  simp [allowedIn]

theorem allowedIn_le_of_le {earlier later : ℤ} (le : earlier ≤ later)
    (past : ∀ decision ∈ decisions, decision.time ≤ earlier) :
    allowedIn width later decisions ≤ allowedIn width earlier decisions := by
  refine List.countP_mono_left ?_
  intro decision member counted
  simp only [Bool.and_eq_true, decide_eq_true_eq] at counted ⊢
  have recent := counted.2.1
  exact ⟨counted.1, by omega, past decision member⟩

/-- No window holds more allowed calls than the limit. -/
theorem Exact.allowedIn_le (exact : Exact limit width decisions)
    (ordered : (decisions.map Decision.time).Pairwise (· ≤ ·)) (nonneg : 0 ≤ limit) (moment : ℤ) :
    (allowedIn width moment decisions : ℤ) ≤ limit := by
  induction decisions using List.reverseRecOn with
  | nil => exact nonneg
  | append_singleton decisions decision ih =>
    rcases throughout_append_singleton.mp exact with ⟨earlier, last⟩
    rw [List.map_append, List.pairwise_append] at ordered
    have bounded := ih earlier ordered.1
    rw [allowedIn_append_singleton]
    split_ifs with counted
    · have past : ∀ other ∈ decisions, other.time ≤ decision.time := by
        intro _ member
        exact ordered.2.2 _ (List.mem_map_of_mem member) _ (List.mem_singleton_self _)
      have fewer := @allowedIn_le_of_le width _ _ _ counted.2.2 past
      have room := last.mp counted.1
      omega
    · exact bounded

/-- The moments determine the decisions. -/
theorem Exact.unique {others : List Decision} (exact : Exact limit width decisions)
    (otherExact : Exact limit width others)
    (times : decisions.map Decision.time = others.map Decision.time) : decisions = others := by
  induction decisions using List.reverseRecOn generalizing others with
  | nil => exact (List.map_eq_nil_iff.mp times.symm).symm
  | append_singleton _ decision ih =>
    rcases List.eq_nil_or_concat' others with rfl | ⟨_, other, rfl⟩
    · simp at times
    · rw [List.map_append, List.map_append] at times
      rcases List.append_inj' times rfl with ⟨earlierTimes, lastTime⟩
      rcases throughout_append_singleton.mp exact with ⟨earlier, last⟩
      rcases throughout_append_singleton.mp otherExact with ⟨otherEarlier, otherLast⟩
      obtain rfl := ih earlier otherEarlier earlierTimes
      have sameTime : decision.time = other.time := (List.cons.inj lastTime).1
      rw [sameTime] at last
      have sameAllowed : decision.allowed = other.allowed :=
        Bool.eq_iff_iff.mpr (last.trans otherLast.symm)
      cases decision
      cases other
      simp_all

end CodeClash.Window
