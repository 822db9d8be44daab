import CodeClash.Pairing.Scan
import Mathlib.Data.List.Induction
import Mathlib.Order.Lattice

/-!
# Pairing with the nearest partner

A loop over a list keeps the best element so far and replaces it only by one that costs less. It
ends with an element of least cost, and the first of these. As a rule to choose partners in a scan
it gives every element the nearest partner that is free when its turn comes.
-/

namespace CodeClash.Pairing

section Best

variable {α ι : Type} [LinearOrder ι] (admissible : α → Prop) [DecidablePred admissible]
  (cost : α → ι)

/-- Keep the best element so far unless the next one is admissible and costs less. -/
def better (best : Option α) (item : α) : Option α :=
  if admissible item ∧ best.all (fun best => cost item < cost best) then some item else best

def cheapest (items : List α) : Option α := items.foldl (better admissible cost) none

/-- The best element of a list, or none if no element is admissible. -/
def IsBest (items : List α) : Option α → Prop
  | none => ∀ item ∈ items, ¬admissible item
  | some best => best ∈ items ∧ admissible best ∧
      ∀ item ∈ items, admissible item → cost best ≤ cost item

variable {admissible cost} {items : List α} {best : Option α}

theorem IsBest.better (isBest : IsBest admissible cost items best) (item : α) :
    IsBest admissible cost (items ++ [item]) (better admissible cost best item) := by
  rw [Pairing.better]
  cases best with
  | none =>
    split_ifs with taken
    · refine ⟨by simp, taken.1, ?_⟩
      intro other member isAdmissible
      rcases List.mem_append.mp member with earlier | last
      · exact absurd isAdmissible (isBest other earlier)
      · rw [List.mem_singleton.mp last]
    · intro other member
      rcases List.mem_append.mp member with earlier | last
      · exact isBest other earlier
      · rw [List.mem_singleton.mp last]
        exact fun isAdmissible => taken ⟨isAdmissible, rfl⟩
  | some =>
    rcases isBest with ⟨present, isAdmissible, least⟩
    simp only [Option.all_some, decide_eq_true_eq]
    split_ifs with cheaper
    · refine ⟨by simp, cheaper.1, ?_⟩
      intro other member otherAdmissible
      rcases List.mem_append.mp member with earlier | last
      · exact (le_of_lt cheaper.2).trans (least other earlier otherAdmissible)
      · rw [List.mem_singleton.mp last]
    · refine ⟨List.mem_append_left _ present, isAdmissible, ?_⟩
      intro other member otherAdmissible
      rcases List.mem_append.mp member with earlier | last
      · exact least other earlier otherAdmissible
      · rw [List.mem_singleton.mp last] at otherAdmissible ⊢
        exact not_lt.mp fun less => cheaper ⟨otherAdmissible, less⟩

theorem IsBest.closer {item best : α} (isBest : IsBest admissible cost items (some best))
    (isAdmissible : admissible item) :
    IsBest admissible cost (items ++ [item])
      (some (if cost item < cost best then item else best)) := by
  have next := isBest.better item
  simp only [Pairing.better, isAdmissible, Option.all_some, decide_eq_true_eq, true_and] at next
  split_ifs at next ⊢ with less
  · exact next
  · exact next

theorem cheapest_isBest (items : List α) :
    IsBest admissible cost items (cheapest admissible cost items) := by
  induction items using List.reverseRecOn with
  | nil => exact fun item member => absurd member List.not_mem_nil
  | append_singleton _ item ih =>
    rw [cheapest, List.foldl_append, List.foldl_cons, List.foldl_nil]
    exact ih.better item

end Best

section Nearest

variable {α κ ι : Type} [DecidableEq κ] [LinearOrder ι] (key : α → κ) (compatible : α → α → Prop)
  [DecidableRel compatible] (distance : α → α → ι)

def nearestPartner : Chooser key where
  choose taken x later :=
    cheapest (fun y => key y ∉ taken ∧ compatible x y) (distance x) later
  mem_of_choose {taken x later y} found := by
    have isBest := @cheapest_isBest _ _ _ (fun y => key y ∉ taken ∧ compatible x y) _ (distance x)
      later
    rw [found] at isBest
    exact isBest.1
  free_of_choose {taken x later y} found := by
    have isBest := @cheapest_isBest _ _ _ (fun y => key y ∉ taken ∧ compatible x y) _ (distance x)
      later
    rw [found] at isBest
    exact isBest.2.1.1
  congr x later same := by simp only [same]

variable {key compatible distance} {taken : List κ} {x : α} {later : List α}

theorem nearestPartner_isBest :
    IsBest (fun y => key y ∉ taken ∧ compatible x y) (distance x) later
      ((nearestPartner key compatible distance).choose taken x later) :=
  cheapest_isBest later

end Nearest

end CodeClash.Pairing
