import CodeClash.Pairing.Scan

/-!
# Greedy pairing

A list is scanned from the front, and every element that is not taken yet is paired with the first
later element that is not taken either and is compatible with it. `IsGreedy` says what such a
pairing is without computing it.
-/

namespace CodeClash.Pairing

section Greedy

variable {α κ : Type} [DecidableEq κ] (key : α → κ) (compatible : α → α → Prop)
  [DecidableRel compatible]

def partner? (taken : List κ) (x : α) (later : List α) : Option α :=
  later.find? fun y => key y ∉ taken ∧ compatible x y

def greedy (taken : List κ) : List α → List (α × α)
  | [] => []
  | x :: later =>
    if key x ∈ taken then greedy taken later
    else
      match partner? key compatible taken x later with
      | none => greedy taken later
      | some y => (x, y) :: greedy (key x :: key y :: taken) later

/-- Disjoint ordered pairs of compatible elements, in which an element that is free when its turn
comes is paired with the first free compatible element after it. -/
structure IsGreedy (items : List α) (pairs : List (α × α)) : Prop where
  disjoint : (keys key pairs).Nodup
  ordered : ∀ x y, (x, y) ∈ pairs → [x, y].Sublist items
  suited : ∀ x y, (x, y) ∈ pairs → compatible x y
  first : ∀ before x later, items = before ++ x :: later →
    key x ∉ keys key (madeIn key before pairs) →
      ∀ y, (x, y) ∈ pairs ↔
        partner? key compatible (keys key (madeIn key before pairs)) x later = some y

end Greedy

section Properties

variable {α κ : Type} [DecidableEq κ] {key : α → κ} {compatible : α → α → Prop}
  [DecidableRel compatible] {pairs : List (α × α)} {taken : List κ} {x y : α}
  {later items : List α}

theorem partner?_eq_some (found : partner? key compatible taken x later = some y) :
    y ∈ later ∧ key y ∉ taken ∧ compatible x y := by
  have satisfied := List.find?_some found
  simp only [decide_eq_true_eq] at satisfied
  exact ⟨List.mem_of_find?_eq_some found, satisfied⟩

theorem partner?_eq_none (none : partner? key compatible taken x later = none)
    (present : y ∈ later) (free : key y ∉ taken) : ¬compatible x y := by
  have excluded := List.find?_eq_none.mp none y present
  simp only [decide_eq_true_eq, not_and] at excluded
  exact excluded free

theorem partner?_congr_compatible {compatible' : α → α → Prop} [DecidableRel compatible']
    (same : ∀ y ∈ later, compatible x y ↔ compatible' x y) :
    partner? key compatible taken x later = partner? key compatible' taken x later := by
  induction later with
  | nil => rfl
  | cons z _ ih =>
    have sameLater := ih fun y present => same y (List.mem_cons_of_mem z present)
    simp only [partner?] at sameLater ⊢
    rw [List.find?_cons, List.find?_cons, sameLater]
    simp only [same z List.mem_cons_self]

variable (key compatible) in
def firstPartner : Chooser key where
  choose := partner? key compatible
  mem_of_choose found := (partner?_eq_some found).1
  free_of_choose found := (partner?_eq_some found).2.1
  congr _ _ same := by simp only [partner?, same]

theorem greedy_eq_scan :
    greedy key compatible taken items = scan (firstPartner key compatible) taken items := by
  induction items generalizing taken with
  | nil => rfl
  | cons _ _ ih =>
    simp only [greedy, scan, ih]
    rfl

theorem greedy_isGreedy (distinct : (items.map key).Nodup) :
    IsGreedy key compatible items (greedy key compatible [] items) := by
  have isScan : IsScan (firstPartner key compatible) items _ := scan_isScan distinct
  rw [greedy_eq_scan]
  refine ⟨isScan.disjoint, isScan.ordered, ?_, isScan.first⟩
  intro _ _ made
  rcases scan_chosen made with ⟨_, _, chosen⟩
  exact (partner?_eq_some chosen).2.2

/-- Two elements that stay free are not compatible. -/
theorem IsGreedy.maximal (greedy : IsGreedy key compatible items pairs)
    (ordered : [x, y].Sublist items) (xFree : key x ∉ keys key pairs)
    (yFree : key y ∉ keys key pairs) : ¬compatible x y := by
  have isScan : IsScan (firstPartner key compatible) items pairs :=
    ⟨greedy.disjoint, greedy.ordered, greedy.first⟩
  rcases isScan.none_of_free ordered xFree yFree with ⟨_, _, present, free, none⟩
  exact partner?_eq_none none present free

end Properties

end CodeClash.Pairing
