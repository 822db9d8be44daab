import Mathlib.Data.List.Basic
import Mathlib.Data.List.Nodup
import Mathlib.Data.List.Pairwise
import Mathlib.Tactic.Common

/-!
# Pairing by a scan

A list is scanned from the front, and for every element that is not taken yet a partner is chosen
among the later elements that are not taken either, by any rule for which it only matters which keys
are taken. `IsScan` says what such a pairing is without computing it.
-/

namespace CodeClash.Pairing

section Scan

variable {α κ : Type}

/-- A rule that chooses a free partner for an element among the later ones. -/
structure Chooser (key : α → κ) where
  choose : List κ → α → List α → Option α
  mem_of_choose : ∀ {taken x later y}, choose taken x later = some y → y ∈ later
  free_of_choose : ∀ {taken x later y}, choose taken x later = some y → key y ∉ taken
  congr : ∀ {taken taken' : List κ} (x later), (∀ k, k ∈ taken ↔ k ∈ taken') →
    choose taken x later = choose taken' x later

variable (key : α → κ)

def keys (pairs : List (α × α)) : List κ := pairs.flatMap fun pair => [key pair.1, key pair.2]

variable [DecidableEq κ]

def madeIn (before : List α) (pairs : List (α × α)) : List (α × α) :=
  pairs.filter fun pair => key pair.1 ∈ before.map key

variable {key}

def scan (chooser : Chooser key) (taken : List κ) : List α → List (α × α)
  | [] => []
  | x :: later =>
    if key x ∈ taken then scan chooser taken later
    else
      match chooser.choose taken x later with
      | none => scan chooser taken later
      | some y => (x, y) :: scan chooser (key x :: key y :: taken) later

/-- Disjoint ordered pairs, in which an element that is free when its turn comes is paired with the
partner that is chosen then. -/
structure IsScan (chooser : Chooser key) (items : List α) (pairs : List (α × α)) : Prop where
  disjoint : (keys key pairs).Nodup
  ordered : ∀ x y, (x, y) ∈ pairs → [x, y].Sublist items
  first : ∀ before x later, items = before ++ x :: later →
    key x ∉ keys key (madeIn key before pairs) →
      ∀ y, (x, y) ∈ pairs ↔
        chooser.choose (keys key (madeIn key before pairs)) x later = some y

end Scan

section Properties

variable {α κ : Type} {key : α → κ} {pairs : List (α × α)}

@[simp]
theorem keys_nil : keys key ([] : List (α × α)) = [] := rfl

@[simp]
theorem keys_cons (pair : α × α) :
    keys key (pair :: pairs) = key pair.1 :: key pair.2 :: keys key pairs := rfl

variable {k : κ} {before : List α}

theorem mem_keys :
    k ∈ keys key pairs ↔ ∃ pair ∈ pairs, k = key pair.1 ∨ k = key pair.2 := by
  simp [keys]

variable [DecidableEq κ] {chooser : Chooser key} {taken : List κ} {x y : α}
  {later items : List α}

@[elab_as_elim]
theorem scan_induction (chooser : Chooser key) {motive : List κ → List α → Prop}
    (nil : ∀ taken, motive taken [])
    (skipped : ∀ taken x later, scan chooser taken (x :: later) = scan chooser taken later →
      motive taken later → motive taken (x :: later))
    (paired : ∀ taken x later y, key x ∉ taken → chooser.choose taken x later = some y →
      scan chooser taken (x :: later) = (x, y) :: scan chooser (key x :: key y :: taken) later →
        motive (key x :: key y :: taken) later → motive taken (x :: later))
    (taken : List κ) (items : List α) : motive taken items := by
  induction items generalizing taken with
  | nil => exact nil taken
  | cons x later ih =>
    by_cases isTaken : key x ∈ taken
    · exact skipped taken x later (by simp [scan, isTaken]) (ih taken)
    · cases found : chooser.choose taken x later with
      | none => exact skipped taken x later (by simp [scan, isTaken, found]) (ih taken)
      | some y =>
        exact paired taken x later y isTaken found (by simp [scan, isTaken, found]) (ih _)

theorem scan_ordered (made : (x, y) ∈ scan chooser taken items) : [x, y].Sublist items := by
  induction taken, items using scan_induction chooser with
  | nil => cases made
  | skipped _ z _ same ih =>
    rw [same] at made
    exact (ih made).cons z
  | paired _ z _ _ _ found same ih =>
    rw [same] at made
    rcases List.mem_cons.mp made with this | made
    · cases this
      exact (List.singleton_sublist.mpr (chooser.mem_of_choose found)).cons_cons x
    · exact (ih made).cons z

theorem scan_chosen (made : (x, y) ∈ scan chooser taken items) :
    ∃ taken later, chooser.choose taken x later = some y := by
  induction taken, items using scan_induction chooser with
  | nil => cases made
  | skipped _ _ _ same ih =>
    rw [same] at made
    exact ih made
  | paired taken _ later _ _ found same ih =>
    rw [same] at made
    rcases List.mem_cons.mp made with this | made
    · cases this
      exact ⟨taken, later, found⟩
    · exact ih made

theorem keys_scan_free (paired : k ∈ keys key (scan chooser taken items)) :
    k ∉ taken := by
  induction taken, items using scan_induction chooser with
  | nil => cases paired
  | skipped _ _ _ same ih =>
    rw [same] at paired
    exact ih paired
  | paired _ _ _ _ free found same ih =>
    rw [same, keys_cons, List.mem_cons, List.mem_cons] at paired
    rcases paired with rfl | rfl | paired
    · exact free
    · exact chooser.free_of_choose found
    · intro isTaken
      exact ih paired (List.mem_cons_of_mem _ (List.mem_cons_of_mem _ isTaken))

theorem keys_scan_nodup (distinct : (items.map key).Nodup) :
    (keys key (scan chooser taken items)).Nodup := by
  induction taken, items using scan_induction chooser with
  | nil => exact List.nodup_nil
  | skipped _ _ _ same ih =>
    rw [same]
    exact ih (List.nodup_cons.mp distinct).2
  | paired _ _ later w _ found same ih =>
    rw [List.map_cons, List.nodup_cons] at distinct
    rcases distinct with ⟨fresh, distinctLater⟩
    have partnerLater : key w ∈ later.map key :=
      List.mem_map_of_mem (chooser.mem_of_choose found)
    rw [same, keys_cons, List.nodup_cons, List.nodup_cons]
    refine ⟨?_, ?_, ih distinctLater⟩
    · intro repeated
      rcases List.mem_cons.mp repeated with this | paired
      · rw [this] at fresh
        exact fresh partnerLater
      · exact keys_scan_free paired (by simp)
    · intro paired
      exact keys_scan_free paired (by simp)

theorem madeIn_cons_of_fresh {z : α} (fresh : key z ∉ items.map key) :
    madeIn key (z :: before) (scan chooser taken items) =
      madeIn key before (scan chooser taken items) := by
  apply List.filter_congr
  rintro ⟨x, _⟩ made
  have present : key x ∈ items.map key :=
    List.mem_map_of_mem ((scan_ordered made).subset (by simp))
  have differs : key x ≠ key z := by
    intro same
    rw [same] at present
    exact fresh present
  simp [differs]

theorem madeIn_nil : madeIn key [] pairs = [] := by
  simp [madeIn]

theorem madeIn_cons_paired {z w : α} (fresh : key z ∉ items.map key) :
    madeIn key (z :: before) ((z, w) :: scan chooser taken items) =
      (z, w) :: madeIn key before (scan chooser taken items) := by
  rw [madeIn, List.filter_cons_of_pos (by simp), ← madeIn, madeIn_cons_of_fresh fresh]

theorem scan_head (fresh : key x ∉ later.map key) (untaken : key x ∉ taken) :
    (x, y) ∈ scan chooser taken (x :: later) ↔ chooser.choose taken x later = some y := by
  have notFirst (taken : List κ) (y : α) : (x, y) ∉ scan chooser taken later := by
    intro made
    exact fresh (List.mem_map_of_mem ((scan_ordered made).subset (by simp)))
  cases found : chooser.choose taken x later with
  | none => simp [scan, untaken, found, notFirst]
  | some => simp [scan, untaken, found, notFirst, eq_comm]

theorem scan_first (distinct : (items.map key).Nodup)
    (split : items = before ++ x :: later) (untaken : key x ∉ taken)
    (free : key x ∉ keys key (madeIn key before (scan chooser taken items))) :
    (x, y) ∈ scan chooser taken items ↔
      chooser.choose (keys key (madeIn key before (scan chooser taken items)) ++ taken) x later =
        some y := by
  induction taken, items using scan_induction chooser generalizing before with
  | nil => simp at split
  | skipped _ _ _ same ih =>
    rw [List.map_cons, List.nodup_cons] at distinct
    rcases distinct with ⟨fresh, distinctRest⟩
    cases before with
    | nil =>
      cases split
      rw [madeIn_nil, keys_nil, List.nil_append]
      exact scan_head fresh untaken
    | cons =>
      cases split
      rw [same, madeIn_cons_of_fresh fresh] at free ⊢
      exact ih distinctRest rfl untaken free
  | paired taken z _ w _ _ same ih =>
    rw [List.map_cons, List.nodup_cons] at distinct
    rcases distinct with ⟨fresh, distinctRest⟩
    cases before with
    | nil =>
      cases split
      rw [madeIn_nil, keys_nil, List.nil_append]
      exact scan_head fresh untaken
    | cons =>
      cases split
      rw [same, madeIn_cons_paired fresh, keys_cons] at free ⊢
      simp only [List.mem_cons, not_or] at free
      rcases free with ⟨notZ, notW, freeRest⟩
      have notTaken : key x ∉ key z :: key w :: taken := by
        simp [notZ, notW, untaken]
      have notThis : (x, y) ≠ (z, w) := by
        intro this
        cases this
        exact notZ rfl
      rw [List.mem_cons, or_iff_right notThis, ih distinctRest rfl notTaken freeRest,
        chooser.congr]
      intro _
      simp only [List.mem_append, List.mem_cons]
      tauto

/-- The scan of a list with distinct keys computes such a pairing. -/
theorem scan_isScan (distinct : (items.map key).Nodup) :
    IsScan chooser items (scan chooser [] items) where
  disjoint := keys_scan_nodup distinct
  ordered _ _ made := scan_ordered made
  first before x later split free y := by
    have first := scan_first (y := y) distinct split List.not_mem_nil free
    rwa [List.append_nil] at first

theorem mem_keys_of_madeIn
    (paired : k ∈ keys key (madeIn key before pairs)) : k ∈ keys key pairs := by
  rcases mem_keys.mp paired with ⟨pair, inBefore, isKey⟩
  exact mem_keys.mpr ⟨pair, List.mem_of_mem_filter inBefore, isKey⟩

theorem pair_sublist_of_mem (hasX : x ∈ items) (hasY : y ∈ items) (differs : x ≠ y) :
    [x, y].Sublist items ∨ [y, x].Sublist items := by
  rcases List.append_of_mem hasX with ⟨before, later, rfl⟩
  rcases List.mem_append.mp hasY with inBefore | inRest
  · right
    have front : [y].Sublist before := List.singleton_sublist.mpr inBefore
    have back : [x].Sublist (x :: later) := List.singleton_sublist.mpr (by simp)
    exact front.append back
  · left
    have inLater : y ∈ later := (List.mem_cons.mp inRest).resolve_left (Ne.symm differs)
    have back : [x, y].Sublist (x :: later) := (List.singleton_sublist.mpr inLater).cons_cons x
    exact back.trans (List.sublist_append_right before _)

omit [DecidableEq κ] in
theorem eq_of_shared_key {pair other : α × α} (disjoint : (keys key pairs).Nodup)
    (member : pair ∈ pairs) (otherMember : other ∈ pairs) (isKey : k ∈ [key pair.1, key pair.2])
    (isOtherKey : k ∈ [key other.1, key other.2]) : pair = other := by
  by_contra differs
  have symmetric : Std.Symm (Function.onFun List.Disjoint fun pair : α × α =>
      [key pair.1, key pair.2]) := ⟨fun _ _ apart _ inFirst inSecond => apart inSecond inFirst⟩
  exact (List.nodup_flatMap.mp disjoint).2.forall member otherMember differs isKey isOtherKey

theorem IsScan.free_of_paired (isScan : IsScan chooser items pairs)
    (distinct : (items.map key).Nodup) (split : items = before ++ x :: later)
    (paired : (x, y) ∈ pairs) : key x ∉ keys key (madeIn key before pairs) := by
  intro taken
  rcases mem_keys.mp taken with ⟨pair, inBefore, isKey⟩
  rw [madeIn, List.mem_filter, decide_eq_true_eq] at inBefore
  rcases inBefore with ⟨member, inBefore⟩
  have shared : key x ∈ [key pair.1, key pair.2] := by simpa using isKey
  obtain rfl := eq_of_shared_key isScan.disjoint paired member List.mem_cons_self shared
  rw [split, List.map_append, List.map_cons, List.nodup_append] at distinct
  exact distinct.2.2 _ inBefore _ List.mem_cons_self rfl

theorem IsScan.none_of_free (isScan : IsScan chooser items pairs) (ordered : [x, y].Sublist items)
    (xFree : key x ∉ keys key pairs) (yFree : key y ∉ keys key pairs) :
    ∃ taken later, y ∈ later ∧ key y ∉ taken ∧ chooser.choose taken x later = none := by
  have split : ∃ before later, items = before ++ x :: later ∧ y ∈ later := by
    rcases List.cons_sublist_iff.mp ordered with ⟨_, back, rfl, inFront, inBack⟩
    rcases List.append_of_mem inFront with ⟨before, between, rfl⟩
    refine ⟨before, between ++ back, by simp, ?_⟩
    exact List.mem_append_right between (List.singleton_sublist.mp inBack)
  rcases split with ⟨before, later, split, present⟩
  refine ⟨keys key (madeIn key before pairs), later, present,
    fun paired => yFree (mem_keys_of_madeIn paired), ?_⟩
  cases found : chooser.choose (keys key (madeIn key before pairs)) x later with
  | none => rfl
  | some partner =>
    have paired := (isScan.first before x later split
      (fun paired => xFree (mem_keys_of_madeIn paired)) partner).mpr found
    exact absurd (mem_keys.mpr ⟨_, paired, Or.inl rfl⟩) xFree

end Properties

end CodeClash.Pairing
