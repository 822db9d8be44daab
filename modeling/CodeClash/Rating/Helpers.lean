import CodeClash.Rating.Rank
import Mathlib.Algebra.BigOperators.Group.List.Basic
import Mathlib.Algebra.Order.Round
import Mathlib.Data.List.Induction
import Mathlib.Data.Rat.Floor
import Mathlib.Order.Bounds.Basic
import Mathlib.Tactic.Linarith

/-!
# Progress, next tiers and distributions

What `rankSystem.ts` derives from the table of tiers, and the distribution of `eloService.ts`, which
has the bounds of the tiers written out a second time. A rating is a whole number.
-/

namespace CodeClash.Rating

open Function

/-- The keys of the distribution of `eloService.ts`, named by their upper ends. -/
inductive EloRange where
  | to1199
  | to1399
  | to1599
  | to1799
  | to1999
  | above
deriving DecidableEq

def eloRange (elo : ℤ) : EloRange :=
  if elo < 1200 then .to1199
  else if elo < 1400 then .to1399
  else if elo < 1600 then .to1599
  else if elo < 1800 then .to1799
  else if elo < 2000 then .to1999
  else .above

/-- Each rating adds one to the count of its key. -/
def countBy {κ : Type} [DecidableEq κ] (key : ℤ → κ) (elos : List ℤ) : κ → ℕ :=
  elos.foldl (fun distribution elo => update distribution (key elo) (distribution (key elo) + 1))
    fun _ => 0

def EloService.getEloDistribution (elos : List ℤ) : EloRange → ℕ := countBy eloRange elos

def RankInfo.progress (rank : RankInfo) (elo : ℤ) : ℤ :=
  if rank.tier = .master then 100
  else
    match rank.maxElo with
    | none => 0
    | some maxElo => round ((elo - rank.minElo : ℤ) / (maxElo - rank.minElo : ℤ) * 100 : ℚ)

namespace RankSystem

def getRankDistribution (playerElos : List ℤ) : RankTier → ℕ :=
  countBy (fun elo => (getRankByElo elo).tier) playerElos

def getRankProgress (elo : ℤ) : ℤ := (getRankByElo elo).progress elo

def getEloForNextTier (elo : ℤ) : Option ℤ :=
  let currentRank := getRankByElo elo
  if currentRank.tier = .master then none
  else do
    let nextTier ← tiers[tiers.idxOf currentRank.tier + 1]?
    let info ← RANK_THRESHOLDS.find? fun info => info.tier = nextTier
    return info.minElo

end RankSystem

theorem countBy_eq {κ : Type} [DecidableEq κ] (key : ℤ → κ) (elos : List ℤ) (value : κ) :
    countBy key elos value = elos.countP fun elo => key elo = value := by
  induction elos using List.reverseRecOn with
  | nil => rfl
  | append_singleton elos elo ih =>
    rw [countBy, List.foldl_append, List.countP_append]
    by_cases same : key elo = value
    · subst same
      simpa [countBy] using ih
    · simpa [countBy, same, update_of_ne (Ne.symm same)] using ih

theorem sum_countBy (key : ℤ → RankTier) (elos : List ℤ) :
    (tiers.map (countBy key elos)).sum = elos.length := by
  have counted : countBy key elos = fun tier => elos.countP fun elo => key elo = tier :=
    funext (countBy_eq key elos)
  rw [counted]
  induction elos with
  | nil => rfl
  | cons elo elos ih =>
    have once : (tiers.map fun tier => if key elo = tier then 1 else 0).sum = 1 := by
      cases key elo <;> rfl
    simp only [List.countP_cons, List.sum_map_add, decide_eq_true_eq, List.length_cons, once]
    rw [ih (funext (countBy_eq key elos))]

def EloRange.info : EloRange → RankInfo
  | .to1199 => BRONZE
  | .to1399 => ⟨.silver, 1200, some 1399⟩
  | .to1599 => ⟨.gold, 1400, some 1599⟩
  | .to1799 => ⟨.platinum, 1600, some 1799⟩
  | .to1999 => ⟨.diamond, 1800, some 1999⟩
  | .above => ⟨.master, 2000, none⟩

def EloRange.next : EloRange → Option ℤ
  | .to1199 => some 1200
  | .to1399 => some 1400
  | .to1599 => some 1600
  | .to1799 => some 1800
  | .to1999 => some 2000
  | .above => none

def RankTier.range : RankTier → EloRange
  | .bronze => .to1199
  | .silver => .to1399
  | .gold => .to1599
  | .platinum => .to1799
  | .diamond => .to1999
  | .master => .above

theorem EloRange.tier_eq_iff (range : EloRange) (tier : RankTier) :
    range.info.tier = tier ↔ range = tier.range := by
  cases range <;> cases tier <;> decide

theorem getRankByElo_eq (elo : ℤ) : getRankByElo elo = (eloRange elo).info := by
  unfold eloRange
  split_ifs
  all_goals
    simp only [getRankByElo, RANK_THRESHOLDS, BRONZE, RankInfo.contains, List.find?_cons,
      Option.all_some, Option.all_none, EloRange.info]
  all_goals grind

theorem getRankDistribution_eq (elos : List ℤ) (tier : RankTier) :
    RankSystem.getRankDistribution elos tier = EloService.getEloDistribution elos tier.range := by
  rw [RankSystem.getRankDistribution, EloService.getEloDistribution, countBy_eq, countBy_eq]
  simp only [getRankByElo_eq, EloRange.tier_eq_iff]

namespace RankSystem

def OtherTier (elo : ℤ) : Set ℤ :=
  {higher | elo < higher ∧ (getRankByElo higher).tier ≠ (getRankByElo elo).tier}

theorem getEloForNextTier_eq (elo : ℤ) : getEloForNextTier elo = (eloRange elo).next := by
  rw [getEloForNextTier, getRankByElo_eq]
  cases eloRange elo <;> rfl

/-- The ratings of another tier are those from the next threshold on. -/
theorem mem_otherTier {elo higher : ℤ} :
    higher ∈ OtherTier elo ↔ ∃ next, getEloForNextTier elo = some next ∧ next ≤ higher := by
  have sameTier : (getRankByElo higher).tier = (getRankByElo elo).tier ↔
      eloRange higher = eloRange elo := by
    rw [getRankByElo_eq, getRankByElo_eq, EloRange.tier_eq_iff]
    cases eloRange elo <;> rfl
  rw [getEloForNextTier_eq]
  change elo < higher ∧ ¬_ ↔ _
  rw [sameTier]
  unfold eloRange
  split_ifs <;> simp [EloRange.next] <;> omega

theorem isLeast_otherTier {elo next : ℤ} :
    getEloForNextTier elo = some next ↔ IsLeast (OtherTier elo) next := by
  constructor
  · intro found
    refine ⟨mem_otherTier.mpr ⟨next, found, le_rfl⟩, ?_⟩
    intro higher isOther
    rcases mem_otherTier.mp isOther with ⟨_, same, isHigher⟩
    cases found.symm.trans same
    exact isHigher
  · rintro ⟨isOther, least⟩
    rcases mem_otherTier.mp isOther with ⟨first, found, isHigher⟩
    have above := least (mem_otherTier.mpr ⟨first, found, le_rfl⟩)
    rw [found, le_antisymm isHigher above]

theorem otherTier_eq_empty {elo : ℤ} : getEloForNextTier elo = none ↔ OtherTier elo = ∅ := by
  rw [Set.eq_empty_iff_forall_notMem]
  simp only [mem_otherTier]
  constructor
  · rintro missing higher ⟨_, found, _⟩
    rw [missing] at found
    cases found
  · intro missing
    cases found : getEloForNextTier elo with
    | none => rfl
    | some next => exact absurd ⟨next, found, le_rfl⟩ (missing next)

end RankSystem

namespace RankInfo

def Wide (rank : RankInfo) : Prop := ∀ maxElo ∈ rank.maxElo, rank.minElo < maxElo

theorem wide (range : EloRange) : range.info.Wide := by
  cases range <;> simp [Wide, EloRange.info, BRONZE]

variable {rank : RankInfo} {elo higher : ℤ}

theorem progress_mono (wide : rank.Wide) (isHigher : elo ≤ higher) :
    rank.progress elo ≤ rank.progress higher := by
  unfold progress
  split
  · exact le_rfl
  split
  · exact le_rfl
  rename_i maxElo bounded
  have range : (0 : ℚ) ≤ (maxElo - rank.minElo : ℤ) := by
    have := wide maxElo bounded
    exact_mod_cast (sub_pos.mpr this).le
  rw [round_eq, round_eq]
  apply Int.floor_le_floor
  have ratio := div_le_div_of_nonneg_right
    (Int.cast_le.mpr (sub_le_sub_right isHigher rank.minElo) : (_ : ℚ) ≤ _) range
  linarith

/-- Progress goes from 0 at the lower end to 100 at the upper end. -/
theorem progress_bounds (wide : rank.Wide) (within : rank.contains elo = true) :
    0 ≤ rank.progress elo ∧ rank.progress elo ≤ 100 := by
  rcases Bool.and_eq_true_iff.mp within with ⟨above, below⟩
  have low := progress_mono wide (of_decide_eq_true above)
  cases bounded : rank.maxElo with
  | none =>
    unfold progress
    rw [bounded]
    split <;> simp
  | some maxElo =>
    rw [bounded] at below
    have high := progress_mono wide (of_decide_eq_true below)
    have range : ((maxElo - rank.minElo : ℤ) : ℚ) ≠ 0 :=
      Int.cast_ne_zero.mpr (sub_ne_zero.mpr (wide maxElo bounded).ne')
    have first : 0 ≤ rank.progress rank.minElo := by
      unfold progress
      rw [bounded]
      split <;> simp
    have last : rank.progress maxElo = 100 := by
      unfold progress
      rw [bounded]
      split
      · rfl
      · simp only [div_self range, one_mul]
        exact round_ofNat 100
    exact ⟨first.trans low, high.trans last.le⟩

end RankInfo

theorem contains_getRankByElo {elo : ℤ} (nonneg : 0 ≤ elo) :
    (getRankByElo elo).contains elo = true := by
  rw [getRankByElo_eq, RankInfo.contains, Bool.and_eq_true, decide_eq_true_eq]
  unfold eloRange
  split_ifs
  all_goals
    simp only [EloRange.info, BRONZE, Option.all_some, Option.all_none, decide_eq_true_eq, and_true]
    omega

namespace RankSystem

/--
Both distributions count the same ratings, each rating once. The next tier begins at the least
rating above with another tier, and progress is a percentage that grows within a tier.
-/
theorem rank_helpers_agree (elos : List ℤ) (elo : ℤ) (nonneg : 0 ≤ elo) :
    (∀ tier, getRankDistribution elos tier = EloService.getEloDistribution elos tier.range) ∧
      (tiers.map (getRankDistribution elos)).sum = elos.length ∧
      (∀ next, getEloForNextTier elo = some next ↔ IsLeast (OtherTier elo) next) ∧
      (getEloForNextTier elo = none ↔ OtherTier elo = ∅) ∧
      (0 ≤ getRankProgress elo ∧ getRankProgress elo ≤ 100) ∧
      ∀ higher, elo ≤ higher → (getRankByElo higher).tier = (getRankByElo elo).tier →
        getRankProgress elo ≤ getRankProgress higher := by
  refine ⟨getRankDistribution_eq elos, sum_countBy _ elos, fun next => isLeast_otherTier,
    otherTier_eq_empty, ?_, ?_⟩
  · apply RankInfo.progress_bounds _ (contains_getRankByElo nonneg)
    rw [getRankByElo_eq]
    exact RankInfo.wide _
  · intro higher isHigher sameTier
    rw [getRankProgress, getRankProgress]
    rw [getRankByElo_eq, getRankByElo_eq, EloRange.tier_eq_iff] at sameTier
    have sameRange : eloRange higher = eloRange elo := by
      rw [sameTier]
      cases eloRange elo <;> rfl
    rw [getRankByElo_eq, getRankByElo_eq, sameRange]
    exact RankInfo.progress_mono (RankInfo.wide _) isHigher

theorem rank_helpers_agree_silver :
    getEloForNextTier 1250 = some 1400 ∧ IsLeast (OtherTier 1250) 1400 :=
  ⟨rfl, ((rank_helpers_agree [] 1250 (by decide)).2.2.1 1400).mp rfl⟩

end RankSystem

end CodeClash.Rating
