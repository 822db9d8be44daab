import Mathlib.Algebra.Order.Group.Abs
import Mathlib.Algebra.Order.Group.Int
import Mathlib.Data.Int.Notation
import Mathlib.Order.Lattice

/-!
# Rank tiers

The rank system of `services/judge/src/utils/rankSystem.ts`, without titles, colours and icons. The
bound of the highest tier is `Infinity`. Ratings at most 400 points apart are at most two tiers
apart.
-/

namespace CodeClash.Rating

inductive RankTier where
  | bronze
  | silver
  | gold
  | platinum
  | diamond
  | master
deriving DecidableEq, Repr

/-- The range of a tier. Without `maxElo` it has no upper end. -/
structure RankInfo where
  tier : RankTier
  minElo : ℤ
  maxElo : Option ℤ
deriving DecidableEq, Repr

def BRONZE : RankInfo := ⟨.bronze, 0, some 1199⟩

def RANK_THRESHOLDS : List RankInfo :=
  [BRONZE, ⟨.silver, 1200, some 1399⟩, ⟨.gold, 1400, some 1599⟩, ⟨.platinum, 1600, some 1799⟩,
    ⟨.diamond, 1800, some 1999⟩, ⟨.master, 2000, none⟩]

def RankInfo.contains (info : RankInfo) (elo : ℤ) : Bool :=
  info.minElo ≤ elo && info.maxElo.all fun maxElo => elo ≤ maxElo

def getRankByElo (elo : ℤ) : RankInfo :=
  (RANK_THRESHOLDS.find? fun info => info.contains elo).getD BRONZE

def getMinimumElo : ℤ := 800

def applyMinimumElo (elo : ℤ) : ℤ := max elo getMinimumElo

def tiers : List RankTier := [.bronze, .silver, .gold, .platinum, .diamond, .master]

namespace RankSystem

def canBattle (playerElo opponentElo : ℤ) : Bool :=
  let playerRank := getRankByElo playerElo
  let opponentRank := getRankByElo opponentElo
  let playerTierIndex : ℤ := tiers.idxOf playerRank.tier
  let opponentTierIndex : ℤ := tiers.idxOf opponentRank.tier
  |playerTierIndex - opponentTierIndex| ≤ 2

def getMaxEloDifference : ℤ := 400

def isEloDifferenceAllowed (playerElo opponentElo : ℤ) : Bool :=
  |playerElo - opponentElo| ≤ getMaxEloDifference

def canMatch (playerElo opponentElo : ℤ) : Bool :=
  canBattle playerElo opponentElo && isEloDifferenceAllowed playerElo opponentElo

theorem tierIndex_of_contains {info : RankInfo} {elo : ℤ} (listed : info ∈ RANK_THRESHOLDS)
    (within : info.contains elo = true) :
    (tiers.idxOf info.tier : ℤ) = max 0 (min 5 (elo / 200 - 5)) := by
  simp only [RANK_THRESHOLDS, List.mem_cons, List.not_mem_nil, or_false] at listed
  rcases listed with rfl | rfl | rfl | rfl | rfl | rfl
  all_goals
    simp only [RankInfo.contains, BRONZE, Option.all_some, Option.all_none, Bool.and_eq_true,
      decide_eq_true_eq, and_true] at within
  · change (0 : ℤ) = _
    omega
  · change (1 : ℤ) = _
    omega
  · change (2 : ℤ) = _
    omega
  · change (3 : ℤ) = _
    omega
  · change (4 : ℤ) = _
    omega
  · change (5 : ℤ) = _
    omega

theorem tierIndex_eq (elo : ℤ) :
    (tiers.idxOf (getRankByElo elo).tier : ℤ) = max 0 (min 5 (elo / 200 - 5)) := by
  rw [getRankByElo]
  cases found : RANK_THRESHOLDS.find? fun info => info.contains elo with
  | some =>
    have within := List.find?_some found
    exact tierIndex_of_contains (List.mem_of_find?_eq_some found) within
  | none =>
    have outside := List.find?_eq_none.mp found
    simp only [RANK_THRESHOLDS, BRONZE, RankInfo.contains, List.forall_mem_cons, Option.all_some,
      Option.all_none, Bool.and_eq_true, decide_eq_true_eq, and_true] at outside
    change (0 : ℤ) = _
    omega

theorem canBattle_of_close {playerElo opponentElo : ℤ} (close : |playerElo - opponentElo| ≤ 400) :
    canBattle playerElo opponentElo = true := by
  rw [abs_le] at close
  simp only [canBattle, tierIndex_eq, decide_eq_true_eq, abs_le]
  omega

/-- Players may be matched exactly if their ratings are at most 400 points apart. The rule on
tiers is implied. -/
theorem canMatch_iff_close (playerElo opponentElo : ℤ) :
    (canMatch playerElo opponentElo = true ↔ |playerElo - opponentElo| ≤ 400) ∧
      (|playerElo - opponentElo| ≤ 400 →
        |(tiers.idxOf (getRankByElo playerElo).tier : ℤ) -
          tiers.idxOf (getRankByElo opponentElo).tier| ≤ 2) := by
  have allowed : isEloDifferenceAllowed playerElo opponentElo = true ↔
      |playerElo - opponentElo| ≤ 400 := decide_eq_true_iff
  refine ⟨?_, fun close => of_decide_eq_true (canBattle_of_close close)⟩
  rw [canMatch, Bool.and_eq_true, allowed]
  exact ⟨And.right, fun close => ⟨canBattle_of_close close, close⟩⟩

end RankSystem

end CodeClash.Rating
