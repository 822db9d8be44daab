import Mathlib.Algebra.Order.Field.Rat
import Mathlib.Tactic.Linarith
import Mathlib.Tactic.Positivity

/-!
# The damage of a submission

The base damage is scaled by the share of passed tests and by how early the submission comes, with
bonuses for a short runtime and for passing every test. The bonus for the first correct submission
is never given.
-/

namespace CodeClash.Engine

structure SubmissionResult where
  passed : ℕ
  failed : ℕ
  total : ℕ
  runtimeMs : ℚ

def BASE_DAMAGE : ℚ := 20

def MAX_DAMAGE_PER_SUBMISSION : ℚ := 70

def calculateSpeedMultiplier (battleTime : ℚ) : ℚ :=
  if battleTime ≤ 30 then 2
  else if battleTime ≤ 60 then 3 / 2
  else if battleTime ≤ 120 then 6 / 5
  else 1

def calculateEfficiencyBonus (runtimeMs : ℚ) : ℚ :=
  if runtimeMs ≤ 100 then 5
  else if runtimeMs ≤ 500 then 3
  else if runtimeMs ≤ 1000 then 1
  else 0

def isFirstCorrectSubmission (_ : SubmissionResult) : Bool := false

def uncappedDamage (result : SubmissionResult) (battleTime : ℚ) : ℚ :=
  BASE_DAMAGE * (result.passed / result.total) * calculateSpeedMultiplier battleTime +
    calculateEfficiencyBonus result.runtimeMs +
    (if result.passed = result.total then 10 else 0) +
    if isFirstCorrectSubmission result then 15 else 0

def calculateDamage (result : SubmissionResult) (battleTime : ℚ) : ℚ :=
  if result.failed = result.total then 0
  else min (uncappedDamage result battleTime) MAX_DAMAGE_PER_SUBMISSION

theorem calculateSpeedMultiplier_bounds (battleTime : ℚ) :
    1 ≤ calculateSpeedMultiplier battleTime ∧ calculateSpeedMultiplier battleTime ≤ 2 := by
  unfold calculateSpeedMultiplier
  split_ifs <;> norm_num

theorem calculateSpeedMultiplier_antitone : Antitone calculateSpeedMultiplier := by
  intro earlier later isLater
  unfold calculateSpeedMultiplier
  split_ifs <;> linarith

theorem calculateEfficiencyBonus_bounds (runtimeMs : ℚ) :
    0 ≤ calculateEfficiencyBonus runtimeMs ∧ calculateEfficiencyBonus runtimeMs ≤ 5 := by
  unfold calculateEfficiencyBonus
  split_ifs <;> norm_num

theorem calculateEfficiencyBonus_antitone : Antitone calculateEfficiencyBonus := by
  intro faster slower isSlower
  unfold calculateEfficiencyBonus
  split_ifs <;> linarith

def SubmissionResult.Counted (result : SubmissionResult) : Prop :=
  result.passed + result.failed = result.total

variable {result other : SubmissionResult} {battleTime later : ℚ}

theorem SubmissionResult.Counted.ratio_le_one (counted : result.Counted) :
    (result.passed / result.total : ℚ) ≤ 1 := by
  have most : (result.passed : ℚ) ≤ result.total :=
    Nat.cast_le.mpr (counted ▸ Nat.le_add_right _ _)
  exact div_le_one_of_le₀ most (Nat.cast_nonneg _)

theorem uncappedDamage_le (counted : result.Counted) :
    uncappedDamage result battleTime ≤ 55 := by
  have speed := calculateSpeedMultiplier_bounds battleTime
  have bonus := calculateEfficiencyBonus_bounds result.runtimeMs
  have scaled : (result.passed / result.total : ℚ) * calculateSpeedMultiplier battleTime ≤ 1 * 2 :=
    mul_le_mul counted.ratio_le_one speed.2 (zero_le_one.trans speed.1) zero_le_one
  have allPassed : (if result.passed = result.total then 10 else 0 : ℚ) ≤ 10 := by
    split_ifs <;> norm_num
  simp only [uncappedDamage, isFirstCorrectSubmission, BASE_DAMAGE, mul_assoc, Bool.false_eq_true,
    if_false]
  linarith

/-- The cap never binds. -/
theorem calculateDamage_eq (counted : result.Counted) :
    calculateDamage result battleTime =
      if result.passed = 0 then 0 else uncappedDamage result battleTime := by
  have failedAll : result.failed = result.total ↔ result.passed = 0 := by
    unfold SubmissionResult.Counted at counted
    omega
  rw [calculateDamage,
    min_eq_left ((uncappedDamage_le counted).trans (by norm_num [MAX_DAMAGE_PER_SUBMISSION]))]
  simp only [failedAll]

theorem uncappedDamage_pos (counted : result.Counted) (passedSome : result.passed ≠ 0) :
    0 < uncappedDamage result battleTime := by
  have speed := (calculateSpeedMultiplier_bounds battleTime).1
  have bonus := (calculateEfficiencyBonus_bounds result.runtimeMs).1
  have passed : (0 : ℚ) < result.passed := Nat.cast_pos.mpr (Nat.pos_of_ne_zero passedSome)
  have total : (0 : ℚ) < result.total :=
    passed.trans_le (Nat.cast_le.mpr (counted ▸ Nat.le_add_right _ _))
  have scaled : 0 < result.passed / result.total * calculateSpeedMultiplier battleTime :=
    mul_pos (div_pos passed total) (zero_lt_one.trans_le speed)
  have allPassed : (0 : ℚ) ≤ if result.passed = result.total then 10 else 0 := by
    split_ifs <;> norm_num
  simp only [uncappedDamage, isFirstCorrectSubmission, BASE_DAMAGE, mul_assoc, Bool.false_eq_true,
    if_false]
  linarith

theorem calculateDamage_nonneg (counted : result.Counted) :
    0 ≤ calculateDamage result battleTime := by
  rw [calculateDamage_eq counted]
  split_ifs with none
  · exact le_rfl
  · exact (uncappedDamage_pos counted none).le

/-- More passed tests, an earlier submission and a shorter runtime never do less damage. -/
theorem calculateDamage_le (counted : result.Counted) (countedOther : other.Counted)
    (total : other.total = result.total) (passed : other.passed ≤ result.passed)
    (runtimeMs : result.runtimeMs ≤ other.runtimeMs) (isLater : battleTime ≤ later) :
    calculateDamage other later ≤ calculateDamage result battleTime := by
  by_cases none : other.passed = 0
  · rw [calculateDamage_eq countedOther, if_pos none]
    exact calculateDamage_nonneg counted
  rw [calculateDamage_eq countedOther, calculateDamage_eq counted, if_neg none,
    if_neg (by omega)]
  have ratio : (other.passed / other.total : ℚ) ≤ result.passed / result.total := by
    rw [total]
    exact div_le_div_of_nonneg_right (Nat.cast_le.mpr passed) (Nat.cast_nonneg _)
  have scaled := mul_le_mul ratio (calculateSpeedMultiplier_antitone isLater)
    (zero_le_one.trans (calculateSpeedMultiplier_bounds later).1) (by positivity)
  have bonus := calculateEfficiencyBonus_antitone runtimeMs
  have allPassed : (if other.passed = other.total then 10 else 0 : ℚ) ≤
      if result.passed = result.total then 10 else 0 := by
    have most : result.passed ≤ result.total := counted ▸ Nat.le_add_right _ _
    split_ifs <;> first | omega | norm_num
  simp only [uncappedDamage, isFirstCorrectSubmission, BASE_DAMAGE, mul_assoc, Bool.false_eq_true,
    if_false]
  linarith

/--
Damage lies between 0 and 55 and is not capped. It is 0 exactly when no test passed, it does
not fall when more tests pass, and it does not rise with the battle time or the runtime.
-/
theorem calculateDamage_bounded_monotone (result : SubmissionResult) (battleTime : ℚ)
    (counted : result.passed + result.failed = result.total) :
    (0 ≤ calculateDamage result battleTime ∧ calculateDamage result battleTime ≤ 55) ∧
      (result.failed ≠ result.total →
        calculateDamage result battleTime = uncappedDamage result battleTime) ∧
      (calculateDamage result battleTime = 0 ↔ result.passed = 0) ∧
      (∀ more failed, result.passed ≤ more → more + failed = result.total →
        calculateDamage result battleTime ≤
          calculateDamage { result with passed := more, failed := failed } battleTime) ∧
      (∀ later, battleTime ≤ later →
        calculateDamage result later ≤ calculateDamage result battleTime) ∧
      ∀ slower, result.runtimeMs ≤ slower →
        calculateDamage { result with runtimeMs := slower } battleTime ≤
          calculateDamage result battleTime := by
  have counts : result.Counted := counted
  have value := @calculateDamage_eq result battleTime counts
  refine ⟨⟨calculateDamage_nonneg counts, ?_⟩, ?_, ?_, ?_, ?_, ?_⟩
  · rw [value]
    split_ifs
    · norm_num
    · exact uncappedDamage_le counts
  · intro notAll
    rw [value, if_neg (by omega)]
  · rw [value]
    split_ifs with none
    · exact ⟨fun _ => none, fun _ => rfl⟩
    · exact ⟨fun zero => absurd zero (uncappedDamage_pos counts none).ne', fun zero =>
        absurd zero none⟩
  · intro more failed isMore countedMore
    exact calculateDamage_le countedMore counts rfl isMore le_rfl le_rfl
  · intro later isLater
    exact calculateDamage_le counts counts rfl le_rfl le_rfl isLater
  · intro slower isSlower
    exact calculateDamage_le counts counts rfl le_rfl isSlower le_rfl

theorem calculateDamage_bounded_monotone_half :
    calculateDamage ⟨2, 2, 4, 300⟩ 45 = 18 ∧ calculateDamage ⟨2, 2, 4, 300⟩ 45 ≤ 55 :=
  ⟨by norm_num [calculateDamage, uncappedDamage, calculateSpeedMultiplier,
      calculateEfficiencyBonus, BASE_DAMAGE, MAX_DAMAGE_PER_SUBMISSION, isFirstCorrectSubmission],
    (calculateDamage_bounded_monotone ⟨2, 2, 4, 300⟩ 45 rfl).1.2⟩

end CodeClash.Engine
