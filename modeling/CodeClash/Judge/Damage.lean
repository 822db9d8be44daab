import CodeClash.Judge.Execution
import Mathlib.Tactic.Linarith
import Mathlib.Tactic.Positivity

/-!
# The damage formula of the judge

The damage of a submission is its share of the tests, weighted by the time that has passed, with
three flat bonuses. The sum never exceeds the cap: the base is at most 20, and the bonuses are 10,
15 and 25.
-/

namespace CodeClash.Judge

variable {executionResult : ExecutionResult} {elapsedSeconds timeLimitSeconds : ℚ}
  {puzzleBenchmark : Option PuzzleBenchmark} {isFirstSolve : Bool}

def ExecutionResult.passedRatio (executionResult : ExecutionResult) : ℚ :=
  if executionResult.total > 0 then executionResult.passed / executionResult.total else 0

theorem passedRatio_nonneg : 0 ≤ executionResult.passedRatio := by
  rw [ExecutionResult.passedRatio]
  split_ifs
  · positivity
  · exact le_rfl

theorem passedRatio_le_one (possible : executionResult.passed ≤ executionResult.total) :
    executionResult.passedRatio ≤ 1 := by
  rw [ExecutionResult.passedRatio]
  split_ifs
  · have share : (executionResult.passed : ℚ) ≤ executionResult.total := by exact_mod_cast possible
    exact div_le_one_of_le₀ share (by positivity)
  · exact zero_le_one

variable {better : ExecutionResult} {amount later : ℚ}

theorem passedRatio_mono (total : better.total = executionResult.total)
    (more : executionResult.passed ≤ better.passed) :
    executionResult.passedRatio ≤ better.passedRatio := by
  rw [ExecutionResult.passedRatio, ExecutionResult.passedRatio, total]
  split_ifs with tests
  · gcongr
  · exact le_rfl

def bonus (condition : Prop) [Decidable condition] (amount : ℚ) : ℚ :=
  if condition then amount else 0

theorem bonus_bounds (condition : Prop) [Decidable condition]
    (nonneg : 0 ≤ amount) : 0 ≤ bonus condition amount ∧ bonus condition amount ≤ amount := by
  rw [bonus]
  split_ifs
  · exact ⟨nonneg, le_rfl⟩
  · exact ⟨le_rfl, nonneg⟩

theorem bonus_mono {weak strong : Prop} [Decidable weak] [Decidable strong]
    (implies : strong → weak) (nonneg : 0 ≤ amount) :
    bonus strong amount ≤ bonus weak amount := by
  by_cases holds : strong
  · rw [bonus, bonus, if_pos holds, if_pos (implies holds)]
  · rw [bonus, if_neg holds]
    exact (bonus_bounds weak nonneg).1

def speedMultiplier (elapsedSeconds timeLimitSeconds : ℚ) : ℚ :=
  max (1 / 2) (1 - elapsedSeconds / timeLimitSeconds)

theorem speedMultiplier_nonneg : 0 ≤ speedMultiplier elapsedSeconds timeLimitSeconds :=
  le_max_of_le_left (by norm_num)

theorem speedMultiplier_le_one (elapsed : 0 ≤ elapsedSeconds) (limit : 0 < timeLimitSeconds) :
    speedMultiplier elapsedSeconds timeLimitSeconds ≤ 1 := by
  have share : 0 ≤ elapsedSeconds / timeLimitSeconds := div_nonneg elapsed limit.le
  exact max_le (by norm_num) (by linarith)

theorem speedMultiplier_anti (limit : 0 < timeLimitSeconds) (waits : elapsedSeconds ≤ later) :
    speedMultiplier later timeLimitSeconds ≤ speedMultiplier elapsedSeconds timeLimitSeconds := by
  apply max_le_max_left
  gcongr

def Efficient (runtimeMs : ℚ) (puzzleBenchmark : Option PuzzleBenchmark) : Prop :=
  ∃ benchmark ∈ puzzleBenchmark, runtimeMs < benchmark.p50RuntimeMs

instance (runtimeMs : ℚ) (puzzleBenchmark : Option PuzzleBenchmark) :
    Decidable (Efficient runtimeMs puzzleBenchmark) :=
  inferInstanceAs (Decidable (∃ benchmark ∈ puzzleBenchmark, _))

theorem totalDamage_eq :
    (calculateDamage executionResult elapsedSeconds timeLimitSeconds puzzleBenchmark
      isFirstSolve).totalDamage =
    20 * executionResult.passedRatio * speedMultiplier elapsedSeconds timeLimitSeconds +
      bonus (Efficient executionResult.runtimeMs puzzleBenchmark) 10 +
      bonus (executionResult.passed = executionResult.total ∧ executionResult.total > 0) 15 +
      bonus (isFirstSolve = true) 25 := by
  have efficient : (puzzleBenchmark.any fun benchmark =>
      executionResult.runtimeMs < benchmark.p50RuntimeMs) = true ↔
      Efficient executionResult.runtimeMs puzzleBenchmark := by
    cases puzzleBenchmark <;> simp [Efficient]
  simp only [calculateDamage, efficient]
  rfl

theorem bonuses_bounds :
    20 * executionResult.passedRatio * speedMultiplier elapsedSeconds timeLimitSeconds ≤
        (calculateDamage executionResult elapsedSeconds timeLimitSeconds puzzleBenchmark
          isFirstSolve).totalDamage ∧
      (calculateDamage executionResult elapsedSeconds timeLimitSeconds puzzleBenchmark
          isFirstSolve).totalDamage ≤
        20 * executionResult.passedRatio * speedMultiplier elapsedSeconds timeLimitSeconds +
          50 := by
  have efficiency := bonus_bounds (Efficient executionResult.runtimeMs puzzleBenchmark)
    (show (0 : ℚ) ≤ 10 by norm_num)
  have allPass := bonus_bounds (executionResult.passed = executionResult.total ∧
    executionResult.total > 0) (show (0 : ℚ) ≤ 15 by norm_num)
  have firstSolve := bonus_bounds (isFirstSolve = true) (show (0 : ℚ) ≤ 25 by norm_num)
  rw [totalDamage_eq]
  constructor <;> linarith

theorem totalDamage_nonneg :
    0 ≤ (calculateDamage executionResult elapsedSeconds timeLimitSeconds puzzleBenchmark
      isFirstSolve).totalDamage := by
  have base : 0 ≤ 20 * executionResult.passedRatio *
      speedMultiplier elapsedSeconds timeLimitSeconds :=
    mul_nonneg (mul_nonneg (by norm_num) passedRatio_nonneg) speedMultiplier_nonneg
  exact base.trans bonuses_bounds.1

theorem totalDamage_le (possible : executionResult.passed ≤ executionResult.total)
    (elapsed : 0 ≤ elapsedSeconds) (limit : 0 < timeLimitSeconds) :
    (calculateDamage executionResult elapsedSeconds timeLimitSeconds puzzleBenchmark
      isFirstSolve).totalDamage ≤ 70 := by
  have base : executionResult.passedRatio * speedMultiplier elapsedSeconds timeLimitSeconds ≤ 1 :=
    mul_le_one₀ (passedRatio_le_one possible) speedMultiplier_nonneg
      (speedMultiplier_le_one elapsed limit)
  refine bonuses_bounds.2.trans ?_
  linarith

theorem cappedDamage_nonneg :
    0 ≤ (calculateDamage executionResult elapsedSeconds timeLimitSeconds puzzleBenchmark
      isFirstSolve).cappedDamage :=
  le_min totalDamage_nonneg (by decide +kernel)

theorem cappedDamage_mono {other : ExecutionResult} {otherElapsed otherLimit : ℚ}
    {otherBenchmark : Option PuzzleBenchmark} {otherFirst : Bool}
    (le : (calculateDamage executionResult elapsedSeconds timeLimitSeconds puzzleBenchmark
        isFirstSolve).totalDamage ≤
      (calculateDamage other otherElapsed otherLimit otherBenchmark otherFirst).totalDamage) :
    (calculateDamage executionResult elapsedSeconds timeLimitSeconds puzzleBenchmark
        isFirstSolve).cappedDamage ≤
      (calculateDamage other otherElapsed otherLimit otherBenchmark otherFirst).cappedDamage :=
  min_le_min_right _ le

theorem totalDamage_mono_passed (total : better.total = executionResult.total)
    (runtime : better.runtimeMs = executionResult.runtimeMs)
    (possible : better.passed ≤ better.total) (more : executionResult.passed ≤ better.passed) :
    (calculateDamage executionResult elapsedSeconds timeLimitSeconds puzzleBenchmark
        isFirstSolve).totalDamage ≤
      (calculateDamage better elapsedSeconds timeLimitSeconds puzzleBenchmark
        isFirstSolve).totalDamage := by
  have allPass : bonus (executionResult.passed = executionResult.total ∧
      executionResult.total > 0) 15 ≤ bonus (better.passed = better.total ∧ better.total > 0) 15 :=
    bonus_mono (fun all => ⟨by omega, by omega⟩) (by norm_num)
  rw [totalDamage_eq, totalDamage_eq, runtime]
  gcongr
  · exact speedMultiplier_nonneg
  · exact passedRatio_mono total more

theorem totalDamage_anti_elapsed (limit : 0 < timeLimitSeconds) (waits : elapsedSeconds ≤ later) :
    (calculateDamage executionResult later timeLimitSeconds puzzleBenchmark
        isFirstSolve).totalDamage ≤
      (calculateDamage executionResult elapsedSeconds timeLimitSeconds puzzleBenchmark
        isFirstSolve).totalDamage := by
  rw [totalDamage_eq, totalDamage_eq]
  gcongr
  · exact mul_nonneg (by norm_num) passedRatio_nonneg
  · exact speedMultiplier_anti limit waits

theorem totalDamage_anti_runtime {slower : ExecutionResult}
    (passed : slower.passed = executionResult.passed) (total : slower.total = executionResult.total)
    (longer : executionResult.runtimeMs ≤ slower.runtimeMs) :
    (calculateDamage slower elapsedSeconds timeLimitSeconds puzzleBenchmark
        isFirstSolve).totalDamage ≤
      (calculateDamage executionResult elapsedSeconds timeLimitSeconds puzzleBenchmark
        isFirstSolve).totalDamage := by
  have ratio : slower.passedRatio = executionResult.passedRatio := by
    rw [ExecutionResult.passedRatio, ExecutionResult.passedRatio, passed, total]
  have efficiency : bonus (Efficient slower.runtimeMs puzzleBenchmark) 10 ≤
      bonus (Efficient executionResult.runtimeMs puzzleBenchmark) 10 := by
    apply bonus_mono _ (by norm_num)
    rintro ⟨benchmark, stored, faster⟩
    exact ⟨benchmark, stored, lt_of_le_of_lt longer faster⟩
  rw [totalDamage_eq, totalDamage_eq, ratio, passed, total]
  gcongr

theorem isBattleOver_iff (userId : UserId) (roomId : RoomId) (opponentHp : ℚ) :
    (calculateBattleDamage userId roomId executionResult elapsedSeconds timeLimitSeconds opponentHp
      puzzleBenchmark isFirstSolve).isBattleOver = true ↔
    opponentHp ≤ (calculateDamage executionResult elapsedSeconds timeLimitSeconds puzzleBenchmark
      isFirstSolve).cappedDamage := by
  simp [calculateBattleDamage]

/--
The damage stays between 0 and 70, so that the cap never cuts anything off. It does not shrink
when more tests pass, and it does not grow with the time or the runtime. A battle is over exactly
if the opponent has no more hit points than the damage.
-/
theorem damage_formula_sound (executionResult : ExecutionResult)
    (elapsedSeconds timeLimitSeconds : ℚ) (puzzleBenchmark : Option PuzzleBenchmark)
    (isFirstSolve : Bool) (possible : executionResult.passed ≤ executionResult.total)
    (elapsed : 0 ≤ elapsedSeconds) (limit : 0 < timeLimitSeconds) :
    (0 ≤ (calculateDamage executionResult elapsedSeconds timeLimitSeconds puzzleBenchmark
        isFirstSolve).totalDamage ∧
      (calculateDamage executionResult elapsedSeconds timeLimitSeconds puzzleBenchmark
        isFirstSolve).totalDamage ≤ 70 ∧
      (calculateDamage executionResult elapsedSeconds timeLimitSeconds puzzleBenchmark
        isFirstSolve).cappedDamage =
      (calculateDamage executionResult elapsedSeconds timeLimitSeconds puzzleBenchmark
        isFirstSolve).totalDamage) ∧
    (∀ better : ExecutionResult, better.total = executionResult.total →
      better.runtimeMs = executionResult.runtimeMs → better.passed ≤ better.total →
      executionResult.passed ≤ better.passed →
      (calculateDamage executionResult elapsedSeconds timeLimitSeconds puzzleBenchmark
        isFirstSolve).cappedDamage ≤
      (calculateDamage better elapsedSeconds timeLimitSeconds puzzleBenchmark
        isFirstSolve).cappedDamage) ∧
    (∀ later, elapsedSeconds ≤ later →
      (calculateDamage executionResult later timeLimitSeconds puzzleBenchmark
        isFirstSolve).cappedDamage ≤
      (calculateDamage executionResult elapsedSeconds timeLimitSeconds puzzleBenchmark
        isFirstSolve).cappedDamage) ∧
    (∀ slower : ExecutionResult, slower.passed = executionResult.passed →
      slower.total = executionResult.total → executionResult.runtimeMs ≤ slower.runtimeMs →
      (calculateDamage slower elapsedSeconds timeLimitSeconds puzzleBenchmark
        isFirstSolve).cappedDamage ≤
      (calculateDamage executionResult elapsedSeconds timeLimitSeconds puzzleBenchmark
        isFirstSolve).cappedDamage) ∧
    ∀ userId roomId opponentHp,
      (calculateBattleDamage userId roomId executionResult elapsedSeconds timeLimitSeconds
        opponentHp puzzleBenchmark isFirstSolve).isBattleOver = true ↔
      opponentHp ≤ (calculateDamage executionResult elapsedSeconds timeLimitSeconds
        puzzleBenchmark isFirstSolve).cappedDamage := by
  have bound : (calculateDamage executionResult elapsedSeconds timeLimitSeconds puzzleBenchmark
      isFirstSolve).totalDamage ≤ 70 := totalDamage_le possible elapsed limit
  refine ⟨⟨totalDamage_nonneg, bound, min_eq_left bound⟩, ?_, ?_, ?_, ?_⟩
  · intro _ total runtime allowed more
    exact cappedDamage_mono (totalDamage_mono_passed total runtime allowed more)
  · intro _ waits
    exact cappedDamage_mono (totalDamage_anti_elapsed limit waits)
  · intro _ passed total longer
    exact cappedDamage_mono (totalDamage_anti_runtime passed total longer)
  · intro userId roomId opponentHp
    exact isBattleOver_iff userId roomId opponentHp

/-- All ten tests in a fifth of the time, below the benchmark and as the first: 66 points. -/
def perfectResult : ExecutionResult where
  passed := 10
  total := 10
  runtimeMs := 500
  memoryKb := 0
  statusCode := 3
  statusDescription := "Accepted"
  testCaseResults := []
  correctnessRatio := 1

theorem perfect_solution_is_uncapped :
    (calculateDamage perfectResult 60 300 (some ⟨800, 1⟩) true).totalDamage = 66 ∧
      (calculateDamage perfectResult 60 300 (some ⟨800, 1⟩) true).cappedDamage =
        (calculateDamage perfectResult 60 300 (some ⟨800, 1⟩) true).totalDamage :=
  ⟨by decide +kernel, (damage_formula_sound perfectResult 60 300 (some ⟨800, 1⟩) true le_rfl
    (by norm_num) (by norm_num)).1.2.2⟩

end CodeClash.Judge
