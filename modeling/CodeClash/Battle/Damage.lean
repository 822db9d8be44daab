import CodeClash.Battle.State

/-!
# The damage formula of the battle service

A partial solution deals five points for each test, without a bound, while a full solution deals
between 40 and 110 points. The scales fit together exactly if all tests but one are worth no more
than a full solution.
-/

namespace CodeClash.Battle

structure DamageSetting where
  totalTests : ℕ
  avgRuntimeMs : ℚ
  elapsedMs : ℚ
  timeLimitMs : ℚ
  p50RuntimeMs : ℚ
  total_pos : 1 ≤ totalTests
  avgRuntime_nonneg : 0 ≤ avgRuntimeMs
  elapsed_nonneg : 0 ≤ elapsedMs
  timeLimit_pos : 0 < timeLimitMs
  p50Runtime_pos : 0 < p50RuntimeMs

namespace DamageSetting

variable (setting : DamageSetting)

def Judges (summary : JudgeSummary) : Prop :=
  summary.totalTests = setting.totalTests ∧ summary.avgRuntimeMs = setting.avgRuntimeMs

def damage (summary : JudgeSummary) : ℤ :=
  calculateDamage summary setting.elapsedMs setting.timeLimitMs setting.p50RuntimeMs

/-- The damage stays in its range, is dealt by every submission that passes a test, and grows
with the number of tests. -/
def Graded : Prop :=
  ∀ summary, setting.Judges summary →
    0 ≤ setting.damage summary ∧ setting.damage summary ≤ 120 ∧
      (setting.damage summary = 0 ↔ summary.passedTests = 0) ∧
      ∀ better, setting.Judges better → summary.passedTests ≤ better.passedTests →
        setting.damage summary ≤ setting.damage better

def summaryOf (passedTests : ℕ) (possible : passedTests ≤ setting.totalTests) :
    JudgeSummary where
  totalTests := setting.totalTests
  passedTests := passedTests
  avgRuntimeMs := setting.avgRuntimeMs
  results := []
  passed_le_total := possible
  avgRuntime_nonneg := setting.avgRuntime_nonneg

def fullDamage : ℤ :=
  round (80 * max (1 / 2) (1 - setting.elapsedMs / setting.timeLimitMs * (1 / 2))) +
    round (30 * max 0 (1 - setting.avgRuntimeMs / setting.p50RuntimeMs))

theorem round_bounds {x : ℚ} {low high : ℤ} (above : low ≤ x) (below : x ≤ high) :
    low ≤ round x ∧ round x ≤ high := by
  constructor
  · exact Int.le_floor.mpr (by linarith)
  · exact Int.lt_add_one_iff.mp (Int.floor_lt.mpr (by push_cast; linarith))

theorem speed_bounds :
    40 ≤ round (80 * max (1 / 2) (1 - setting.elapsedMs / setting.timeLimitMs * (1 / 2))) ∧
      round (80 * max (1 / 2) (1 - setting.elapsedMs / setting.timeLimitMs * (1 / 2))) ≤ 80 := by
  have elapsed : 0 ≤ setting.elapsedMs / setting.timeLimitMs :=
    div_nonneg setting.elapsed_nonneg setting.timeLimit_pos.le
  have slow := le_max_left (1 / 2) (1 - setting.elapsedMs / setting.timeLimitMs * (1 / 2))
  have fast : max (1 / 2) (1 - setting.elapsedMs / setting.timeLimitMs * (1 / 2)) ≤ 1 :=
    max_le (by norm_num) (by linarith)
  apply round_bounds <;> push_cast <;> linarith

theorem efficiency_bounds :
    0 ≤ round (30 * max 0 (1 - setting.avgRuntimeMs / setting.p50RuntimeMs)) ∧
      round (30 * max 0 (1 - setting.avgRuntimeMs / setting.p50RuntimeMs)) ≤ 30 := by
  have runtime : 0 ≤ setting.avgRuntimeMs / setting.p50RuntimeMs :=
    div_nonneg setting.avgRuntime_nonneg setting.p50Runtime_pos.le
  have noBonus := le_max_left 0 (1 - setting.avgRuntimeMs / setting.p50RuntimeMs)
  have bonus : max 0 (1 - setting.avgRuntimeMs / setting.p50RuntimeMs) ≤ 1 :=
    max_le (by norm_num) (by linarith)
  apply round_bounds <;> push_cast <;> linarith

theorem fullDamage_bounds : 40 ≤ setting.fullDamage ∧ setting.fullDamage ≤ 110 := by
  have speed := setting.speed_bounds
  have efficiency := setting.efficiency_bounds
  rw [fullDamage]
  omega

theorem efficiencyBonus_eq :
    (if setting.avgRuntimeMs < setting.p50RuntimeMs then
      round (30 * (1 - setting.avgRuntimeMs / setting.p50RuntimeMs)) else 0) =
    round (30 * max 0 (1 - setting.avgRuntimeMs / setting.p50RuntimeMs)) := by
  split_ifs with faster
  · have ratio := (div_lt_one setting.p50Runtime_pos).mpr faster
    rw [max_eq_right (by linarith)]
  · have ratio := (one_le_div setting.p50Runtime_pos).mpr (not_lt.mp faster)
    rw [max_eq_left (by linarith), mul_zero]
    decide +kernel

variable {setting} {summary : JudgeSummary}

theorem damage_unsolved (judges : setting.Judges summary)
    (unsolved : summary.passedTests < setting.totalTests) :
    setting.damage summary = summary.passedTests * 5 := by
  rw [damage, calculateDamage, judges.1, if_pos unsolved]
  split_ifs with none
  · rw [none, Nat.cast_zero, zero_mul]
  · rfl

theorem damage_solved (judges : setting.Judges summary)
    (solved : summary.passedTests = setting.totalTests) :
    setting.damage summary = setting.fullDamage := by
  have some : ¬summary.passedTests = 0 := by
    have := setting.total_pos
    omega
  have bounds := setting.fullDamage_bounds
  rw [damage, calculateDamage, if_neg some, judges.1, judges.2, if_neg (by omega)]
  simp only [efficiencyBonus_eq]
  exact min_eq_left (by rw [fullDamage] at bounds; omega)

theorem graded_of_fits (fits : 5 * (setting.totalTests - 1 : ℤ) ≤ setting.fullDamage) :
    setting.Graded := by
  have bounds := setting.fullDamage_bounds
  have total := setting.total_pos
  intro summary judges
  have possible := summary.passed_le_total
  rw [judges.1] at possible
  rcases Nat.lt_or_eq_of_le possible with unsolved | solved
  · rw [damage_unsolved judges unsolved]
    refine ⟨by omega, by omega, by omega, ?_⟩
    intro better judged more
    have limit := better.passed_le_total
    rw [judged.1] at limit
    rcases Nat.lt_or_eq_of_le limit with unsolved' | solved'
    · rw [damage_unsolved judged unsolved']
      omega
    · rw [damage_solved judged solved']
      omega
  · rw [damage_solved judges solved]
    refine ⟨by omega, by omega, by omega, ?_⟩
    intro better judged _
    have limit := better.passed_le_total
    rw [judged.1] at limit
    rw [damage_solved judged (by omega)]

theorem fits_of_graded (graded : setting.Graded) :
    5 * (setting.totalTests - 1 : ℤ) ≤ setting.fullDamage := by
  have total := setting.total_pos
  have grows := (graded (setting.summaryOf (setting.totalTests - 1) (by omega)) ⟨rfl, rfl⟩).2.2.2
    (setting.summaryOf setting.totalTests le_rfl) ⟨rfl, rfl⟩ (Nat.sub_le _ _)
  rw [damage_unsolved ⟨rfl, rfl⟩ (show setting.totalTests - 1 < setting.totalTests by omega),
    damage_solved ⟨rfl, rfl⟩ rfl] at grows
  simp only [summaryOf] at grows
  omega

def latest (totalTests : ℕ) (total_pos : 1 ≤ totalTests) : DamageSetting where
  totalTests := totalTests
  avgRuntimeMs := 1
  elapsedMs := 1
  timeLimitMs := 1
  p50RuntimeMs := 1
  total_pos := total_pos
  avgRuntime_nonneg := by decide +kernel
  elapsed_nonneg := by decide +kernel
  timeLimit_pos := by decide +kernel
  p50Runtime_pos := by decide +kernel

theorem latest_fullDamage (totalTests : ℕ) (total_pos : 1 ≤ totalTests) :
    (latest totalTests total_pos).fullDamage = 40 := by
  change round (80 * max (1 / 2) (1 - 1 / 1 * (1 / 2))) + round (30 * max 0 (1 - 1 / 1)) = 40
  decide +kernel

end DamageSetting

/--
The damage is graded exactly if all tests but one are worth no more than a full solution. That
this is so whatever the times are means that there are at most nine tests.
-/
theorem damage_graded_iff (setting : DamageSetting) :
    (setting.Graded ↔ 5 * (setting.totalTests - 1 : ℤ) ≤
      round (80 * max (1 / 2) (1 - setting.elapsedMs / setting.timeLimitMs * (1 / 2))) +
        round (30 * max 0 (1 - setting.avgRuntimeMs / setting.p50RuntimeMs))) ∧
    ((∀ other : DamageSetting, other.totalTests = setting.totalTests → other.Graded) ↔
      setting.totalTests ≤ 9) := by
  refine ⟨⟨DamageSetting.fits_of_graded, DamageSetting.graded_of_fits⟩, ?_, ?_⟩
  · intro graded
    have fits := DamageSetting.fits_of_graded
      (graded (.latest setting.totalTests setting.total_pos) rfl)
    rw [DamageSetting.latest_fullDamage] at fits
    simp only [DamageSetting.latest] at fits
    omega
  · intro _ other _
    have bounds := other.fullDamage_bounds
    exact DamageSetting.graded_of_fits (by omega)

/-- Nine of ten tests at the end of the time limit deal 45 points, and all ten deal 40. With
thirty tests, 29 of them deal 145 points. -/
theorem partial_solution_beats_full :
    ¬(DamageSetting.latest 10 (by decide)).Graded ∧
    (DamageSetting.latest 30 (by decide)).damage
      ((DamageSetting.latest 30 (by decide)).summaryOf 29 (by decide)) = 145 := by
  refine ⟨fun graded => ?_, by decide +kernel⟩
  have grows := (graded ((DamageSetting.latest 10 (by decide)).summaryOf 9 (by decide))
    ⟨rfl, rfl⟩).2.2.2 ((DamageSetting.latest 10 (by decide)).summaryOf 10 le_rfl) ⟨rfl, rfl⟩
    (by decide)
  revert grows
  decide +kernel

end CodeClash.Battle
