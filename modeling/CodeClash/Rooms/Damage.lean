import CodeClash.Rooms.Working

/-!
# The damage of a submission

The bonus for the first solution is granted under the condition `passed === total && player1.userId
=== userId ? … : …`, in which the conditional binds weaker than the conjunction. So as soon as a
test fails, the submissions of the second player decide.
-/

namespace CodeClash.Rooms

def BattleStateData.swap (state : BattleStateData) : BattleStateData :=
  { state with player1 := state.player2, player2 := state.player1 }

def FirstSolve (judgeResult : JudgeResult) (state : BattleStateData) (userId : UserId) : Prop :=
  judgeResult.passed = judgeResult.total ∧ (state.player (state.sideOf userId)).submissions = 1

/-- The damage without the bonus for the first solution or with it. -/
def damageWith (judgeResult : JudgeResult) (bonus doubled : Bool) : ℤ :=
  let total := if judgeResult.total = 0 then 1 else judgeResult.total
  let passRatio : ℚ := judgeResult.passed / total
  let damage := 20 * passRatio * speedMultiplier (judgeResult.executionTime.getD 2000) +
    (if judgeResult.passed = total then 15 else 0) + (if bonus then 20 else 0)
  min (round (if doubled then damage * 2 else damage)) 70

theorem speedMultiplier_le (runtimeMs : ℚ) : 0 ≤ speedMultiplier runtimeMs ∧
    speedMultiplier runtimeMs ≤ 3 / 2 := by
  unfold speedMultiplier
  split_ifs <;> norm_num

variable {judgeResult : JudgeResult} {state : BattleStateData} {userId : UserId}

theorem total_eq (positive : 1 ≤ judgeResult.total) :
    (if judgeResult.total = 0 then 1 else judgeResult.total) = judgeResult.total :=
  if_neg (Nat.one_le_iff_ne_zero.mp positive)

theorem min_round_add_ne {damage : ℚ} (small : damage < 60) {bonus : ℕ} (positive : 1 ≤ bonus) :
    min (round (damage + bonus)) 70 ≠ min (round damage) 70 := by
  have low : round damage < 61 := by
    rw [round_eq, Int.floor_lt]
    norm_num
    linarith
  rw [round_add_natCast, min_eq_left (Int.le_of_lt (low.trans (by decide)))]
  omega

theorem damageWith_ne (fails : judgeResult.passed < judgeResult.total) (doubled : Bool) :
    damageWith judgeResult true doubled ≠ damageWith judgeResult false doubled := by
  rcases speedMultiplier_le (judgeResult.executionTime.getD 2000) with ⟨_, _⟩
  have positive : (0 : ℚ) < judgeResult.total := by exact_mod_cast Nat.zero_lt_of_lt fails
  have ratio : (judgeResult.passed : ℚ) / judgeResult.total < 1 := by
    rw [div_lt_one positive]
    exact_mod_cast fails
  have ratioNonneg : (0 : ℚ) ≤ judgeResult.passed / judgeResult.total := by positivity
  have small : 20 * ((judgeResult.passed : ℚ) / judgeResult.total) *
      speedMultiplier (judgeResult.executionTime.getD 2000) < 30 := by
    nlinarith
  simp only [damageWith, total_eq (Nat.one_le_of_lt fails), fails.ne, if_false, if_true, add_zero]
  cases doubled with
  | false =>
    simp only [Bool.false_eq_true, if_false, add_zero]
    exact_mod_cast @min_round_add_ne _ (small.trans (by norm_num)) 20 (by decide)
  | true =>
    have doubledSmall : 20 * ((judgeResult.passed : ℚ) / judgeResult.total) *
        speedMultiplier (judgeResult.executionTime.getD 2000) * 2 < 60 := by
      linarith
    simp only [if_true, Bool.false_eq_true, if_false, add_mul, add_zero]
    exact_mod_cast @min_round_add_ne _ doubledSmall (20 * 2) (by decide)

theorem damageWith_zero (none : judgeResult.passed = 0) (positive : 1 ≤ judgeResult.total)
    (doubled : Bool) : damageWith judgeResult false doubled = 0 := by
  have fails : (0 : ℕ) ≠ judgeResult.total := by omega
  simp [damageWith, total_eq positive, none, fails]

theorem firstSolve_of_fails (fails : judgeResult.passed ≠ judgeResult.total)
    (positive : 1 ≤ judgeResult.total) :
    firstSolve judgeResult state userId = decide (state.player2.submissions = 1) := by
  rw [firstSolve]
  simp [total_eq positive, fails]

theorem firstSolve_of_solved (solved : judgeResult.passed = judgeResult.total)
    (positive : 1 ≤ judgeResult.total) : firstSolve judgeResult state userId =
      decide ((state.player (state.sideOf userId)).submissions = 1) := by
  simp only [firstSolve, total_eq positive, solved, true_and, BattleStateData.sideOf]
  split <;> rfl

theorem submissions_swap (distinct : state.player1.userId ≠ state.player2.userId)
    (plays : userId = state.player1.userId ∨ userId = state.player2.userId) :
    state.swap.player (state.swap.sideOf userId) = state.player (state.sideOf userId) := by
  rcases plays with rfl | rfl
  · simp [BattleStateData.swap, BattleStateData.sideOf, BattleStateData.player, distinct.symm]
  · simp [BattleStateData.swap, BattleStateData.sideOf, BattleStateData.player, distinct]

/-- What `calculateDamage` returns in a run that nothing disturbs. -/
def dealt (judgeResult : JudgeResult) (state : BattleStateData) (userId : UserId)
    (choices : ℕ → Choice) (store : Store) : Except RoomError ℤ :=
  (runWorking (calculateDamage judgeResult state userId) none choices store).1

theorem dealt_eq (choices : ℕ → Choice) (store : Store) :
    dealt judgeResult state userId choices store =
      .ok (damageWith judgeResult (firstSolve judgeResult state userId)
        (store.effects (.doubleDamage state.room.id userId))) :=
  (runWorking_of_obeys (calculateDamage_ends judgeResult state userId) choices).1

/-- The damage follows the rules and does not depend on the roles of the players exactly if all
tests pass or neither player has a single submission. -/
theorem damage_sound_iff (judgeResult : JudgeResult) (state : BattleStateData) (userId : UserId)
    (choices : ℕ → Choice) (store : Store) (positive : 1 ≤ judgeResult.total)
    (atMost : judgeResult.passed ≤ judgeResult.total)
    (distinct : state.player1.userId ≠ state.player2.userId)
    (plays : userId = state.player1.userId ∨ userId = state.player2.userId) :
    ((judgeResult.passed = 0 → dealt judgeResult state userId choices store = .ok 0) ∧
      (¬FirstSolve judgeResult state userId → dealt judgeResult state userId choices store =
        .ok (damageWith judgeResult false (store.effects (.doubleDamage state.room.id userId)))) ∧
      dealt judgeResult state.swap userId choices store =
        dealt judgeResult state userId choices store) ↔
    judgeResult.passed = judgeResult.total ∨
      state.player1.submissions ≠ 1 ∧ state.player2.submissions ≠ 1 := by
  simp only [dealt_eq, Except.ok.injEq]
  by_cases solved : judgeResult.passed = judgeResult.total
  · refine iff_of_true ⟨fun none => ?_, fun unsolved => ?_, ?_⟩ (.inl solved)
    · omega
    · rw [firstSolve_of_solved solved positive, decide_eq_false]
      exact fun first => unsolved ⟨solved, first⟩
    · rw [firstSolve_of_solved solved positive, firstSolve_of_solved solved positive,
        submissions_swap distinct plays]
      rfl
  · have fails : judgeResult.passed < judgeResult.total := lt_of_le_of_ne atMost solved
    simp only [firstSolve_of_fails solved positive]
    constructor
    · rintro ⟨_, unsolved, swapped⟩
      have second : state.player2.submissions ≠ 1 := by
        intro one
        have same := unsolved fun first => solved first.1
        rw [decide_eq_true one] at same
        exact damageWith_ne fails _ same
      refine .inr ⟨fun one => ?_, second⟩
      rw [decide_eq_false second, decide_eq_true (show state.swap.player2.submissions = 1 from one)]
        at swapped
      exact damageWith_ne fails _ swapped
    · rintro (isSolved | ⟨first, second⟩)
      · exact absurd isSolved solved
      · have swapped : state.swap.player2.submissions ≠ 1 := first
        rw [decide_eq_false second, decide_eq_false swapped]
        exact ⟨fun none => damageWith_zero none positive _, fun _ => rfl, rfl⟩

def tried : BattleStateData :=
  ⟨(sampleRoom .active).stringify, { samplePlayer "ann" with submissions := 1 },
    { samplePlayer "bob" with submissions := 1 }, none, 0, "ann"⟩

theorem damage_of_no_test : dealt ⟨0, 3, none⟩ tried "ann" noon emptyStore = .ok 20 := by
  decide +kernel

theorem damage_sound_solved : dealt ⟨3, 3, none⟩ tried.swap "ann" noon emptyStore =
    dealt ⟨3, 3, none⟩ tried "ann" noon emptyStore :=
  ((damage_sound_iff ⟨3, 3, none⟩ tried "ann" noon emptyStore (by decide) (by decide) (by decide)
    (by decide)).mpr (.inl rfl)).2.2

end CodeClash.Rooms
