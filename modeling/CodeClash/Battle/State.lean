import Mathlib.Algebra.Order.Floor.Semiring
import Mathlib.Data.Rat.Floor
import Mathlib.Tactic.Linarith
import Mathlib.Tactic.Positivity
import Mathlib.Tactic.Simps.Basic

/-!
# Battle records and the pure part of the battle service

The records of `server/src/services/battle.ts` and of the Prisma schema, with the fields that the
modelled functions read. Times are integral milliseconds. Arithmetic in floating point is done in
exact rationals here, with `Math.round x` as the floor of `x + 1/2`. `Math.pow(10, x)` in the rating
formula is a parameter `powTen`.
-/

namespace CodeClash.Battle

abbrev UserId := String
abbrev RoomId := String
abbrev ProblemId := String

/-- A rejected promise. The source only logs what it was rejected with. -/
inductive Failure where
  | rejected
deriving DecidableEq, Repr

inductive Status where
  | waiting
  | countdown
  | active
  | judging
  | ended
deriving DecidableEq, Repr

structure BattleState where
  player1Id : UserId
  player2Id : UserId
  problemId : ProblemId
  hp1 : ℤ
  hp2 : ℤ
  startTimestamp : ℤ
  status : Status
  sub1Count : ℕ
  sub2Count : ℕ
  matchId : Option String
  lastHeartbeat : Option ℤ
deriving DecidableEq, Repr

/-- The columns of `User` that the battle and matchmaking services read or write. -/
structure User where
  username : String
  elo : ℤ
  wins : ℕ
  losses : ℕ
  winStreak : ℕ
deriving DecidableEq, Repr

structure TestCase where
  input : String
  expectedOutput : String
  isHidden : Bool
deriving DecidableEq, Repr

/--
The value found in the `testCases` column. The schema declares the column as a
string, and the service treats it as an array: mapping over a string throws.
-/
inductive TestCases where
  | text (json : String)
  | array (cases : List TestCase)
deriving DecidableEq, Repr

structure Problem where
  id : ProblemId
  testCases : TestCases
  timeLimitMs : ℤ
  p50RuntimeMs : ℤ
deriving DecidableEq, Repr

structure JudgeResult where
  passed : Bool
  runtimeMs : ℕ
  error : Option String
deriving DecidableEq, Repr

/-- The summary of a judge run. The average of runtimes is not negative, and no more tests pass than
there are. -/
structure JudgeSummary where
  totalTests : ℕ
  passedTests : ℕ
  avgRuntimeMs : ℚ
  results : List JudgeResult
  passed_le_total : passedTests ≤ totalTests
  avgRuntime_nonneg : 0 ≤ avgRuntimeMs

def initialHp : ℤ := 500

namespace BattleState

def initial (player1Id player2Id : UserId) (problemId : ProblemId) (now : ℤ)
    (matchId : Option String) : BattleState where
  player1Id := player1Id
  player2Id := player2Id
  problemId := problemId
  hp1 := initialHp
  hp2 := initialHp
  startTimestamp := now
  status := .waiting
  sub1Count := 0
  sub2Count := 0
  matchId := matchId
  lastHeartbeat := none

def isPlayerInBattle (userId : UserId) (state : BattleState) : Bool :=
  state.player1Id = userId ∨ state.player2Id = userId

@[simps]
def withStatus (state : BattleState) (status : Status) : BattleState :=
  { state with status := status }

@[simps]
def stamped (state : BattleState) (now : ℤ) : BattleState :=
  { state with lastHeartbeat := some now }

def countSubmission (state : BattleState) (userId : UserId) : BattleState :=
  if state.player1Id = userId then { state with sub1Count := state.sub1Count + 1 }
  else { state with sub2Count := state.sub2Count + 1 }

def submissionCount (state : BattleState) (userId : UserId) : ℕ :=
  if state.player1Id = userId then state.sub1Count else state.sub2Count

def applyDamage (state : BattleState) (userId : UserId) (damage : ℤ) : BattleState :=
  if 0 < damage then
    if state.player1Id = userId then { state with hp2 := max 0 (state.hp2 - damage) }
    else { state with hp1 := max 0 (state.hp1 - damage) }
  else state

def opponentOf (state : BattleState) (userId : UserId) : UserId :=
  if state.player1Id = userId then state.player2Id else state.player1Id

def concede (state : BattleState) (userId : UserId) : BattleState :=
  if state.player1Id = userId then { state with hp1 := 0 } else { state with hp2 := 0 }

/-- `overrideWinnerId || (hp1 > hp2 ? player1Id : player2Id)`: an absent or empty
override is falsy. -/
def winnerId (state : BattleState) (overrideWinnerId : Option UserId) : UserId :=
  match overrideWinnerId with
  | some override =>
    if override ≠ "" then override
    else if state.hp1 > state.hp2 then state.player1Id else state.player2Id
  | none => if state.hp1 > state.hp2 then state.player1Id else state.player2Id

def loserId (state : BattleState) (winner : UserId) : UserId :=
  if winner = state.player1Id then state.player2Id else state.player1Id

def timeoutWinnerId (state : BattleState) : UserId :=
  if state.hp1 ≥ state.hp2 then state.player1Id else state.player2Id

end BattleState

/-- `Math.round`. -/
def round (x : ℚ) : ℤ := ⌊x + 1 / 2⌋

def calculateDamage (summary : JudgeSummary) (elapsedMs timeLimitMs p50RuntimeMs : ℚ) : ℤ :=
  if summary.passedTests = 0 then 0
  else if summary.passedTests < summary.totalTests then summary.passedTests * 5
  else
    let speedMult : ℚ := max (1 / 2) (1 - elapsedMs / timeLimitMs * (1 / 2))
    let efficiencyBonus : ℤ :=
      if summary.avgRuntimeMs < p50RuntimeMs then
        round (30 * (1 - summary.avgRuntimeMs / p50RuntimeMs))
      else 0
    let baseDamage : ℚ := 80
    min (round (baseDamage * speedMult) + efficiencyBonus) 120

theorem round_nonneg {x : ℚ} (nonneg : 0 ≤ x) : 0 ≤ round x := by
  apply Int.floor_nonneg.mpr
  linarith

theorem calculateDamage_nonneg (summary : JudgeSummary)
    (elapsedMs timeLimitMs p50RuntimeMs : ℚ) :
    0 ≤ calculateDamage summary elapsedMs timeLimitMs p50RuntimeMs := by
  have runtimeNonneg := summary.avgRuntime_nonneg
  simp only [calculateDamage]
  split
  · exact le_rfl
  split
  · positivity
  have speedNonneg : (0 : ℚ) ≤
      80 * max (1 / 2) (1 - elapsedMs / timeLimitMs * (1 / 2)) := by
    have half_le := le_max_left (1 / 2) (1 - elapsedMs / timeLimitMs * (1 / 2))
    linarith
  have baseNonneg := round_nonneg speedNonneg
  split
  · rename_i faster
    have benchmarkPos : (0 : ℚ) < p50RuntimeMs := lt_of_le_of_lt runtimeNonneg faster
    have ratio_le_one : summary.avgRuntimeMs / p50RuntimeMs ≤ 1 :=
      (div_le_one benchmarkPos).mpr faster.le
    have bonusNonneg : 0 ≤ round (30 * (1 - summary.avgRuntimeMs / p50RuntimeMs)) := by
      apply round_nonneg
      linarith
    omega
  · omega

/-- The rating changes of winner and loser, with `powTen x` for `Math.pow(10, x)`. -/
def calculateEloChange (powTen : ℚ → ℚ) (winnerElo loserElo : ℤ) (winnerGames loserGames : ℕ) :
    ℤ × ℤ :=
  let expected : ℚ := 1 / (1 + powTen ((loserElo - winnerElo : ℤ) / 400))
  let winnerK : ℚ := if winnerGames < 30 then 40 else if winnerGames < 100 then 32 else 24
  let loserK : ℚ := if loserGames < 30 then 40 else if loserGames < 100 then 32 else 24
  let winnerChange := round (winnerK * (1 - expected))
  let loserChange := round (loserK * (0 - (1 - expected)))
  (max 1 winnerChange, min (-1) loserChange)

end CodeClash.Battle
