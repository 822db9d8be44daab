import CodeClash.Async.Embedding
import CodeClash.Async.System
import CodeClash.Judge.Judge0
import CodeClash.Judge.RateLimit
import CodeClash.Keys.Expiring
import Mathlib.Algebra.Order.Round
import Mathlib.Data.Int.Log
import Mathlib.Data.Rat.Floor

/-!
# The execution service

`executeCode` of `services/judge/src/services/executionService.ts` with the damage formula of
`damageCalculator.ts`. The battle of a room is a Redis hash that `initializeBattleState` of the API
has created. Redis commands succeed. Calls to the database and requests to Judge0 may fail. The
check of the submitted text is a parameter. A field of the hash is the number whose text it has;
`parseInt` stops at the point, or at the exponent. Arithmetic is exact.
-/

namespace CodeClash.Judge

open Async Program

abbrev UserId := String
abbrev RoomId := String

inductive Side where
  | player1
  | player2
deriving DecidableEq, Repr

def Side.other : Side → Side
  | player1 => player2
  | player2 => player1

theorem Side.other_other (side : Side) : side.other.other = side := by
  cases side <;> rfl

theorem Side.other_eq_of_ne {side other : Side} (different : side ≠ other) :
    side.other = other := by
  cases side <;> cases other <;> first | rfl | exact absurd rfl different

structure PlayerFields where
  hp : Option ℚ
  submissions : Option ℤ
  linesChanged : Option ℤ
deriving DecidableEq, Repr

/-- The hash of a room. A key that does not exist is read as a hash without fields. -/
structure BattleHash where
  player1Id : Option UserId
  player2Id : Option UserId
  player1 : PlayerFields
  player2 : PlayerFields
  status : Option String
  startTime : Option ℤ
  timeLimit : Option ℤ
deriving DecidableEq, Repr

namespace BattleHash

def empty : BattleHash where
  player1Id := none
  player2Id := none
  player1 := ⟨none, none, none⟩
  player2 := ⟨none, none, none⟩
  status := none
  startTime := none
  timeLimit := none

def fields (hash : BattleHash) : Side → PlayerFields
  | .player1 => hash.player1
  | .player2 => hash.player2

def setFields (hash : BattleHash) (side : Side) (fields : PlayerFields) : BattleHash :=
  match side with
  | .player1 => { hash with player1 := fields }
  | .player2 => { hash with player2 := fields }

def setHp (hash : BattleHash) (side : Side) (hp : ℚ) : BattleHash :=
  hash.setFields side { hash.fields side with hp := some hp }

def addSubmission (hash : BattleHash) (side : Side) : BattleHash :=
  hash.setFields side
    { hash.fields side with submissions := some ((hash.fields side).submissions.getD 0 + 1) }

def addLines (hash : BattleHash) (side : Side) (lines : ℕ) : BattleHash :=
  hash.setFields side
    { hash.fields side with linesChanged := some ((hash.fields side).linesChanged.getD 0 + lines) }

def sideOf (hash : BattleHash) (userId : UserId) : Side :=
  if hash.player1Id = some userId then .player1 else .player2

end BattleHash

/-- The hash that the API creates for two players. It does not name them. -/
def initializeBattleState (_player1Id _player2Id : UserId) (now : ℤ) : BattleHash where
  player1Id := none
  player2Id := none
  player1 := ⟨some 100, some 0, some 0⟩
  player2 := ⟨some 100, some 0, some 0⟩
  status := some "WAITING"
  startTime := some now
  timeLimit := some 300

/-- The digits at the front of the text of a number that is not negative. Numbers below 10⁻⁶
and from 10²¹ on are printed with an exponent and have one digit there. -/
def leadingInteger (value : ℚ) : ℤ :=
  if value ≠ 0 ∧ (value < 1 / 10 ^ 6 ∨ 10 ^ 21 ≤ value) then ⌊value / (10 : ℚ) ^ Int.log 10 value⌋
  else ⌊value⌋

/-- The expression `parseInt(value.toString())`. -/
def parsePrinted (value : ℚ) : ℤ :=
  if value < 0 then -leadingInteger (-value) else leadingInteger value

structure PuzzleBenchmark where
  p50RuntimeMs : ℚ
  sampleSize : ℕ
deriving DecidableEq, Repr

structure ExecutionResult where
  passed : ℕ
  total : ℕ
  runtimeMs : ℚ
  memoryKb : ℕ
  statusCode : ℕ
  statusDescription : String
  testCaseResults : List TestCaseResult
  correctnessRatio : ℚ
deriving DecidableEq, Repr

structure DamageCalculation where
  baseDamage : ℚ
  speedMultiplier : ℚ
  efficiencyBonus : ℚ
  allPassBonus : ℚ
  firstSolveBonus : ℚ
  totalDamage : ℚ
  partialDamage : ℚ
  cappedDamage : ℚ
deriving DecidableEq, Repr

structure BattleDamageResult where
  userId : UserId
  roomId : RoomId
  damage : ℚ
  executionResult : ExecutionResult
  damageBreakdown : DamageCalculation
  opponentHp : ℚ
  isBattleOver : Bool
  winner : Option UserId
deriving DecidableEq, Repr

namespace DAMAGE_CONFIG

def BASE_DAMAGE : ℚ := 20
def MAX_DAMAGE : ℚ := 70
def PARTIAL_DAMAGE_PER_TEST : ℚ := 2
def EFFICIENCY_BONUS : ℚ := 10
def ALL_PASS_BONUS : ℚ := 15
def FIRST_SOLVE_BONUS : ℚ := 25
def SPEED_MIN_MULTIPLIER : ℚ := 1 / 2

end DAMAGE_CONFIG

open DAMAGE_CONFIG in
def calculateDamage (executionResult : ExecutionResult) (elapsedSeconds timeLimitSeconds : ℚ)
    (puzzleBenchmark : Option PuzzleBenchmark) (isFirstSolve : Bool) : DamageCalculation :=
  let passed := executionResult.passed
  let total := executionResult.total
  let passedRatio : ℚ := if total > 0 then passed / total else 0
  let baseDamage := BASE_DAMAGE * passedRatio
  let speedMultiplier := max SPEED_MIN_MULTIPLIER (1 - elapsedSeconds / timeLimitSeconds)
  let efficiencyBonus :=
    if puzzleBenchmark.any fun benchmark => executionResult.runtimeMs < benchmark.p50RuntimeMs
    then EFFICIENCY_BONUS else 0
  let allPassBonus := if passed = total ∧ total > 0 then ALL_PASS_BONUS else 0
  let firstSolveBonus := if isFirstSolve then FIRST_SOLVE_BONUS else 0
  let totalDamage := baseDamage * speedMultiplier + efficiencyBonus + allPassBonus + firstSolveBonus
  { baseDamage := baseDamage
    speedMultiplier := speedMultiplier
    efficiencyBonus := efficiencyBonus
    allPassBonus := allPassBonus
    firstSolveBonus := firstSolveBonus
    totalDamage := totalDamage
    partialDamage := passed * PARTIAL_DAMAGE_PER_TEST
    cappedDamage := min totalDamage MAX_DAMAGE }

def calculateBattleDamage (userId : UserId) (roomId : RoomId) (executionResult : ExecutionResult)
    (elapsedSeconds timeLimitSeconds opponentHp : ℚ) (puzzleBenchmark : Option PuzzleBenchmark)
    (isFirstSolve : Bool) : BattleDamageResult :=
  let damageBreakdown := calculateDamage executionResult elapsedSeconds timeLimitSeconds
    puzzleBenchmark isFirstSolve
  let newOpponentHp := max 0 (opponentHp - damageBreakdown.cappedDamage)
  { userId := userId
    roomId := roomId
    damage := damageBreakdown.cappedDamage
    executionResult := executionResult
    damageBreakdown := damageBreakdown
    opponentHp := newOpponentHp
    isBattleOver := newOpponentHp ≤ 0
    winner := if newOpponentHp ≤ 0 then some userId else none }

/-- The summary of the results of all test cases, of which there is at least one. -/
def summarize (testCaseResults : List TestCaseResult) : ExecutionResult :=
  let passed := (testCaseResults.filter TestCaseResult.passed).length
  let total := testCaseResults.length
  let description := (testCaseResults.head?.map TestCaseResult.statusDescription).getD ""
  { passed := passed
    total := total
    runtimeMs := round ((testCaseResults.map TestCaseResult.runtimeMs).sum / total)
    memoryKb := (testCaseResults.map TestCaseResult.memoryKb).foldl max 0
    statusCode := (testCaseResults.head?.map TestCaseResult.statusCode).getD 0
    statusDescription := if description = "" then "Unknown" else description
    testCaseResults := testCaseResults
    correctnessRatio := if total > 0 then passed / total else 0 }

inductive Failure where
  | rejected
deriving DecidableEq, Repr

structure ExecutionRequest where
  code : String
  language : String
  puzzleId : String
  userId : UserId
  roomId : RoomId
  submissionId : Option String
deriving DecidableEq, Repr

/-- The columns of a puzzle that are read. Time limits are positive. -/
structure Puzzle where
  testCases : List TestCase
  timeLimitMs : ℤ
  timeLimitMs_pos : 0 < timeLimitMs

structure SubmissionRow where
  id : Option String
  matchId : RoomId
  userId : UserId
  problemId : String
  code : String
  language : String
  passedTests : ℕ
  totalTests : ℕ
  execTimeMs : ℚ
  damageDealt : ℚ
deriving DecidableEq, Repr

inductive Cmd where
  | now
  | judge0 (cmd : Judge0.Cmd)
  | checkSubmissionRateLimit (userId : UserId)
  | findPuzzle (puzzleId : String)
  | findBenchmark (puzzleId language : String)
  | createBenchmark (puzzleId language : String) (benchmark : PuzzleBenchmark)
  | updateBenchmark (puzzleId language : String) (benchmark : PuzzleBenchmark)
  | createSubmission (row : SubmissionRow)
  | hGetAll (roomId : RoomId)
  | setHp (roomId : RoomId) (side : Side) (hp : ℚ)
  | addSubmission (roomId : RoomId) (side : Side)
  | addLines (roomId : RoomId) (side : Side) (lines : ℕ)
  | getFirstSolve (roomId : RoomId)
  | setFirstSolve (roomId : RoomId) (userId : UserId) (solution : ExecutionResult)
  | setDamageEvent (battleDamage : BattleDamageResult) (timestamp : ℤ)

abbrev Cmd.Reply : Cmd → Type
  | .now => ℤ
  | .judge0 cmd => cmd.Reply
  | .checkSubmissionRateLimit _ => RateLimit
  | .findPuzzle _ => Except Failure (Option Puzzle)
  | .findBenchmark _ _ => Except Failure (Option PuzzleBenchmark)
  | .createBenchmark _ _ _ => Except Failure Unit
  | .updateBenchmark _ _ _ => Except Failure Unit
  | .createSubmission _ => Except Failure Unit
  | .hGetAll _ => BattleHash
  | .getFirstSolve _ => Option UserId
  | _ => Unit

abbrev signature : Signature where
  Cmd := Cmd
  Reply := Cmd.Reply

abbrev Prog (α : Type) := Program signature α

abbrev request (cmd : Cmd) : Prog cmd.Reply := @Program.perform signature cmd

abbrev judge0Client {α : Type} (program : Judge0.Prog α) : Prog α :=
  @Program.embed Judge0.signature signature α .judge0 (fun _ reply => reply) program

inductive ExecutionError where
  | message (text : String)
  | database
deriving DecidableEq, Repr

section Service

def getBattleState (roomId : RoomId) : Prog BattleHash := request (.hGetAll roomId)

def getPuzzleBenchmark (puzzleId language : String) : Prog (Option PuzzleBenchmark) := do
  match ← request (.findBenchmark puzzleId language) with
  | .ok benchmark => return benchmark
  | .error _ => return none

/-- The solution is what the caller has just judged; it is only remembered for the proofs. -/
def checkFirstSolve (roomId : RoomId) (userId : UserId) (solution : ExecutionResult) :
    Prog Bool := do
  if solution.passed ≠ solution.total then return false
  else
    let existingFirstSolve ← request (.getFirstSolve roomId)
    if existingFirstSolve.getD "" ≠ "" then return false
    else
      request (.setFirstSolve roomId userId solution)
      return true

def getOpponentHp (roomId : RoomId) (userId : UserId) : Prog ℤ := do
  let battleState ← getBattleState roomId
  match (battleState.fields (battleState.sideOf userId).other).hp with
  | some hp => return parsePrinted hp
  | none => return 100

def updatePuzzleBenchmark (puzzleId language : String) (runtimeMs : ℚ) : Prog Unit := do
  match ← request (.findBenchmark puzzleId language) with
  | .error _ => return ()
  | .ok none =>
    let _ ← request (.createBenchmark puzzleId language ⟨runtimeMs, 1⟩)
    return ()
  | .ok (some existing) =>
    let newSampleSize := existing.sampleSize + 1
    let newP50 : ℚ := (existing.p50RuntimeMs * existing.sampleSize + runtimeMs) / newSampleSize
    let _ ← request (.updateBenchmark puzzleId language ⟨round newP50, newSampleSize⟩)
    return ()

def storeSubmission (execution : ExecutionRequest) (executionResult : ExecutionResult)
    (damage : ℚ) : Prog Unit := do
  let _ ← request (.createSubmission
    { id := execution.submissionId, matchId := execution.roomId, userId := execution.userId
      problemId := execution.puzzleId, code := execution.code, language := execution.language
      passedTests := executionResult.passed, totalTests := executionResult.total
      execTimeMs := executionResult.runtimeMs, damageDealt := damage })
  return ()

def updateBattleState (roomId : RoomId) (userId : UserId) (battleDamage : BattleDamageResult) :
    Prog Unit := do
  let battleState ← getBattleState roomId
  let side := battleState.sideOf userId
  request (.setHp roomId side.other battleDamage.opponentHp)
  request (.addSubmission roomId side)
  request (.addLines roomId side battleDamage.executionResult.testCaseResults.length)

def emitBattleDamage (battleDamage : BattleDamageResult) : Prog Unit := do
  let timestamp ← request .now
  request (.setDamageEvent battleDamage timestamp)

/-- Steps 9 to 12 of `executeCode`: the damage is recorded. -/
def recordDamage (execution : ExecutionRequest) (battleDamage : BattleDamageResult) :
    Prog Unit := do
  let executionResult := battleDamage.executionResult
  (if executionResult.passed = executionResult.total ∧ executionResult.runtimeMs > 0 then
    updatePuzzleBenchmark execution.puzzleId execution.language executionResult.runtimeMs
  else return ())
  storeSubmission execution executionResult battleDamage.damage
  updateBattleState execution.roomId execution.userId battleDamage
  emitBattleDamage battleDamage

/-- Steps 5 to 12 of `executeCode`. -/
def assessExecution (execution : ExecutionRequest) (executionResult : ExecutionResult)
    (elapsedSeconds timeLimitSeconds : ℚ) : Prog BattleDamageResult := do
  let puzzleBenchmark ← getPuzzleBenchmark execution.puzzleId execution.language
  let isFirstSolve ← checkFirstSolve execution.roomId execution.userId executionResult
  let opponentHp ← getOpponentHp execution.roomId execution.userId
  let battleDamage := calculateBattleDamage execution.userId execution.roomId executionResult
    elapsedSeconds timeLimitSeconds opponentHp puzzleBenchmark isFirstSolve
  recordDamage execution battleDamage
  return battleDamage

/-- The expression `parseInt(battleState.startTime || Date.now().toString())`. -/
def startTimeOf (battleState : BattleHash) : Prog ℤ :=
  match battleState.startTime with
  | some startTime => return startTime
  | none => request .now

/-- Steps 2 to 12 of `executeCode`. -/
def executePuzzle (execution : ExecutionRequest) (puzzle : Puzzle) : Prog BattleDamageResult := do
  let battleState ← getBattleState execution.roomId
  let startTime ← startTimeOf battleState
  let now ← request .now
  let testCaseResults ← judge0Client
    (submitBatch execution.code execution.language puzzle.testCases)
  assessExecution execution (summarize testCaseResults) ((now - startTime) / 1000)
    (puzzle.timeLimitMs / 1000)

def rateLimitMessage (resetTime : Option ℤ) (now : ℤ) : String :=
  "Rate limit exceeded. Try again in " ++
    (match resetTime with
      | some resetTime => toString ⌈((resetTime - now : ℤ) : ℚ) / 1000⌉
      | none => "NaN") ++ " seconds"

/-- `securityErrors` are the errors of `validateSecurityConstraints`. -/
def executeCode (securityErrors : String → String → List String) (execution : ExecutionRequest) :
    Prog (Except ExecutionError BattleDamageResult) :=
  match securityErrors execution.code execution.language with
  | error :: errors => return .error (.message
      ("Security validation failed: " ++ ", ".intercalate (error :: errors)))
  | [] => do
      let rateLimitCheck ← request (.checkSubmissionRateLimit execution.userId)
      if rateLimitCheck.allowed = false then
        let now ← request .now
        return .error (.message (rateLimitMessage rateLimitCheck.resetTime now))
      else
        match ← request (.findPuzzle execution.puzzleId) with
        | .error _ => return .error .database
        | .ok none => return .error (.message ("Puzzle not found: " ++ execution.puzzleId))
        | .ok (some puzzle) =>
          if puzzle.testCases = [] then
            return .error (.message ("No test cases found for puzzle: " ++ execution.puzzleId))
          else
            let battleDamage ← executePuzzle execution puzzle
            return .ok battleDamage

end Service

def Cmd.Incidental : Cmd → Prop
  | .setHp _ _ _ | .addSubmission _ _ | .addLines _ _ _ | .setFirstSolve _ _ _ => False
  | _ => True

section Incidental

variable {roomId : RoomId} {userId : UserId}

theorem getPuzzleBenchmark_incidental (puzzleId language : String) :
    (getPuzzleBenchmark puzzleId language).Uses Cmd.Incidental := by
  apply uses_perform_bind (by exact trivial)
  intro _
  split <;> trivial

theorem getOpponentHp_incidental : (getOpponentHp roomId userId).Uses Cmd.Incidental := by
  apply uses_perform_bind (by exact trivial)
  intro _
  split <;> trivial

theorem updatePuzzleBenchmark_incidental (puzzleId language : String) (runtimeMs : ℚ) :
    (updatePuzzleBenchmark puzzleId language runtimeMs).Uses Cmd.Incidental := by
  apply uses_perform_bind (by exact trivial)
  intro _
  split
  · trivial
  · exact uses_perform_bind (by exact trivial) fun _ => trivial
  · exact uses_perform_bind (by exact trivial) fun _ => trivial

theorem storeSubmission_incidental (execution : ExecutionRequest) (result : ExecutionResult)
    (damage : ℚ) : (storeSubmission execution result damage).Uses Cmd.Incidental :=
  uses_perform_bind (by exact trivial) fun _ => trivial

theorem emitBattleDamage_incidental (battleDamage : BattleDamageResult) :
    (emitBattleDamage battleDamage).Uses Cmd.Incidental :=
  uses_perform_bind (by exact trivial) fun _ => uses_perform (by exact trivial)

theorem judge0Client_incidental {α : Type} (program : Judge0.Prog α) :
    (judge0Client program).Uses Cmd.Incidental :=
  (uses_of_forall (fun _ => trivial) program).embed fun _ (_ : True) => trivial

theorem startTimeOf_incidental (battleState : BattleHash) :
    (startTimeOf battleState).Uses Cmd.Incidental := by
  rw [startTimeOf]
  split
  · trivial
  · exact uses_perform (by exact trivial)

end Incidental

/-- What the proofs look back at: the solutions that were taken for the first of their room. -/
inductive Event where
  | firstSolved (roomId : RoomId) (userId : UserId) (solution : ExecutionResult)
deriving DecidableEq, Repr

/-- Redis and the tables that the service reads, with a log, newest first. -/
structure Store where
  rooms : RoomId → BattleHash
  firstSolves : Keys.Expiring RoomId UserId
  benchmarks : String × String → Option PuzzleBenchmark
  damageEvents : RoomId → Option (BattleDamageResult × ℤ)
  log : List Event

structure Judge0Answers where
  system : Except Judge0.HttpError Unit
  token : Except Judge0.HttpError String
  result : Except Judge0.HttpError Judge0Result

structure Choice where
  now : ℤ
  fails : Bool
  rateLimit : RateLimit
  puzzle : Option Puzzle
  judge0 : Judge0Answers

def Judge0Answers.reply (answers : Judge0Answers) (now : ℤ) : (cmd : Judge0.Cmd) → cmd.Reply
  | .now => now
  | .delay _ => ()
  | .getSystem => answers.system
  | .postSubmission _ => answers.token
  | .getSubmission _ => answers.result

def answer {α : Type} (fails : Bool) (value : α) : Except Failure α :=
  if fails then .error .rejected else .ok value

namespace Store

def updateRoom (store : Store) (roomId : RoomId) (change : BattleHash → BattleHash) : Store :=
  { store with rooms := Function.update store.rooms roomId (change (store.rooms roomId)) }

def putBenchmark (store : Store) (fails : Bool) (puzzleId language : String)
    (benchmark : PuzzleBenchmark) : Store :=
  if fails then store
  else { store with
    benchmarks := Function.update store.benchmarks (puzzleId, language) (some benchmark) }

end Store

/-- The reply to a command and the store after it. The mark of the first solution lives for an
hour, and a puzzle has one benchmark for each language. -/
def handle (cmd : Cmd) (choice : Choice) (store : Store) : cmd.Reply × Store :=
  match cmd with
  | .now => (choice.now, store)
  | .judge0 cmd => (choice.judge0.reply choice.now cmd, store)
  | .checkSubmissionRateLimit _ => (choice.rateLimit, store)
  | .findPuzzle _ => (answer choice.fails choice.puzzle, store)
  | .findBenchmark puzzleId language =>
    (answer choice.fails (store.benchmarks (puzzleId, language)), store)
  | .createBenchmark puzzleId language benchmark =>
    let rejected := choice.fails || (store.benchmarks (puzzleId, language)).isSome
    (answer rejected (), store.putBenchmark rejected puzzleId language benchmark)
  | .updateBenchmark puzzleId language benchmark =>
    (answer choice.fails (), store.putBenchmark choice.fails puzzleId language benchmark)
  | .createSubmission _ => (answer choice.fails (), store)
  | .hGetAll roomId => (store.rooms roomId, store)
  | .setHp roomId side hp => ((), store.updateRoom roomId fun hash => hash.setHp side hp)
  | .addSubmission roomId side => ((), store.updateRoom roomId fun hash => hash.addSubmission side)
  | .addLines roomId side lines =>
    ((), store.updateRoom roomId fun hash => hash.addLines side lines)
  | .getFirstSolve roomId => (store.firstSolves.get choice.now roomId, store)
  | .setFirstSolve roomId userId solution => ((), { store with
      firstSolves := store.firstSolves.setEx choice.now roomId 3600000 userId
      log := .firstSolved roomId userId solution :: store.log })
  | .setDamageEvent battleDamage timestamp => ((), { store with
      damageEvents := Function.update store.damageEvents battleDamage.roomId
        (some (battleDamage, timestamp)) })

inductive Environment where
  | roomCreated (roomId : RoomId) (player1Id player2Id : UserId) (now : ℤ)
  | roomExpired (roomId : RoomId)
deriving DecidableEq

def happen : Environment → Store → Option Store
  | .roomCreated roomId player1Id player2Id now, store =>
    some (store.updateRoom roomId fun _ => initializeBattleState player1Id player2Id now)
  | .roomExpired roomId, store => some (store.updateRoom roomId fun _ => .empty)

def server (securityErrors : String → String → List String) :
    Server signature Store ExecutionRequest Choice Environment where
  handle := handle
  accept _ store := some store
  body _ execution := do
    let _ ← executeCode securityErrors execution
    return ()
  happen := happen

abbrev ServerState := State signature Store ExecutionRequest
abbrev ServerAction := Action ExecutionRequest Choice Environment

def emptyStore : Store where
  rooms := fun _ => .empty
  firstSolves := fun _ => none
  benchmarks := fun _ => none
  damageEvents := fun _ => none
  log := []

def freshServer : ServerState where
  store := emptyStore
  processes := fun _ => none

end CodeClash.Judge
