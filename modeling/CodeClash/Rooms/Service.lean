import CodeClash.Rooms.Redis
import Mathlib.Algebra.Order.Round
import Mathlib.Data.Rat.Floor

/-!
# The battle room service

The battles of `packages/backend/src/services/battle-room.service.ts`. The callbacks of timers are
programs of their own. The judge, whose `judgeSubmission` is not defined in the repository, may
answer anything or fail. Arithmetic is exact, `Math.pow(10, x)` is a parameter `powTen`, and
`Math.round` rounds halves up.
-/

namespace CodeClash.Rooms

open Async

def channel (roomId : RoomId) (event : String) : String := "battle:" ++ roomId ++ ":" ++ event

/-- Neither an undefined value nor a text has the method `getTime`. -/
def getTime : Option IsoText → Prog ℤ
  | none => throw .typeError
  | some _ => throw .typeError

/-- The side of a user, where everyone but the first player is taken for the second. -/
def BattleStateData.sideOf (state : BattleStateData) (userId : UserId) : Side :=
  if state.player1.userId = userId then .player1 else .player2

def BattleStateData.opponentOf (state : BattleStateData) (userId : UserId) : UserId :=
  if state.player1.userId = userId then state.player2.userId else state.player1.userId

section Ends

variable (powTen : ℚ → ℚ)

def calculateEloChange (winnerId loserId : UserId) (battleState : BattleStateData) : EloChange :=
  let winner := battleState.player (battleState.sideOf winnerId)
  let loser := battleState.player (battleState.sideOf loserId)
  let eloDiff := loser.elo - winner.elo
  let kFactor : ℚ := 32
  let expectedScore := 1 / (1 + powTen (eloDiff / 400))
  let eloChange := round (kFactor * (1 - expectedScore))
  ⟨eloChange, -eloChange⟩

def calculateRewards : Rewards := ⟨⟨100, 10⟩, ⟨25, 2⟩⟩

/-- The duration in the statistics of a battle, which is zero without a start. -/
def duration : Option IsoText → Prog ℤ
  | none => return 0
  | some startedAt => do
      let now ← getNow
      let startTime ← getTime (some startedAt)
      return now - startTime

def publishUnlocks : List SpellUnlock → Prog Unit
  | [] => return ()
  | unlock :: unlocks => do
      publish ("spell:unlocked:" ++ unlock.userId) (.unlocked unlock)
      publishUnlocks unlocks

def winnerOf (battleState : BattleStateData) (winnerId : Option UserId) : UserId :=
  (winnerId.filter fun winnerId => winnerId ≠ "").getD
    (if battleState.player2.hp < battleState.player1.hp then battleState.player1.userId
      else battleState.player2.userId)

/-- The part of `endBattle` after the state was found. -/
def recordEnd (roomId : RoomId) (battleState : BattleStateData) (winnerId : UserId) :
    Prog Unit := do
  Throwing.ask (request (.stopTimers roomId))
  let loserId := battleState.opponentOf winnerId
  let duration ← duration battleState.room.startedAt
  let damageLog ← Throwing.attempt toError (request (.getDamageLogs roomId))
  let battleStats : BattleStats :=
    { winner := winnerId
      loser := loserId
      duration := duration
      totalSubmissions := battleState.player1.submissions + battleState.player2.submissions
      damageLog := damageLog
      eloChange := calculateEloChange powTen winnerId loserId battleState
      rewards := calculateRewards }
  let endedAt ← getNow
  updateBattleRoom roomId fun room => { room with state := .ended, endedAt := some endedAt }
  publish (channel roomId "end") (.ended battleStats)
  let spellUnlocks ← Throwing.ask (request (.awardSpells winnerId loserId))
  publishUnlocks spellUnlocks
  startTimer (.cleanup roomId)

/-- Errors are caught. -/
def endBattle (roomId : RoomId) (winnerId : Option UserId) : Prog Unit :=
  let ends : Prog Unit := do
    let found ← getBattleState roomId
    match found with
    | none => return ()
    | some battleState =>
      recordEnd powTen roomId battleState (winnerOf battleState winnerId)
  tryCatch ends fun _ => return ()

/-- The winner that `handleForfeit` passes on. -/
def forfeitWinner (roomId : RoomId) (userId : UserId) : Prog (Option UserId) := do
  let room ← getBattleRoom roomId
  if room.map Room.player1Id = some userId then
    let room ← getBattleRoom roomId
    return room.map Room.player2Id
  else return some userId

def handleForfeit (roomId : RoomId) (userId : UserId) : Prog Unit :=
  let forfeits : Prog Unit := do
    let winnerId ← forfeitWinner roomId userId
    endBattle powTen roomId winnerId
  tryCatch forfeits fun _ => return ()

def startCountdown (roomId : RoomId) : Prog Unit := do
  updateBattleRoom roomId fun room => { room with state := .countdown }
  publish (channel roomId "countdown") (.countdown 3)
  startTimer (.countdown roomId 3)

def initializeBattle (roomId : RoomId) (puzzle : Problem) : Prog Unit := do
  let found ← getBattleState roomId
  match found with
  | none => throw .battleStateNotFound
  | some battleState =>
    updateBattleState roomId { battleState with puzzle := some puzzle }
    updateBattleRoom roomId fun room => { room with state := .waiting }
    startTimer (.readyCheck roomId 0)

/-- Errors are caught. -/
def startBattle (roomId : RoomId) : Prog Unit :=
  let starts : Prog Unit := do
    let found ← getBattleState roomId
    match found with
    | none => throw .battleStateNotFound
    | some battleState =>
      let startedAt ← getNow
      updateBattleRoom roomId fun room =>
        { room with state := .active, startedAt := some startedAt }
      updateBattleState roomId { battleState with timeRemaining := battleState.room.timeLimit }
      startTimer (.battle roomId)
      publish (channel roomId "start") (.start battleState.puzzle battleState.room.timeLimit
        battleState.player2.username battleState.player2.elo)
  tryCatch starts fun _ => return ()

def speedMultiplier (runtimeMs : ℚ) : ℚ :=
  if runtimeMs < 500 then 3 / 2 else if runtimeMs < 1000 then 6 / 5
  else if runtimeMs < 2000 then 1 else 4 / 5

/-- The condition `passed === total && player1.userId === userId ? … : …` of the bonus for the
first solution. -/
def firstSolve (judgeResult : JudgeResult) (battleState : BattleStateData) (userId : UserId) :
    Bool :=
  let total := if judgeResult.total = 0 then 1 else judgeResult.total
  if judgeResult.passed = total ∧ battleState.player1.userId = userId then
    battleState.player1.submissions = 1
  else battleState.player2.submissions = 1

def rawDamage (judgeResult : JudgeResult) (battleState : BattleStateData) (userId : UserId) : ℚ :=
  let total := if judgeResult.total = 0 then 1 else judgeResult.total
  let passRatio : ℚ := judgeResult.passed / total
  20 * passRatio * speedMultiplier (judgeResult.executionTime.getD 2000) +
    (if judgeResult.passed = total then 15 else 0) +
    (if firstSolve judgeResult battleState userId then 20 else 0)

/-- The damage of a submission, with the mark of a doubled one. -/
def damageOf (judgeResult : JudgeResult) (battleState : BattleStateData) (userId : UserId)
    (doubled : Bool) : ℤ :=
  let damage := rawDamage judgeResult battleState userId
  min (round (if doubled then damage * 2 else damage)) 70

def calculateDamage (judgeResult : JudgeResult) (battleState : BattleStateData)
    (userId : UserId) : Prog ℤ := do
  let doubleDmgKey : EffectKey := .doubleDamage battleState.room.id userId
  let doubleDmgActive ← getEffect doubleDmgKey
  (if doubleDmgActive then delEffect doubleDmgKey else return ())
  return damageOf judgeResult battleState userId doubleDmgActive

def storeDamageLog (roomId : RoomId) (damageLog : DamageLog) : Prog Unit := do
  Throwing.attempt toError (request (.pushDamageLog roomId damageLog))
  expire (.damageLogs roomId) 3600

def attackAnimation (damage : ℤ) : String :=
  if 40 < damage then "critical" else if 20 < damage then "normal" else "light"

/-- The end of `handleSubmission` for a battle that goes on. -/
def resumeBattle (roomId : RoomId) (battleState : BattleStateData) : Prog Unit := do
  updateBattleRoom roomId fun room => { room with state := .active }
  let now ← getNow
  let startTime ← getTime battleState.room.startedAt
  updateBattleState roomId
    { battleState with timeRemaining := battleState.room.timeLimit - (now - startTime) }

/-- The part of `handleSubmission` after the damage is known. -/
def dealDamage (roomId : RoomId) (userId : UserId) (judgeResult : JudgeResult)
    (battleState : BattleStateData) (damage : ℤ) : Prog Unit := do
  let opponentId := battleState.opponentOf userId
  let opponentSide := battleState.sideOf opponentId
  let oldOpponent := battleState.player opponentSide
  let opponent := { oldOpponent with hp := max 0 (oldOpponent.hp - damage) }
  let battleState := battleState.setPlayer opponentSide opponent
  updateParticipant roomId opponentId opponent.replace
  let id ← Throwing.ask (request .freshId)
  let timestamp ← getNow
  storeDamageLog roomId ⟨id, userId, opponentId, damage, timestamp, judgeResult⟩
  publish (channel roomId "damage")
    (.damage userId opponentId damage opponent.hp (attackAnimation damage))
  if opponent.hp ≤ 0 then endBattle powTen roomId (some userId)
  else resumeBattle roomId battleState

/-- The part of `handleSubmission` after the judge has answered. The state already counts the
submission. -/
def strike (roomId : RoomId) (userId : UserId) (judgeResult : JudgeResult)
    (battleState : BattleStateData) : Prog Unit := do
  let damage ← calculateDamage judgeResult battleState userId
  dealDamage powTen roomId userId judgeResult battleState damage

def BattleStateData.submitted (battleState : BattleStateData) (userId : UserId) :
    BattleStateData :=
  let participant := battleState.player (battleState.sideOf userId)
  battleState.setPlayer (battleState.sideOf userId)
    { participant with submissions := participant.submissions + 1 }

/-- The part of `handleSubmission` after an active battle was found. -/
def submit (roomId : RoomId) (userId : UserId) (code language : String)
    (found : BattleStateData) : Prog Unit := do
  let battleState := found.submitted userId
  let participant := battleState.player (found.sideOf userId)
  updateParticipant roomId userId participant.replace
  updateBattleRoom roomId fun room => { room with state := .judging }
  updateBattleState roomId battleState
  publish (channel roomId "opponent_progress")
    (.opponentProgress (code.splitOn "\n").length participant.submissions)
  let judgeResult ← Throwing.attempt toError (request (.judge code language battleState.puzzle))
  strike powTen roomId userId judgeResult battleState

/-- After an error the room is set to be active. -/
def handleSubmission (roomId : RoomId) (userId : UserId) (code language : String) : Prog Unit :=
  let submits : Prog Unit := do
    let found ← getBattleState roomId
    match found with
    | none => throw .battleNotActive
    | some battleState =>
      if battleState.room.state ≠ .active then throw .battleNotActive
      else submit powTen roomId userId code language battleState
  tryCatch submits fun _ => updateBattleRoom roomId fun room => { room with state := .active }

end Ends

def getSpellManaCost : String → ℤ
  | "hint" => 10
  | "time_freeze" => 20
  | "slow" => 15
  | "oracle_hint" => 30
  | "tower_shield" => 40
  | "debug_ray" => 50
  | "double_damage" => 60
  | "code_wipe" => 70
  | _ => 10

def oracleHint (roomId : RoomId) : Prog SpellEffect := do
  let found ← getBattleState roomId
  let puzzle := found.bind BattleStateData.puzzle
  let hiddenTestCases := (puzzle.map Problem.testCases).getD [] |>.filter TestCase.isHidden
  if hiddenTestCases = [] then
    return { type := "oracle_hint", message := "No hidden test cases found" }
  else
    let index ← Throwing.ask (request (.random hiddenTestCases.length))
    return { type := "oracle_hint", message := "Hidden test case revealed!",
             testCase := hiddenTestCases[index]? }

def timeFreeze (roomId : RoomId) : Prog SpellEffect := do
  let found ← getBattleState roomId
  match found with
  | none => return { type := "time_freeze", message := "Failed to freeze time" }
  | some battleState =>
    updateBattleState roomId battleState
    startTimer (.unfreeze roomId)
    return { type := "time_freeze", message := "Time frozen for 15 seconds!",
             duration := some 15 }

def towerShield (roomId : RoomId) (targetUserId : UserId) : Prog SpellEffect := do
  let found ← getBattleParticipants roomId
  match found.bind fun participants => (participants.findSide targetUserId).map fun
    | .player1 => participants.player1
    | .player2 => participants.player2 with
  | none => return { type := "tower_shield", message := "Target not found" }
  | some target =>
    updateParticipant roomId targetUserId
      { target with shield := some (target.shield.getD 0 + 50) }.replace
    return { type := "tower_shield", message := "Tower Shield activated!", value := some 50,
             targetId := some targetUserId }

/-- Without a target, the cases of the debug ray and the code wipe read a variable of another case
before it is initialised. -/
def applySpellEffect (roomId : RoomId) (spellType : String) (casterId : UserId)
    (targetId : Option UserId) : Prog SpellEffect :=
  match spellType with
  | "oracle_hint" => oracleHint roomId
  | "time_freeze" => timeFreeze roomId
  | "tower_shield" => towerShield roomId (targetId.getD casterId)
  | "debug_ray" =>
    match targetId with
    | none => throw .referenceError
    | some rayTargetId => do
        setEffect (.debugRay roomId rayTargetId) 300
        return { type := "debug_ray", message := "Debug Ray cast!",
                 targetId := some rayTargetId }
  | "double_damage" => do
      setEffect (.doubleDamage roomId casterId) 300
      return { type := "double_damage", message := "Double Damage activated!", value := some 2 }
  | "code_wipe" =>
    match targetId with
    | none => throw .referenceError
    | some wipeTargetId => do
        publish (channel roomId "code_wipe") (.codeWipe wipeTargetId)
        return { type := "code_wipe", message := "Code Wipe cast!",
                 targetId := some wipeTargetId }
  | _ => return { type := "unknown", message := "Unknown spell effect" }

/-- Errors are caught. -/
def handleSpellCast (roomId : RoomId) (userId : UserId) (spellType : String)
    (targetUserId : Option UserId) : Prog Unit :=
  let casts : Prog Unit := do
    let found ← getBattleState roomId
    match found with
    | none => throw .battleNotActive
    | some battleState =>
      let caster := battleState.player (battleState.sideOf userId)
      let manaCost := getSpellManaCost spellType
      if battleState.room.state ≠ .active then throw .battleNotActive
      else if caster.mana < manaCost then throw .insufficientMana
      else
        updateParticipant roomId userId { caster with mana := caster.mana - manaCost }.replace
        let effect ← applySpellEffect roomId spellType userId
          (targetUserId.filter fun targetId => targetId ≠ "")
        publish (channel roomId "spell_used") (.spellUsed userId spellType effect)
  tryCatch casts fun _ => return ()

end CodeClash.Rooms
