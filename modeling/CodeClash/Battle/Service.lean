import CodeClash.Battle.Commands

/-!
# The battle service

The asynchronous functions of `server/src/services/battle.ts`, the timers of
`server/src/services/matchmaking.ts` and `handleGraceTimeout` of `server/src/index.ts`. A callback
that a function leaves behind with `setTimeout` continues the program of that function. The deletion
of an ended room is an event of its own, because the function that schedules it goes on. `self` is
the number of the running call. It stands for the random value that a submission stores in its lock.
-/

namespace CodeClash.Battle

open Async Function

abbrev request (cmd : Cmd) : Prog cmd.Reply := @Program.perform signature cmd

/-- `Promise.all` of two calls: both are made, in either order, and one rejection
rejects the pair. -/
def promiseAll {α β : Type} (first : Prog (Except Failure α)) (second : Prog (Except Failure β)) :
    Prog (Except Failure (α × β)) := do
  if ← request .order then
    let left ← first
    let right ← second
    return both left right
  else
    let right ← second
    let left ← first
    return both left right
where
  both (left : Except Failure α) (right : Except Failure β) : Except Failure (α × β) :=
    match left, right with
    | .ok left, .ok right => .ok (left, right)
    | _, _ => .error .rejected

def getBattleState (roomId : RoomId) : Prog (Option BattleState) :=
  request (.getBattle roomId)

/-- Store the state with a fresh heartbeat. The stamped object is what the caller
goes on with. -/
def saveBattleState (roomId : RoomId) (state : BattleState) (strike : Option Strike) :
    Prog BattleState := do
  let now ← request .now
  request (.setBattle roomId (state.stamped now) strike)
  return state.stamped now

def getProblemData (problemId : ProblemId) : Prog (Option Problem × List TestCase) := do
  match ← request (.findProblem problemId) with
  | .ok (some problem) =>
    match problem.testCases with
    | .array testCases => return (some problem, testCases)
    | .text _ => return (none, [])
  | .ok none => return (none, [])
  | .error _ => return (none, [])

def getUserById (userId : UserId) : Prog (Except Failure (Option User)) :=
  request (.findUser userId)

def languageIdToName (id : ℕ) : String :=
  match id with
  | 63 => "javascript"
  | 71 => "python"
  | 54 => "cpp"
  | 62 => "java"
  | 74 => "typescript"
  | 68 => "php"
  | 72 => "ruby"
  | 60 => "go"
  | _ => "unknown"

def usernameOr (fallback : String) (user : Option User) : String :=
  match user with
  | some user => if user.username ≠ "" then user.username else fallback
  | none => fallback

def acquireDistributedLock (userId : UserId) (self : ℕ) : Prog Bool := do
  if ← request (.setLock userId self) then
    request (.setLockValue userId self)
    return true
  else
    return false

def releaseDistributedLock (userId : UserId) (self : ℕ) : Prog Unit := do
  match ← request (.getLockValue userId self) with
  | none => return ()
  | some lockValue =>
    request (.evalUnlock userId lockValue self)
    request (.delLockValue userId)

def ACHIEVEMENTS : List Achievement :=
  [ { id := "first-blood", name := "First Blood", icon := "⚔️"
      condition := fun stats => stats.firstWin = some true },
    { id := "veteran", name := "Veteran", icon := "🏅"
      condition := fun stats => stats.wins ≥ 10 },
    { id := "champion", name := "Champion", icon := "🏆"
      condition := fun stats => stats.wins ≥ 25 },
    { id := "speed-demon", name := "Speed Demon", icon := "⚡"
      condition := fun stats =>
        match stats.battleDurationMs with
        | some duration => duration ≠ 0 ∧ duration < 60000
        | none => false },
    { id := "untouchable", name := "Untouchable", icon := "🛡️"
      condition := fun stats =>
        stats.damageReceived = some 0 ∧ (stats.wins > 0 ∨ stats.firstWin = some true) },
    { id := "comeback-kid", name := "Comeback Kid", icon := "🔥"
      condition := fun stats => stats.winStreak ≥ 5 },
    { id := "wizard", name := "Wizard", icon := "🪄"
      condition := fun stats => stats.spellsCast.getD 0 ≥ 10 } ]

/-- The loop of `checkAndGrant`. A rejected creation is ignored. -/
def grantAll (userId : UserId) (stats : AchievementStats) (earnedIds : List String) :
    List Achievement → Prog (List Achievement)
  | [] => return []
  | achievement :: rest =>
    if achievement.id ∉ earnedIds ∧ achievement.condition stats then do
      match ← request (.createAchievement userId achievement) with
      | .ok _ => do
          let newlyEarned ← grantAll userId stats earnedIds rest
          return achievement :: newlyEarned
      | .error _ => grantAll userId stats earnedIds rest
    else grantAll userId stats earnedIds rest

def checkAndGrant (userId : UserId) (stats : AchievementStats) :
    Prog (Except Failure (List Achievement)) := do
  match ← request (.findAchievements userId) with
  | .error failure => return .error failure
  | .ok earnedIds => do
      let newlyEarned ← grantAll userId stats earnedIds ACHIEVEMENTS
      return .ok newlyEarned

def updateBattleStats (roomId : RoomId) (winnerId loserId : UserId)
    (winnerEloChange loserEloChange : ℤ) : Prog (Except Failure (Unit × Unit)) :=
  promiseAll (request (.rate roomId (.won winnerId winnerEloChange)))
    (request (.rate roomId (.lost loserId loserEloChange)))

/-- `user?.elo || 1000`. -/
def eloOrDefault (user : Option User) : ℤ :=
  match user with
  | some user => if user.elo ≠ 0 then user.elo else 1000
  | none => 1000

def winsOrZero (user : Option User) : ℕ :=
  match user with
  | some user => user.wins
  | none => 0

/-- The statistics `endBattle` passes to `checkAndGrant`, from the winner's row as it
is read after the update. -/
def winnerStats (winner : Option User) (battleDurationMs damageReceived : ℤ) :
    AchievementStats where
  wins := winsOrZero winner + 1
  losses := (winner.map User.losses).getD 0
  winStreak := (winner.map User.winStreak).getD 0
  battleDurationMs := some battleDurationMs
  damageReceived := some damageReceived
  spellsCast := none
  firstWin := some (decide (winsOrZero winner = 0))

section Ending

variable (powTen : ℚ → ℚ)

/-- The `try` block of `endBattle`: ratings, achievements, streaks, the notification
and the deletion of the room. -/
def settleBattle (roomId : RoomId) (state : BattleState) (winnerId loserId : UserId) :
    Prog (Except Failure Unit) := do
  match ← promiseAll (getUserById winnerId) (getUserById loserId) with
  | .error failure => return .error failure
  | .ok (winner, loser) =>
    let change := calculateEloChange powTen (eloOrDefault winner) (eloOrDefault loser)
      (winsOrZero winner) (winsOrZero loser)
    match ← updateBattleStats roomId winnerId loserId change.1 change.2 with
    | .error failure => return .error failure
    | .ok _ =>
      let now ← request .now
      let battleDurationMs := now - state.startTimestamp
      let winnerDamageReceived :=
        if winnerId = state.player1Id then initialHp - state.hp1 else initialHp - state.hp2
      match ← getUserById winnerId with
      | .error failure => return .error failure
      | .ok winnerUser =>
        match ← checkAndGrant winnerId
            (winnerStats winnerUser battleDurationMs winnerDamageReceived) with
        | .error failure => return .error failure
        | .ok newAchievements =>
          match ← request (.rate roomId (.streakIncremented winnerId)) with
          | .error failure => return .error failure
          | .ok _ =>
            match ← request (.rate roomId (.streakReset loserId)) with
            | .error failure => return .error failure
            | .ok _ =>
              request (.emit (.room roomId) (.ended winnerId
                (usernameOr "Unknown" winner) loserId state.hp1 state.hp2
                change.1 change.2 (newAchievements.map Achievement.id)))
              request (.deleteLater roomId)
              return .ok ()

def endBattle (roomId : RoomId) (state : BattleState) (overrideWinnerId : Option UserId) :
    Prog Unit := do
  let winnerId := state.winnerId overrideWinnerId
  let loserId := state.loserId winnerId
  let state ← saveBattleState roomId (state.withStatus .ended) none
  let _ ← settleBattle powTen roomId state winnerId loserId
  return ()

end Ending

structure SubmitRequest where
  code : String
  languageId : ℕ
  roomId : RoomId
  userId : UserId
deriving DecidableEq, Repr

def saveSubmission (submit : SubmitRequest) (state : BattleState) (summary : JudgeSummary)
    (damage : ℤ) : Prog (Except Failure Unit) :=
  match state.matchId with
  | none => return .ok ()
  | some matchId =>
    if matchId = "" then return .ok ()
    else request (.createSubmission
      { matchId := matchId, userId := submit.userId, problemId := state.problemId
        code := submit.code, language := languageIdToName submit.languageId
        passedTests := summary.passedTests, totalTests := summary.totalTests
        execTimeMs := round summary.avgRuntimeMs, damageDealt := damage })

/-- `x || fallback` on numbers. -/
def orElse (x fallback : ℤ) : ℤ := if x ≠ 0 then x else fallback

section Submitting

variable (powTen : ℚ → ℚ) (submit : SubmitRequest) (self : ℕ)

/-- From the stored result on: names, notifications, the submission row and, if a
player has no hit points left, the end of the battle. -/
def announceResult (state : BattleState) (summary : JudgeSummary) (damage : ℤ) :
    Prog (Except Failure Unit) := do
  match ← promiseAll (getUserById submit.userId)
      (getUserById (state.opponentOf submit.userId)) with
  | .error failure => return .error failure
  | .ok (attacker, _) =>
    request (.emit (.caller submit.userId)
      (.submitResult (decide (summary.passedTests = summary.totalTests)) summary.passedTests
        summary.totalTests damage (round summary.avgRuntimeMs) summary.results))
    request (.emit (.room submit.roomId)
      (if damage > 0 then
        .damage (usernameOr "Unknown" attacker) damage state.hp1 state.hp2
          summary.passedTests summary.totalTests
      else .noDamage (usernameOr "Unknown" attacker) summary.passedTests summary.totalTests))
    let _ ← saveSubmission submit state summary damage
    if state.hp1 ≤ 0 ∨ state.hp2 ≤ 0 then
      endBattle powTen submit.roomId state none
      return .ok ()
    else return .ok ()

/-- From the accepted submission on: count it, store JUDGING, judge it and store the
result. -/
def judgeSubmission (state : BattleState) : Prog (Except Failure Unit) := do
  let state ← saveBattleState submit.roomId
    ((state.countSubmission submit.userId).withStatus .judging) none
  request (.emit (.others submit.roomId submit.userId)
    (.opponentActivity (state.submissionCount submit.userId)))
  request (.emit (.caller submit.userId) (.submitJudging "Running test cases..."))
  match ← getProblemData state.problemId with
  | (some problem, testCase :: testCases) =>
    match ← request (.judge submit.code submit.languageId (testCase :: testCases)) with
    | .error failure => return .error failure
    | .ok summary =>
      let now ← request .now
      let damage := calculateDamage summary (now - state.startTimestamp)
        (orElse problem.timeLimitMs 300000) (orElse problem.p50RuntimeMs 1000)
      let state ← saveBattleState submit.roomId
        ((state.applyDamage submit.userId damage).withStatus .active)
        (some ⟨submit.userId, damage⟩)
      announceResult powTen submit state summary damage
  | _ =>
    request (.emit (.caller submit.userId) (.submitError "Problem data not found"))
    let _ ← saveBattleState submit.roomId (state.withStatus .active) none
    releaseDistributedLock submit.userId self
    return .ok ()

def refuse (text : String) : Prog (Except Failure Unit) := do
  releaseDistributedLock submit.userId self
  request (.emit (.caller submit.userId) (.submitError text))
  return .ok ()

/-- The `try` block of `handleSubmit`. -/
def trySubmit : Prog (Except Failure Unit) := do
  if ← acquireDistributedLock submit.userId self then
    match ← getBattleState submit.roomId with
    | none => refuse submit self "Battle not found"
    | some state =>
      if state.isPlayerInBattle submit.userId = false then
        refuse submit self "Not in this battle"
      else if state.status ≠ .active then
        refuse submit self "Battle not active"
      else judgeSubmission powTen submit self state
  else
    request (.emit (.caller submit.userId)
      (.submitError "Please wait for your previous submission to complete"))
    return .ok ()

/-- The `catch` block of `handleSubmit`. -/
def resetJudging : Prog Unit := do
  request (.emit (.caller submit.userId) (.submitError "Execution failed"))
  match ← getBattleState submit.roomId with
  | none => return ()
  | some state =>
    if state.status = .judging then
      let _ ← saveBattleState submit.roomId (state.withStatus .active) none
      return ()
    else return ()

def handleSubmit : Prog Unit := do
  match ← trySubmit powTen submit self with
  | .ok _ => releaseDistributedLock submit.userId self
  | .error _ =>
    resetJudging submit
    releaseDistributedLock submit.userId self

end Submitting

section Forfeiting

variable (powTen : ℚ → ℚ)

def handleForfeit (roomId : RoomId) (userId : UserId) : Prog Unit := do
  match ← getBattleState roomId with
  | none => request (.emit (.caller userId) (.error "Not in this battle"))
  | some state =>
    if state.isPlayerInBattle userId = false then
      request (.emit (.caller userId) (.error "Not in this battle"))
    else endBattle powTen roomId (state.concede userId) (some (state.opponentOf userId))

def handleGraceTimeout (userId : UserId) (battleId : RoomId) : Prog Unit := do
  match ← getBattleState battleId with
  | none => request (.delGrace userId)
  | some state =>
    if state.status = .active then
      endBattle powTen battleId (state.concede userId) (some (state.opponentOf userId))
      request (.delGrace userId)
    else request (.delGrace userId)

end Forfeiting

def announceCountdown (roomId : RoomId) : Prog Unit := do
  request (.emit (.room roomId) (.countdown 3))
  request (.emit (.room roomId) (.countdown 2))
  request (.emit (.room roomId) (.countdown 1))

/-- `startCountdown` with its delayed callback. -/
def startCountdown (roomId : RoomId) : Prog Unit := do
  match ← getBattleState roomId with
  | none => return ()
  | some state =>
    if state.status ≠ .waiting then return ()
    else
      let state ← saveBattleState roomId (state.withStatus .countdown) none
      announceCountdown roomId
      let now ← request .now
      let _ ← saveBattleState roomId
        { state.withStatus .active with startTimestamp := now } none
      request (.emit (.room roomId) (.start none))

def timeLimitSec (problem : Problem) : ℤ := problem.timeLimitMs / 1000

def startBattle (roomId : RoomId) (state : BattleState) (problem : Problem) : Prog Unit := do
  let now ← request .now
  request (.setBattle roomId { state.withStatus .active with startTimestamp := now } none)
  request (.emit (.room roomId) (.start (some (timeLimitSec problem))))
  request (.setInterval roomId (timeLimitSec problem))

/-- What `createMatch` leaves behind once the room is stored: the countdown after a
second and the start of the battle after three more. -/
def matchTimers (roomId : RoomId) (state : BattleState) (problem : Problem) : Prog Unit := do
  request (.setBattle roomId (state.withStatus .countdown) none)
  announceCountdown roomId
  startBattle roomId (state.withStatus .countdown) problem

def timeoutBattle (roomId : RoomId) (state : BattleState) : Prog Unit := do
  request (.clearInterval roomId (some (state.withStatus .ended)))
  request (.emit (.room roomId) (.timeout state.timeoutWinnerId state.hp1 state.hp2))

/-- The callback of the interval set by `startBattleTimer`. -/
def timerTick (roomId : RoomId) : Prog Unit := do
  match ← getBattleState roomId with
  | none => request (.clearInterval roomId none)
  | some state =>
    if state.status ≠ .active then request (.clearInterval roomId none)
    else
      let timer ← request (.readTimer roomId)
      let remainingSeconds := max 0 (timer.timeLimitSec - timer.elapsedSeconds)
      request (.emit (.room roomId)
        (.tick timer.elapsedSeconds remainingSeconds timer.timeLimitSec))
      (if remainingSeconds = 60 then request (.emit (.room roomId) (.timeWarning 60))
        else return ())
      if remainingSeconds ≤ 0 then timeoutBattle roomId state
      else return ()

/-- What starts a program: a client event, a timer, or the creation of a room. -/
inductive Call where
  | submit (submit : SubmitRequest)
  | forfeit (roomId : RoomId) (userId : UserId)
  | ready (roomId : RoomId)
  | graceTimeout (userId : UserId) (battleId : RoomId)
  | createMatch (roomId : RoomId) (player1Id player2Id : UserId) (problem : Problem) (now : ℤ)
      (matchId : Option String)
  | timerTick (roomId : RoomId)
deriving DecidableEq

namespace Call

def roomId : Call → RoomId
  | .submit request => request.roomId
  | .forfeit roomId _ | .ready roomId | .graceTimeout _ roomId => roomId
  | .createMatch roomId _ _ _ _ _ | .timerTick roomId => roomId

end Call

/-- The state `createMatch` stores. -/
def openingState (player1Id player2Id : UserId) (problem : Problem) (now : ℤ)
    (matchId : Option String) : BattleState :=
  .initial player1Id player2Id problem.id now matchId

def body (powTen : ℚ → ℚ) (self : ℕ) : Call → Prog Unit
  | .submit submit => handleSubmit powTen submit self
  | .forfeit roomId userId => handleForfeit powTen roomId userId
  | .ready roomId => startCountdown roomId
  | .graceTimeout userId battleId => handleGraceTimeout powTen userId battleId
  | .createMatch roomId player1Id player2Id problem now matchId =>
    matchTimers roomId (openingState player1Id player2Id problem now matchId) problem
  | .timerTick roomId => timerTick roomId

def Event.concerns (roomId : RoomId) : Event → Bool
  | .saved room _ _ => room = roomId
  | _ => false

/--
A room identifier is drawn at random and never drawn twice, so `createMatch` finds
no trace of its room, and it is called on two different entries of a queue that is
keyed by user. An interval starts a callback only while it runs, and the callback
first counts the time that has passed.
-/
def accept : Call → Store → Option Store
  | .createMatch roomId player1Id player2Id problem now matchId, store =>
    if player1Id = player2Id ∨ store.log.any (Event.concerns roomId) ∨
        (store.timers roomId).isSome then none
    else some (store.save roomId (openingState player1Id player2Id problem now matchId) none)
  | .timerTick roomId, store =>
    match store.timers roomId with
    | some timer =>
      if timer.running then some { store with
        timers := update store.timers roomId
          (some { timer with elapsedSeconds := timer.elapsedSeconds + 10 }) }
      else none
    | none => none
  | _, store => some store

inductive Environment where
  | battleDeleted (roomId : RoomId)
  | battleExpired (roomId : RoomId)
  | lockExpired (userId : UserId)
  | lockValueExpired (userId : UserId)
deriving DecidableEq

def happen : Environment → Store → Option Store
  | .battleDeleted roomId, store =>
    if store.deletions roomId = 0 then none
    else some { store with
      battles := update store.battles roomId none
      deletions := update store.deletions roomId (store.deletions roomId - 1) }
  | .battleExpired roomId, store =>
    some { store with battles := update store.battles roomId none }
  | .lockExpired userId, store =>
    some { store with locks := update store.locks userId none }
  | .lockValueExpired userId, store =>
    some { store with lockValues := update store.lockValues userId none }

def server (powTen : ℚ → ℚ) : Server signature Store Call Choice Environment where
  handle := handle
  accept := accept
  body := body powTen
  happen := happen

abbrev ServerState := State signature Store Call
abbrev ServerAction := Action Call Choice Environment

def freshServer (users : UserId → Option User) : ServerState where
  store :=
    { battles := fun _ => none, locks := fun _ => none, lockValues := fun _ => none
      timers := fun _ => none, deletions := fun _ => 0, users := users
      achievements := fun _ => [], graces := fun _ => none, outbox := [], log := [] }
  processes := fun _ => none

def sampleProblem : Problem :=
  { id := "sum", testCases := .array [⟨"1 2", "3", false⟩], timeLimitMs := 300000
    p50RuntimeMs := 1000 }

def newcomer (userId : UserId) : Option User := some ⟨userId, 1000, 0, 0, 0⟩

def startMatch : List ServerAction :=
  .start 0 (.createMatch "r" "a" "b" sampleProblem 0 none) ::
    List.replicate 8 (.advance 0 default)

def oneOfTwo : Choice :=
  { (default : Choice) with
    problem := some sampleProblem
    summary :=
      { (default : Choice).summary with
        totalTests := 2, passedTests := 1, passed_le_total := by decide } }

def sampleSubmit (userId : UserId) : SubmitRequest :=
  { code := "", languageId := 71, roomId := "r", userId := userId }

def submission (userId : UserId) : Call := .submit (sampleSubmit userId)

def activeBattle (hp1 hp2 : ℤ) : BattleState :=
  { openingState "a" "b" sampleProblem 0 none with status := .active, hp1 := hp1, hp2 := hp2 }

end CodeClash.Battle
