import CodeClash.Async.System
import CodeClash.Async.Throwing
import CodeClash.Keys.Table
import CodeClash.Rating.Rank
import Mathlib.Algebra.Order.Round
import Mathlib.Data.Rat.Floor

/-!
# The rating service

`updateEloAfterBattle` and `updateEloAfterDraw` of `services/judge/src/services/eloService.ts` with
`canBattle`, `applyEloDecay` and `recordBattleCompletion` of `utils/antiFarmingProtection.ts`, in
the default configuration. Every call to the database may fail. The table of matches is only read,
and its answers are decided by the environment. `Math.pow(10, x)` is a parameter `powTen`, and
arithmetic is exact.
-/

namespace CodeClash.Rating

open Async Throwing

abbrev UserId := String

/-- The columns of a user that are read or written. Times are in milliseconds. -/
structure User where
  elo : ℤ
  seasonalElo : ℤ
  rankTier : RankTier
  wins : ℕ
  losses : ℕ
  winStreak : ℕ
  lastActiveAt : ℤ
  lastBattleAt : Option ℤ
  battlesToday : ℕ
  dailyBattleReset : ℤ
deriving DecidableEq, Repr

/-- The columns that a call writes, with the ratings that it has read and the change, which are
only remembered for the proofs. -/
structure RatingUpdate where
  oldElo : ℤ
  oldSeasonalElo : ℤ
  change : ℤ
  newElo : ℤ
  newSeasonalElo : ℤ
  newRankTier : RankTier
deriving DecidableEq, Repr

def RatingUpdate.write (rating : RatingUpdate) (user : User) : User :=
  { user with
    elo := rating.newElo
    seasonalElo := rating.newSeasonalElo
    rankTier := rating.newRankTier }

/-- What the calls compute from the row of a user that they have read and a change. -/
def User.changed (user : User) (change : ℤ) : RatingUpdate :=
  let newElo := applyMinimumElo (user.elo + change)
  { oldElo := user.elo, oldSeasonalElo := user.seasonalElo, change, newElo
    newSeasonalElo := applyMinimumElo (user.seasonalElo + change)
    newRankTier := (getRankByElo newElo).tier }

namespace ANTI_FARMING_CONFIG

def minWaitBetweenBattles : ℤ := 5 * 60 * 1000
def maxDailyBattles : ℕ := 20
def inactivityDecayDays : ℤ := 7
def weeklyDecayAmount : ℤ := 25
def maxDecayPerSeason : ℤ := 200
def newPlayerBattleLimit : ℕ := 10
def newPlayerMaxEloDiff : ℤ := 200

end ANTI_FARMING_CONFIG

def dayMs : ℤ := 24 * 60 * 60 * 1000

inductive UserUpdate where
  | resetDailyBattles (now : ℤ)
  | win (rating : RatingUpdate)
  | loss (rating : RatingUpdate)
  | rate (rating : RatingUpdate)
  | activity (now : ℤ)
  | lastBattle (now : ℤ)
deriving DecidableEq, Repr

namespace UserUpdate

def write : UserUpdate → User → User
  | resetDailyBattles now, user =>
    { user with battlesToday := 0, dailyBattleReset := now + dayMs }
  | win rating, user =>
    { rating.write user with wins := user.wins + 1, winStreak := user.winStreak + 1 }
  | loss rating, user => { rating.write user with losses := user.losses + 1, winStreak := 0 }
  | rate rating, user => rating.write user
  | activity now, user =>
    { user with lastActiveAt := now, battlesToday := user.battlesToday + 1 }
  | lastBattle now, user => { user with lastBattleAt := some now }

def rating? : UserUpdate → Option RatingUpdate
  | win rating | loss rating | rate rating => some rating
  | _ => none

end UserUpdate

inductive Failure where
  | rejected
deriving DecidableEq, Repr

inductive EloError where
  | message (text : String)
  | database
deriving DecidableEq, Repr

structure EloUpdateResult where
  winnerId : UserId
  loserId : UserId
  winnerOldElo : ℤ
  loserOldElo : ℤ
  winnerNewElo : ℤ
  loserNewElo : ℤ
  winnerEloChange : ℤ
  loserEloChange : ℤ
  kFactor : ℚ
  expectedScore : ℚ
  actualScore : ℚ
deriving DecidableEq, Repr

inductive Response where
  | battle (outcome : Except EloError EloUpdateResult)
  | draw (outcome : Except EloError (EloUpdateResult × EloUpdateResult))
  | decay (outcome : Except EloError ℕ)
deriving DecidableEq

inductive Cmd where
  | now
  | findUser (userId : UserId)
  | updateUser (userId : UserId) (update : UserUpdate)
  | findInactive (inactiveDate : ℤ)
  | findRecentMatch (playerId opponentId : UserId)
  | countMatches (playerId : UserId)
  | respond (response : Response)

abbrev Cmd.Reply : Cmd → Type
  | .now => ℤ
  | .findUser _ => Except Failure (Option User)
  | .updateUser _ _ => Except Failure Unit
  | .findInactive _ => Except Failure (List (UserId × User))
  | .findRecentMatch _ _ => Except Failure (Option ℤ)
  | .countMatches _ => Except Failure ℕ
  | .respond _ => Unit

abbrev signature : Signature where
  Cmd := Cmd
  Reply := Cmd.Reply

abbrev Prog (α : Type) := Throwing signature EloError α

def getTime : Prog ℤ := Throwing.ask (@Program.perform signature .now)

def toError (_failure : Failure) : EloError := .database

def findUser (userId : UserId) : Prog (Option User) :=
  attempt toError (@Program.perform signature (.findUser userId))

def updateUser (userId : UserId) (update : UserUpdate) : Prog Unit :=
  attempt toError (@Program.perform signature (.updateUser userId update))

def findInactive (inactiveDate : ℤ) : Prog (List (UserId × User)) :=
  attempt toError (@Program.perform signature (.findInactive inactiveDate))

def getRecentBattleAgainstOpponent (playerId opponentId : UserId) : Prog (Option ℤ) :=
  attempt toError (@Program.perform signature (.findRecentMatch playerId opponentId))

def countMatches (playerId : UserId) : Prog ℕ :=
  attempt toError (@Program.perform signature (.countMatches playerId))

structure BattleCheck where
  allowed : Bool
  reason : Option String
  waitTime : Option ℤ
deriving DecidableEq, Repr

section AntiFarming

open ANTI_FARMING_CONFIG

def isNewPlayer (playerId : UserId) : Prog Bool := do
  let totalBattles ← countMatches playerId
  return totalBattles < newPlayerBattleLimit

def waitTimeAfter (now : ℤ) (recentBattle : Option ℤ) : Option ℤ :=
  match recentBattle with
  | none => none
  | some recent =>
    let timeSinceLastBattle := now - recent
    if timeSinceLastBattle < minWaitBetweenBattles then
      some ⌈((minWaitBetweenBattles - timeSinceLastBattle : ℤ) : ℚ) / 1000 / 60⌉
    else none

/-- The checks of `canBattle` that concern the opponent. -/
def checkOpponent (playerId opponentId : UserId) (player : User) (now : ℤ) :
    Prog BattleCheck := do
  let recentBattle ← getRecentBattleAgainstOpponent playerId opponentId
  match waitTimeAfter now recentBattle with
  | some waitTime =>
    return ⟨false, some "Must wait before battling same opponent again", some waitTime⟩
  | none =>
    let isNew ← isNewPlayer playerId
    if isNew then
      let opponent ← findUser opponentId
      if opponent.any fun opponent => newPlayerMaxEloDiff < |player.elo - opponent.elo| then
        return ⟨false, some "New player ELO difference too large", none⟩
      else return ⟨true, none, none⟩
    else return ⟨true, none, none⟩

def canBattle (playerId opponentId : UserId) : Prog BattleCheck := do
  let found ← findUser playerId
  match found with
  | none => return ⟨false, some "Player not found", none⟩
  | some player =>
    let now ← getTime
    if player.dailyBattleReset < now then
      updateUser playerId (.resetDailyBattles now)
      checkOpponent playerId opponentId player now
    else if maxDailyBattles ≤ player.battlesToday then
      return ⟨false, some "Daily battle limit reached", none⟩
    else checkOpponent playerId opponentId player now

/-- The loop of `applyEloDecay`, with the number of users decayed so far. -/
def decayUsers : List (UserId × User) → ℕ → Prog ℕ
  | [], decayedCount => return decayedCount
  | (userId, user) :: inactiveUsers, decayedCount =>
    let rating := user.changed (-weeklyDecayAmount)
    let seasonDecayAmount := user.elo - rating.newElo
    if maxDecayPerSeason < seasonDecayAmount then decayUsers inactiveUsers decayedCount
    else do
      updateUser userId (.rate rating)
      decayUsers inactiveUsers (decayedCount + 1)

def applyEloDecay : Prog ℕ := do
  let now ← getTime
  let inactiveUsers ← findInactive (now - inactivityDecayDays * dayMs)
  decayUsers inactiveUsers 0

def updatePlayerActivity (playerId : UserId) : Prog Unit := do
  let now ← getTime
  updateUser playerId (.activity now)

def recordBattleCompletion (playerId : UserId) : Prog Unit := do
  updatePlayerActivity playerId
  let now ← getTime
  updateUser playerId (.lastBattle now)

end AntiFarming

def K_FACTOR : ℚ := 32

/-- The rating change for a score, where `Math.round` rounds halves up. -/
def eloChange (actualScore expectedScore : ℚ) : ℤ :=
  round (K_FACTOR * (actualScore - expectedScore))

def User.rated (user : User) (actualScore expectedScore : ℚ) : RatingUpdate :=
  user.changed (eloChange actualScore expectedScore)

structure BattleResult where
  winnerId : UserId
  loserId : UserId
deriving DecidableEq, Repr

section Elo

variable (powTen : ℚ → ℚ)

def calculateExpectedScore (playerElo opponentElo : ℤ) : ℚ :=
  1 / (1 + powTen ((opponentElo - playerElo : ℤ) / 400))

def eloUpdateResult (winnerId loserId : UserId) (winner loser : RatingUpdate)
    (expectedScore actualScore : ℚ) : EloUpdateResult where
  winnerId := winnerId
  loserId := loserId
  winnerOldElo := winner.oldElo
  loserOldElo := loser.oldElo
  winnerNewElo := winner.newElo
  loserNewElo := loser.newElo
  winnerEloChange := winner.change
  loserEloChange := loser.change
  kFactor := K_FACTOR
  expectedScore := expectedScore
  actualScore := actualScore

/-- The writes of `updateEloAfterBattle`. -/
def recordBattle (battleResult : BattleResult) (winner loser : RatingUpdate) : Prog Unit := do
  updateUser battleResult.winnerId (.win winner)
  updateUser battleResult.loserId (.loss loser)
  recordBattleCompletion battleResult.winnerId
  recordBattleCompletion battleResult.loserId

/-- The part of `updateEloAfterBattle` after the checks. -/
def rateBattle (battleResult : BattleResult) : Prog EloUpdateResult := do
  let foundWinner ← findUser battleResult.winnerId
  let foundLoser ← findUser battleResult.loserId
  match foundWinner, foundLoser with
  | some winner, some loser =>
    let expectedWinnerScore := calculateExpectedScore powTen winner.elo loser.elo
    let expectedLoserScore := calculateExpectedScore powTen loser.elo winner.elo
    let winnerRated := winner.rated 1 expectedWinnerScore
    let loserRated := loser.rated 0 expectedLoserScore
    recordBattle battleResult winnerRated loserRated
    return eloUpdateResult battleResult.winnerId battleResult.loserId winnerRated loserRated
      expectedWinnerScore 1
  | _, _ => throw (.message "User not found for ELO update")

def updateEloAfterBattle (battleResult : BattleResult) : Prog EloUpdateResult := do
  let winnerCheck ← canBattle battleResult.winnerId battleResult.loserId
  let loserCheck ← canBattle battleResult.loserId battleResult.winnerId
  if winnerCheck.allowed = false ∨ loserCheck.allowed = false then
    throw (.message ("Battle not allowed: " ++
      (winnerCheck.reason.or loserCheck.reason).getD "undefined"))
  else rateBattle powTen battleResult

def updateEloAfterDraw (player1Id player2Id : UserId) :
    Prog (EloUpdateResult × EloUpdateResult) := do
  let found1 ← findUser player1Id
  let found2 ← findUser player2Id
  match found1, found2 with
  | some player1, some player2 =>
    let expectedPlayer1Score := calculateExpectedScore powTen player1.elo player2.elo
    let expectedPlayer2Score := calculateExpectedScore powTen player2.elo player1.elo
    let player1Rated := player1.rated (1 / 2) expectedPlayer1Score
    let player2Rated := player2.rated (1 / 2) expectedPlayer2Score
    updateUser player1Id (.rate player1Rated)
    updateUser player2Id (.rate player2Rated)
    return (eloUpdateResult player1Id player2Id player1Rated player2Rated
        expectedPlayer1Score (1 / 2),
      eloUpdateResult player2Id player1Id player2Rated player1Rated
        expectedPlayer2Score (1 / 2))
  | _, _ => throw (.message "User not found for ELO update")

end Elo

inductive Event where
  | reset (userId : UserId) (now : ℤ)
  | written (userId : UserId) (elo : ℤ)
  | succeeded (winnerId loserId : UserId)
deriving DecidableEq, Repr

def UserUpdate.events (userId : UserId) : UserUpdate → List Event
  | resetDailyBattles now => [.reset userId now]
  | win rating | loss rating | rate rating => [.written userId rating.newElo]
  | _ => []

def Response.events : Response → List Event
  | .battle (.ok result) => [.succeeded result.winnerId result.loserId]
  | _ => []

structure Store where
  users : Keys.Table UserId User
  log : List Event

structure Choice where
  now : ℤ
  fails : Bool
  recentMatch : Option ℤ
  matchCount : ℕ

def answer {α : Type} (fails : Bool) (value : α) : Except Failure α :=
  if fails then .error .rejected else .ok value

/-- The reply to a command and the store after it. An update of a user that does not exist is
rejected. -/
def handle (cmd : Cmd) (choice : Choice) (store : Store) : cmd.Reply × Store :=
  match cmd with
  | .now => (choice.now, store)
  | .findUser userId => (answer choice.fails (store.users.find userId), store)
  | .updateUser userId update =>
    if choice.fails ∨ store.users.find userId = none then (.error .rejected, store)
    else (.ok (), ⟨store.users.modify userId update.write, update.events userId ++ store.log⟩)
  | .findInactive inactiveDate =>
    (answer choice.fails (store.users.findMany fun user =>
      user.lastActiveAt < inactiveDate ∧ getMinimumElo < user.elo), store)
  | .findRecentMatch _ _ => (answer choice.fails choice.recentMatch, store)
  | .countMatches _ => (answer choice.fails choice.matchCount, store)
  | .respond response => ((), { store with log := response.events ++ store.log })

inductive Call where
  | battle (battleResult : BattleResult)
  | draw (player1Id player2Id : UserId)
  | decay
deriving DecidableEq

def respond (response : Response) : Program signature Unit :=
  @Program.perform signature (.respond response)

def body (powTen : ℚ → ℚ) : Call → Program signature Unit
  | .battle battleResult => (updateEloAfterBattle powTen battleResult).run >>= fun outcome =>
    respond (.battle outcome)
  | .draw player1Id player2Id =>
    (updateEloAfterDraw powTen player1Id player2Id).run >>= fun outcome =>
      respond (.draw outcome)
  | .decay => applyEloDecay.run >>= fun outcome => respond (.decay outcome)

def server (powTen : ℚ → ℚ) : Server signature Store Call Choice Empty where
  handle := handle
  accept _ store := some store
  body _ call := body powTen call
  happen event _ := event.elim

abbrev ServerState := State signature Store Call
abbrev ServerAction := Action Call Choice Empty

def freshServer (users : Keys.Table UserId User) : ServerState where
  store := ⟨users, []⟩
  processes := fun _ => none

def sampleUser (elo : ℤ) : User where
  elo := elo
  seasonalElo := elo
  rankTier := (getRankByElo elo).tier
  wins := 0
  losses := 0
  winStreak := 0
  lastActiveAt := 0
  lastBattleAt := none
  battlesToday := 0
  dailyBattleReset := 0

def sampleUsers : Keys.Table UserId User :=
  .ofKeys ["ann", "bob", "cleo"] (by decide) fun _ => sampleUser 1200

def answerAt (now : ℤ) : Choice := ⟨now, false, none, 10⟩

end CodeClash.Rating
