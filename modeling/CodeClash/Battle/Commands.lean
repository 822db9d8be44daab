import CodeClash.Async.System
import CodeClash.Battle.State

/-!
# Commands of the battle service

Every effect of the battle service is one command. Redis commands are atomic and succeed, calls to
the database and to the judge may be rejected. Any command may be followed by a step of another
call, so each interleaving of the event loop is considered here. The one block that is kept together
is a timer that clears its interval and stores the ended battle. Keys that nothing reads are left
out. No command reads the log, newest first, of what happened.
-/

namespace CodeClash.Battle

open Async Function

/-- A submission whose result is written: who attacked, and the computed damage. -/
structure Strike where
  attacker : UserId
  damage : ℤ
deriving DecidableEq, Repr

inductive RatingEffect where
  | won (userId : UserId) (eloChange : ℤ)
  | lost (userId : UserId) (eloChange : ℤ)
  | streakIncremented (userId : UserId)
  | streakReset (userId : UserId)
deriving DecidableEq, Repr

namespace RatingEffect

def userId : RatingEffect → UserId
  | won userId _ | lost userId _ | streakIncremented userId | streakReset userId => userId

def apply (effect : RatingEffect) (user : User) : User :=
  match effect with
  | won _ eloChange => { user with elo := user.elo + eloChange, wins := user.wins + 1 }
  | lost _ eloChange => { user with elo := user.elo + eloChange, losses := user.losses + 1 }
  | streakIncremented _ => { user with winStreak := user.winStreak + 1 }
  | streakReset _ => { user with winStreak := 0 }

end RatingEffect

structure AchievementStats where
  wins : ℕ
  losses : ℕ
  winStreak : ℕ
  battleDurationMs : Option ℤ
  damageReceived : Option ℤ
  spellsCast : Option ℕ
  firstWin : Option Bool
deriving DecidableEq, Repr

structure Achievement where
  id : String
  name : String
  icon : String
  condition : AchievementStats → Bool

structure Submission where
  matchId : String
  userId : UserId
  problemId : ProblemId
  code : String
  language : String
  passedTests : ℕ
  totalTests : ℕ
  execTimeMs : ℤ
  damageDealt : ℤ
deriving DecidableEq, Repr

inductive Recipient where
  | caller (userId : UserId)
  | room (roomId : RoomId)
  | others (roomId : RoomId) (userId : UserId)
deriving DecidableEq, Repr

inductive Message where
  | submitError (text : String)
  | submitJudging (text : String)
  | submitResult (passed : Bool) (passedTests totalTests : ℕ) (damage avgRuntimeMs : ℤ)
      (results : List JudgeResult)
  | opponentActivity (submissionCount : ℕ)
  | damage (attackerName : String) (damage hp1 hp2 : ℤ) (passedTests totalTests : ℕ)
  | noDamage (attackerName : String) (passedTests totalTests : ℕ)
  | error (text : String)
  | countdown (secondsLeft : ℕ)
  | start (timeLimitSeconds : Option ℤ)
  | ended (winnerId : UserId) (winnerName : String) (loserId : UserId)
      (finalHp1 finalHp2 winnerEloChange loserEloChange : ℤ) (newAchievements : List String)
  | tick (elapsedSeconds remainingSeconds totalSeconds : ℤ)
  | timeWarning (secondsLeft : ℤ)
  | timeout (winnerId : UserId) (hp1 hp2 : ℤ)
deriving DecidableEq, Repr

inductive Cmd where
  | now
  | order
  | emit (recipient : Recipient) (message : Message)
  | getBattle (roomId : RoomId)
  | setBattle (roomId : RoomId) (state : BattleState) (strike : Option Strike)
  | deleteLater (roomId : RoomId)
  | setLock (userId : UserId) (token : ℕ)
  | setLockValue (userId : UserId) (token : ℕ)
  | getLockValue (userId : UserId) (caller : ℕ)
  | evalUnlock (userId : UserId) (token caller : ℕ)
  | delLockValue (userId : UserId)
  | setInterval (roomId : RoomId) (timeLimitSec : ℤ)
  | readTimer (roomId : RoomId)
  | clearInterval (roomId : RoomId) (save : Option BattleState)
  | findProblem (problemId : ProblemId)
  | judge (code : String) (languageId : ℕ) (testCases : List TestCase)
  | findUser (userId : UserId)
  | rate (roomId : RoomId) (effect : RatingEffect)
  | findAchievements (userId : UserId)
  | createAchievement (userId : UserId) (achievement : Achievement)
  | createSubmission (submission : Submission)
  | delGrace (userId : UserId)

/-- The interval of one battle: whether it is running, and the variables of its closure. -/
structure Timer where
  running : Bool
  elapsedSeconds : ℕ
  timeLimitSec : ℤ
deriving DecidableEq, Repr

abbrev Cmd.Reply : Cmd → Type
  | .now => ℤ
  | .order => Bool
  | .getBattle _ => Option BattleState
  | .setLock _ _ => Bool
  | .getLockValue _ _ => Option ℕ
  | .readTimer _ => Timer
  | .findProblem _ => Except Failure (Option Problem)
  | .judge _ _ _ => Except Failure JudgeSummary
  | .findUser _ => Except Failure (Option User)
  | .rate _ _ => Except Failure Unit
  | .findAchievements _ => Except Failure (List String)
  | .createAchievement _ _ => Except Failure Unit
  | .createSubmission _ => Except Failure Unit
  | _ => Unit

abbrev signature : Signature where
  Cmd := Cmd
  Reply := Cmd.Reply

abbrev Prog (α : Type) := Program signature α

inductive Event where
  | saved (roomId : RoomId) (state : BattleState) (strike : Option Strike)
  | rated (roomId : RoomId) (effect : RatingEffect)
  | acquired (userId : UserId) (call : ℕ)
  | deleted (userId : UserId) (owner call : ℕ)
  | released (userId : UserId) (call : ℕ)
deriving DecidableEq, Repr

structure Grace where
  battleId : RoomId
  disconnectedAt : ℤ
  wasPlayer1 : Bool
deriving DecidableEq, Repr

structure Store where
  battles : RoomId → Option BattleState
  locks : UserId → Option ℕ
  lockValues : UserId → Option ℕ
  timers : RoomId → Option Timer
  deletions : RoomId → ℕ
  users : UserId → Option User
  achievements : UserId → List String
  graces : UserId → Option Grace
  outbox : List (Recipient × Message)
  log : List Event

/-- What the environment decides at a step: the clock, whether a call is rejected,
which promise of a pair goes first, and what the database and the judge answer. -/
structure Choice where
  now : ℤ
  fails : Bool
  firstFirst : Bool
  problem : Option Problem
  summary : JudgeSummary

instance : Inhabited Choice where
  default :=
    { now := 0, fails := false, firstFirst := true, problem := none
      summary :=
        { totalTests := 0, passedTests := 0, avgRuntimeMs := 0, results := []
          passed_le_total := le_rfl, avgRuntime_nonneg := le_rfl } }

namespace Store

def save (store : Store) (roomId : RoomId) (state : BattleState) (strike : Option Strike) :
    Store :=
  { store with
    battles := update store.battles roomId (some state)
    log := .saved roomId state strike :: store.log }

/-- `SET lockKey token NX EX`. -/
def setLock (store : Store) (userId : UserId) (token : ℕ) : Bool × Store :=
  match store.locks userId with
  | some _ => (false, store)
  | none => (true, { store with
      locks := update store.locks userId (some token)
      log := .acquired userId token :: store.log })

/-- Read the value key at the start of a release. Without a value the release is over. -/
def getLockValue (store : Store) (userId : UserId) (caller : ℕ) : Option ℕ × Store :=
  match store.lockValues userId with
  | some token => (some token, store)
  | none => (none, { store with log := .released userId caller :: store.log })

/-- The Lua script: delete the lock if the value key still holds `token`. -/
def evalUnlock (store : Store) (userId : UserId) (token caller : ℕ) : Store :=
  if store.lockValues userId = some token then
    match store.locks userId with
    | some owner => { store with
        locks := update store.locks userId none
        log := .released userId caller :: .deleted userId owner caller :: store.log }
    | none => { store with log := .released userId caller :: store.log }
  else { store with log := .released userId caller :: store.log }

def rate (store : Store) (fails : Bool) (roomId : RoomId) (effect : RatingEffect) :
    Except Failure Unit × Store :=
  match fails, store.users effect.userId with
  | false, some user => (.ok (), { store with
      users := update store.users effect.userId (some (effect.apply user))
      log := .rated roomId effect :: store.log })
  | _, _ => (.error .rejected, store)

def clearInterval (store : Store) (roomId : RoomId) : Store :=
  { store with
    timers := update store.timers roomId
      ((store.timers roomId).map fun timer => { timer with running := false }) }

end Store

def answer {α : Type} (fails : Bool) (value : α) : Except Failure α :=
  if fails then .error .rejected else .ok value

def handle (cmd : Cmd) (choice : Choice) (store : Store) : cmd.Reply × Store :=
  match cmd with
  | .now => (choice.now, store)
  | .order => (choice.firstFirst, store)
  | .emit recipient message => ((), { store with
      outbox := (recipient, message) :: store.outbox })
  | .getBattle roomId => (store.battles roomId, store)
  | .setBattle roomId state strike => ((), store.save roomId state strike)
  | .deleteLater roomId => ((), { store with
      deletions := update store.deletions roomId (store.deletions roomId + 1) })
  | .setLock userId token => store.setLock userId token
  | .setLockValue userId token => ((), { store with
      lockValues := update store.lockValues userId (some token) })
  | .getLockValue userId caller => store.getLockValue userId caller
  | .evalUnlock userId token caller => ((), store.evalUnlock userId token caller)
  | .delLockValue userId => ((), { store with
      lockValues := update store.lockValues userId none })
  | .setInterval roomId timeLimitSec => ((), { store with
      timers := update store.timers roomId (some ⟨true, 0, timeLimitSec⟩) })
  | .readTimer roomId => ((store.timers roomId).getD ⟨false, 0, 0⟩, store)
  | .clearInterval roomId save =>
    match save with
    | none => ((), store.clearInterval roomId)
    | some state => ((), (store.clearInterval roomId).save roomId state none)
  | .findProblem _ => (answer choice.fails choice.problem, store)
  | .judge _ _ _ => (answer choice.fails choice.summary, store)
  | .findUser userId => (answer choice.fails (store.users userId), store)
  | .rate roomId effect => store.rate choice.fails roomId effect
  | .findAchievements userId => (answer choice.fails (store.achievements userId), store)
  | .createAchievement userId achievement =>
    if choice.fails ∨ achievement.id ∈ store.achievements userId then
      (.error .rejected, store)
    else (.ok (), { store with
      achievements := update store.achievements userId
        (achievement.id :: store.achievements userId) })
  | .createSubmission _ => (answer choice.fails (), store)
  | .delGrace userId => ((), { store with graces := update store.graces userId none })

attribute [local simp] handle

end CodeClash.Battle
