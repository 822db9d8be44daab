import CodeClash.Judge.Execution

/-!
# The battle service of the API

The timer and the end of a battle of `apps/api/src/services/battleService.ts`. Redis commands
succeed, calls to the database may fail. Hit points are read by `parseInt`. Ids of users are never
empty, and `Math.pow(10, x)` is a parameter `powTen`. The damages sent along with the end are left
out.
-/

namespace CodeClash.Api

open Async Function
open Judge (Side parsePrinted)

abbrev UserId := String
abbrev RoomId := String

inductive MatchStatus where
  | waiting
  | countdown
  | active
  | judging
  | completed
deriving DecidableEq, Repr

structure Match where
  player1Id : UserId
  player2Id : UserId
  status : MatchStatus
  winnerId : Option UserId
  endedAt : Option ℤ
  player1Hp : ℤ
  player2Hp : ℤ
deriving DecidableEq, Repr

def Match.player (battle : Match) : Side → UserId
  | .player1 => battle.player1Id
  | .player2 => battle.player2Id

structure User where
  rank : ℤ
  xp : ℤ
deriving DecidableEq, Repr

structure Hash where
  player1Hp : Option ℚ
  player2Hp : Option ℚ
deriving DecidableEq, Repr

/-- The hit points of a side, where a field that is missing stands for zero. -/
def Hash.hp (hash : Hash) : Side → ℚ
  | .player1 => hash.player1Hp.getD 0
  | .player2 => hash.player2Hp.getD 0

/-- The hit points that `getBattleState` reads. -/
structure BattleState where
  player1Hp : ℤ
  player2Hp : ℤ
deriving DecidableEq, Repr

structure EloChange where
  winner : ℤ
  loser : ℤ
deriving DecidableEq, Repr

inductive EndReason where
  | forfeit
  | disconnection
  | hpDepleted
  | timeout
deriving DecidableEq, Repr

inductive Notice where
  | timeUpdate (timeRemaining : ℤ)
  | timeWarning (secondsLeft : ℤ)
  | battleEnd (winnerId loserId : UserId) (reason : EndReason) (eloChange : EloChange)
deriving DecidableEq, Repr

def calculateEloChange (powTen : ℚ → ℚ) (winnerElo loserElo : ℤ) (winnerActual : Bool) :
    EloChange :=
  let K : ℚ := 32
  let expectedScore := 1 / (1 + powTen ((loserElo - winnerElo : ℤ) / 400))
  let eloChange := round (K * (if winnerActual then 1 else 0) - K * expectedScore)
  ⟨|eloChange|, -|eloChange|⟩

inductive Failure where
  | rejected
deriving DecidableEq, Repr

structure MatchResult where
  winnerId : UserId
  endedAt : ℤ
  player1Hp : ℤ
  player2Hp : ℤ
deriving DecidableEq, Repr

structure MatchDetails where
  battle : Match
  player1Rank : ℤ
  player2Rank : ℤ
deriving DecidableEq, Repr

inductive Cmd where
  | now
  | emit (roomId : RoomId) (notice : Notice)
  | clearTimer (roomId : RoomId)
  | hGetAll (roomId : RoomId)
  | hGetHp (roomId : RoomId) (side : Side)
  | delHash (roomId : RoomId)
  | findMatch (roomId : RoomId)
  | completeMatch (roomId : RoomId) (result : MatchResult)
  | updateUser (userId : UserId) (rankIncrement xpIncrement : ℤ)

abbrev Cmd.Reply : Cmd → Type
  | .now => ℤ
  | .hGetAll _ => Option Hash
  | .hGetHp _ _ => Option ℚ
  | .findMatch _ => Except Failure (Option MatchDetails)
  | .completeMatch _ _ => Except Failure Unit
  | .updateUser _ _ _ => Except Failure Unit
  | _ => Unit

abbrev signature : Signature where
  Cmd := Cmd
  Reply := Cmd.Reply

abbrev Prog (α : Type) := Program signature α

abbrev request (cmd : Cmd) : Prog cmd.Reply := @Program.perform signature cmd

/-- The expression `parseInt(text || '0')`. -/
def parseHp (hp : Option ℚ) : ℤ := parsePrinted (hp.getD 0)

def getBattleState (roomId : RoomId) : Prog (Option BattleState) := do
  let data ← request (.hGetAll roomId)
  return data.map fun hash => ⟨parseHp hash.player1Hp, parseHp hash.player2Hp⟩

section Ends

variable (powTen : ℚ → ℚ)

/-- The updates of the two users, and what follows them. A rejected call is caught. -/
def settleUsers (roomId : RoomId) (winnerId loserId : UserId) (reason : EndReason)
    (eloChange : EloChange) : Prog Unit := do
  match ← request (.updateUser winnerId eloChange.winner 100) with
  | .error _ => return ()
  | .ok _ =>
    match ← request (.updateUser loserId eloChange.loser 0) with
    | .error _ => return ()
    | .ok _ =>
      request (.emit roomId (.battleEnd winnerId loserId reason eloChange))
      request (.delHash roomId)

/-- The part of `endBattle` after the match was found. -/
def recordEnd (roomId : RoomId) (loserId : UserId) (reason : EndReason)
    (details : MatchDetails) : Prog Unit := do
  let battle := details.battle
  let winnerId := if battle.player1Id = loserId then battle.player2Id else battle.player1Id
  let isPlayer1Winner : Bool := battle.player1Id = winnerId
  let eloChange := calculateEloChange powTen
    (if isPlayer1Winner then details.player1Rank else details.player2Rank)
    (if isPlayer1Winner then details.player2Rank else details.player1Rank) true
  let endedAt ← request .now
  let player1Hp ← request (.hGetHp roomId .player1)
  let player2Hp ← request (.hGetHp roomId .player2)
  match ← request (.completeMatch roomId
      ⟨winnerId, endedAt, parseHp player1Hp, parseHp player2Hp⟩) with
  | .error _ => return ()
  | .ok _ => settleUsers roomId winnerId loserId reason eloChange

def endBattle (roomId : RoomId) (loserId : UserId) (reason : EndReason) : Prog Unit := do
  request (.clearTimer roomId)
  match ← request (.findMatch roomId) with
  | .ok (some details) => recordEnd powTen roomId loserId reason details
  | _ => return ()

/-- What the timer does when the time has run out. A rejected lookup ends the callback. -/
def timeOut (roomId : RoomId) : Prog Unit := do
  request (.clearTimer roomId)
  match ← getBattleState roomId with
  | none => return ()
  | some battleState =>
    let winner : Side :=
      if battleState.player2Hp < battleState.player1Hp then .player1 else .player2
    match ← request (.findMatch roomId) with
    | .ok (some details) => endBattle powTen roomId (details.battle.player winner) .timeout
    | _ => return ()

/-- The callback of the timer of `startBattleTimer`, with the seconds that remained before it. -/
def timerTick (roomId : RoomId) (timeBefore : ℤ) : Prog Unit := do
  let timeRemaining := timeBefore - 1
  request (.emit roomId (.timeUpdate timeRemaining))
  (if timeRemaining = 60 then request (.emit roomId (.timeWarning 60)) else return ())
  if timeRemaining ≤ 0 then timeOut powTen roomId else return ()

end Ends

structure Store where
  hashes : RoomId → Option Hash
  battles : RoomId → Option Match
  users : UserId → User
  timers : RoomId → Bool

structure Choice where
  now : ℤ
  fails : Bool

def answer {α : Type} (fails : Bool) (value : α) : Except Failure α :=
  if fails then .error .rejected else .ok value

def Match.complete (result : MatchResult) (battle : Match) : Match :=
  { battle with
    status := .completed
    winnerId := some result.winnerId
    endedAt := some result.endedAt
    player1Hp := result.player1Hp
    player2Hp := result.player2Hp }

def Store.details (store : Store) (battle : Match) : MatchDetails :=
  ⟨battle, (store.users battle.player1Id).rank, (store.users battle.player2Id).rank⟩

/-- The reply to a command and the store after it. An update of a match that does not exist is
rejected. -/
def handle (cmd : Cmd) (choice : Choice) (store : Store) : cmd.Reply × Store :=
  match cmd with
  | .now => (choice.now, store)
  | .emit _ _ => ((), store)
  | .clearTimer roomId => ((), { store with timers := update store.timers roomId false })
  | .hGetAll roomId => (store.hashes roomId, store)
  | .hGetHp roomId side => ((store.hashes roomId).bind fun hash =>
    match side with
    | .player1 => hash.player1Hp
    | .player2 => hash.player2Hp, store)
  | .delHash roomId => ((), { store with hashes := update store.hashes roomId none })
  | .findMatch roomId => (answer choice.fails ((store.battles roomId).map store.details), store)
  | .completeMatch roomId result =>
    match choice.fails, store.battles roomId with
    | false, some battle => (.ok (), { store with
        battles := update store.battles roomId (some (battle.complete result)) })
    | _, _ => (.error .rejected, store)
  | .updateUser userId rankIncrement xpIncrement =>
    if choice.fails then (.error .rejected, store)
    else
      let user := store.users userId
      let updated : User := ⟨user.rank + rankIncrement, user.xp + xpIncrement⟩
      (.ok (), { store with users := update store.users userId updated })

end CodeClash.Api
