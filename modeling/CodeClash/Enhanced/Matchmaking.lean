import CodeClash.Async.Throwing
import CodeClash.Enhanced.Battle
import CodeClash.Keys.Ranked
import Mathlib.Data.Nat.Log
import Mathlib.Data.Rat.Floor
import Mathlib.Data.String.Basic

/-!
# The enhanced matchmaking service

The queue and the creation of battles of `apps/api/src/services/enhancedMatchmakingService.ts`.
Every command may fail. A queued user is a member of a sorted set and has a record with a time to
live: a hash of texts, here with the numbers that `parseInt` reads from them. Broadcast sizes of the
queue, and the time at which the callback of `startMatchmaking` runs, are left out.
-/

namespace CodeClash.Enhanced.Matchmaking

open Async Keys Throwing

abbrev PuzzleId := String

structure MatchmakingOptions where
  initialEloWindow : ℤ
  maxEloWindow : ℤ
  windowExpansionInterval : ℤ
  windowExpansionAmount : ℤ
  maxWaitTime : ℤ
  battleTimeout : ℤ
deriving DecidableEq, Repr

def DEFAULT_OPTIONS : MatchmakingOptions where
  initialEloWindow := 100
  maxEloWindow := 500
  windowExpansionInterval := 10000
  windowExpansionAmount := 50
  maxWaitTime := 300000
  battleTimeout := 30000

/-- The number that `parseInt` reads from the text of a whole number. From 10²¹ on the text has an
exponent after the first digit. -/
def parsePrinted (number : ℤ) : ℤ :=
  if number.natAbs < 10 ^ 21 then number
  else number.sign * (number.natAbs / 10 ^ Nat.log 10 number.natAbs : ℕ)

/-- The hash of a queued user. A hash that does not exist has no fields. -/
structure UserData where
  userId : Option UserId := none
  socketId : Option String := none
  elo : Option ℤ := none
  joinTime : Option ℤ := none
  currentEloWindow : Option ℤ := none
  expansions : Option ℤ := none
deriving DecidableEq, Repr

/-- The hash after `hSet`, which leaves the fields it does not name. -/
def UserData.set (data fields : UserData) : UserData where
  userId := fields.userId <|> data.userId
  socketId := fields.socketId <|> data.socketId
  elo := fields.elo <|> data.elo
  joinTime := fields.joinTime <|> data.joinTime
  currentEloWindow := fields.currentEloWindow <|> data.currentEloWindow
  expansions := fields.expansions <|> data.expansions

structure Hash where
  data : UserData
  expiresAt : Option ℤ
deriving DecidableEq, Repr

structure User where
  id : UserId
  username : String
  elo : ℤ
  socketId : Option String
deriving DecidableEq, Repr

structure Puzzle where
  id : PuzzleId
  version : ℤ
  difficulty : String
  isActive : Bool
  submissionCount : ℤ
deriving DecidableEq, Repr

structure NewBattle where
  roomId : RoomId
  player1Id : UserId
  player2Id : UserId
  puzzleId : PuzzleId
  puzzleVersion : ℤ
  status : Status
  player1Hp : ℤ
  player2Hp : ℤ
  lastActivityAt : ℤ
deriving DecidableEq, Repr

structure Battle extends NewBattle where
  id : String
  createdAt : ℤ
deriving DecidableEq, Repr

inductive Cmd where
  | now
  | newRoomId
  | zAdd (userId : UserId) (elo : ℤ)
  | zRem (userId : UserId)
  | zRange (reversed : Bool)
  | zRangeByScore (minElo maxElo : ℤ)
  | hSet (userId : UserId) (fields : UserData)
  | hGetAll (userId : UserId)
  | hGetElo (userId : UserId)
  | expire (userId : UserId) (seconds : ℤ)
  | delUser (userId : UserId)
  | emitTimeout (socketId : Option String)
  | findUser (userId : UserId)
  | findRecent (player1Id player2Id : UserId)
  | findPuzzle (difficulty : String) (excluded : List PuzzleId)
  | findAnyPuzzle (difficulty : String)
  | createBattle (battle : NewBattle)
  | setBattle (roomId : RoomId) (state : BattleState)
  | emitFound (socketId : String) (roomId : RoomId) (state : BattleState)

abbrev Cmd.Reply : Cmd → Type
  | .now => ℤ
  | .newRoomId => RoomId
  | .zRange _ => Except Failure (List UserId)
  | .zRangeByScore _ _ => Except Failure (List UserId)
  | .hGetAll _ => Except Failure UserData
  | .hGetElo _ => Except Failure (Option ℤ)
  | .emitTimeout _ => Unit
  | .findUser _ => Except Failure (Option User)
  | .findRecent _ _ => Except Failure (List PuzzleId)
  | .findPuzzle _ _ => Except Failure (Option Puzzle)
  | .findAnyPuzzle _ => Except Failure (Option Puzzle)
  | .createBattle _ => Except Failure Battle
  | .emitFound _ _ _ => Unit
  | _ => Except Failure Unit

abbrev signature : Signature where
  Cmd := Cmd
  Reply := Cmd.Reply

/-- What may be thrown. The `TypeError`s are those of reading or spreading an undefined value. -/
inductive MatchError where
  | rejected
  | notAFloat
  | playerNotFound
  | typeError
deriving DecidableEq, Repr

abbrev Prog (α : Type) := Throwing signature MatchError α

abbrev request (cmd : Cmd) : Program signature cmd.Reply := @Program.perform signature cmd

def toError (_failure : Failure) : MatchError := .rejected

def getNow : Prog ℤ := Throwing.ask (request .now)

def zAdd (userId : UserId) (elo : ℤ) : Prog Unit :=
  attempt toError (request (.zAdd userId elo))

def zRem (userId : UserId) : Prog Unit := attempt toError (request (.zRem userId))

def zRange (reversed : Bool) : Prog (List UserId) :=
  attempt toError (request (.zRange reversed))

def zRangeByScore (minElo maxElo : ℤ) : Prog (List UserId) :=
  attempt toError (request (.zRangeByScore minElo maxElo))

def hSet (userId : UserId) (fields : UserData) : Prog Unit :=
  attempt toError (request (.hSet userId fields))

def hGetAll (userId : UserId) : Prog UserData :=
  attempt toError (request (.hGetAll userId))

def hGetElo (userId : UserId) : Prog (Option ℤ) :=
  attempt toError (request (.hGetElo userId))

def expire (userId : UserId) (seconds : ℤ) : Prog Unit :=
  attempt toError (request (.expire userId seconds))

def delUser (userId : UserId) : Prog Unit :=
  attempt toError (request (.delUser userId))

def findUser (userId : UserId) : Prog (Option User) :=
  attempt toError (request (.findUser userId))

def findRecent (player1Id player2Id : UserId) : Prog (List PuzzleId) :=
  attempt toError (request (.findRecent player1Id player2Id))

def findPuzzle (difficulty : String) (excluded : List PuzzleId) : Prog (Option Puzzle) :=
  attempt toError (request (.findPuzzle difficulty excluded))

def findAnyPuzzle (difficulty : String) : Prog (Option Puzzle) :=
  attempt toError (request (.findAnyPuzzle difficulty))

section Queue

variable (options : MatchmakingOptions)

def UserData.window (userData : UserData) : ℤ :=
  userData.currentEloWindow.getD (parsePrinted options.initialEloWindow)

def addToQueue (userId : UserId) (socketId : String) (elo : ℤ) : Prog Unit := do
  let joinTime ← getNow
  let _ ← Throwing.all [
    zAdd userId elo,
    hSet userId ⟨some userId, some socketId, some elo, some joinTime,
      some (parsePrinted options.initialEloWindow), some 0⟩,
    expire userId ⌈(options.maxWaitTime : ℚ) / 1000⌉]

def removeFromQueue (userId : UserId) : Prog Unit := do
  let _ ← Throwing.all [zRem userId, delUser userId]

/-- The rating in the record of a user, with zero for a missing one. -/
def readElo (userId : UserId) : Prog ℤ := do
  let elo ← hGetElo userId
  return elo.getD 0

def closest (userElo : ℤ) : List UserId → UserId → ℤ → Prog UserId
  | [], bestMatch, _ => return bestMatch
  | opponent :: opponents, bestMatch, bestDistance => do
      let opponentElo ← readElo opponent
      let distance := |opponentElo - userElo|
      if distance < bestDistance then closest userElo opponents opponent distance
      else closest userElo opponents bestMatch bestDistance

def findOpponent (queuedUsers : List UserId) (userId : UserId) (userElo currentWindow : ℤ) :
    Prog (Option UserId) := do
  let opponents ← zRangeByScore (max 0 (userElo - currentWindow)) (userElo + currentWindow)
  match opponents.filter fun id => id ≠ userId && id ∈ queuedUsers with
  | [] => return none
  | first :: others =>
    let firstElo ← readElo first
    let bestMatch ← closest userElo (first :: others) first |firstElo - userElo|
    return some bestMatch

def UserData.timedOut (userData : UserData) (now : ℤ) : Bool :=
  userData.joinTime.any fun joinTime => options.maxWaitTime < now - joinTime

structure Match where
  player1 : UserId
  player2 : UserId
deriving DecidableEq, Repr

/-- The loop of `findMatch` over the users that were queued at its beginning. -/
def matchUsers (queuedUsers : List UserId) : List UserId → Prog (Option Match)
  | [] => return none
  | userId :: users => do
      let userData ← hGetAll userId
      if userData.userId.isNone then matchUsers queuedUsers users
      else
        let now ← getNow
        if userData.timedOut options now then
          removeFromQueue userId
          Throwing.ask (request (.emitTimeout userData.socketId))
          matchUsers queuedUsers users
        else
          match userData.elo with
          | none => throw .notAFloat
          | some userElo =>
            let currentWindow := userData.window options
            let opponent ← findOpponent queuedUsers userId userElo currentWindow
            match opponent with
            | none => matchUsers queuedUsers users
            | some bestMatch =>
              let _ ← Throwing.all [removeFromQueue userId, removeFromQueue bestMatch]
              return some ⟨userId, bestMatch⟩

def findMatch : Prog (Option Match) := do
  let queuedUsers ← zRange true
  if queuedUsers.length < 2 then return none
  else matchUsers options queuedUsers queuedUsers

/-- The loop of `expandEloWindows`. -/
def expandWindows : List UserId → Prog Unit
  | [] => return ()
  | userId :: users => do
      let userData ← hGetAll userId
      let currentWindow := userData.window options
      if userData.userId.isNone ∨ options.maxEloWindow ≤ currentWindow then expandWindows users
      else
        let newWindow := min (currentWindow + options.windowExpansionAmount) options.maxEloWindow
        hSet userId { currentEloWindow := some (parsePrinted newWindow),
                      expansions := some (parsePrinted (userData.expansions.getD 0 + 1)) }
        expandWindows users

def expandEloWindows : Prog Unit := do
  let queuedUsers ← zRange false
  expandWindows options queuedUsers

end Queue

/-- The members of an array that is spread. Spreading an undefined value throws. -/
def spread {α : Type} : Option (List α) → Prog (List α)
  | some members => return members
  | none => throw .typeError

/-- The puzzles of recent battles. The list of results is taken apart into two variables. -/
def getRecentPuzzles (player1Id player2Id : UserId) : Prog (List PuzzleId) := do
  let results ← Throwing.all [findRecent player1Id player2Id]
  let recent1 ← spread results[0]?
  let recent2 ← spread results[1]?
  return (recent1 ++ recent2).eraseDups

def getMatchDifficulty (_player1Id _player2Id : UserId) : String := "medium"

def selectPuzzle (player1Id player2Id : UserId) : Prog (Option Puzzle) := do
  let difficulty := getMatchDifficulty player1Id player2Id
  let recentPuzzleIds ← getRecentPuzzles player1Id player2Id
  let puzzle ← findPuzzle difficulty recentPuzzleIds
  match puzzle with
  | some puzzle => return some puzzle
  | none => findAnyPuzzle difficulty

def User.player (user : User) : Player := ⟨user.id, user.username, user.elo, none, none, none, none⟩

def newState (battle : Battle) (player1 player2 : User) (lastActivity : ℤ) : BattleState where
  id := battle.id
  roomId := battle.roomId
  player1Id := battle.player1Id
  player2Id := battle.player2Id
  status := .waiting
  player1 := player1.player
  player2 := player2.player
  details := ⟨none, none, lastActivity, none, none, none, none, none⟩

/-- The part of `createBattle` that stores and announces the battle. -/
def storeBattle (roomId : RoomId) (player1Id player2Id : UserId) (player1 player2 : User)
    (puzzle : Puzzle) : Prog Unit := do
  let lastActivityAt ← getNow
  let battle ← attempt toError (request (.createBattle
    ⟨roomId, player1Id, player2Id, puzzle.id, puzzle.version, .waiting, 100, 100,
      lastActivityAt⟩))
  let lastActivity ← getNow
  let battleState := newState battle player1 player2 lastActivity
  attempt toError (request (.setBattle roomId battleState))
  Throwing.ask (request (.emitFound (player1.socketId.getD "") roomId battleState))
  Throwing.ask (request (.emitFound (player2.socketId.getD "") roomId battleState))

/-- The block of `createBattle` whose errors are caught. -/
def tryCreateBattle (player1Id player2Id : UserId) : Prog Unit := do
  let roomId ← Throwing.ask (request .newRoomId)
  let players ← Throwing.all [findUser player1Id, findUser player2Id]
  match players with
  | [some player1, some player2] =>
    let puzzle ← selectPuzzle player1Id player2Id
    match puzzle with
    | none => throw .typeError
    | some puzzle => storeBattle roomId player1Id player2Id player1 player2 puzzle
  | _ => throw .playerNotFound

/-- The handler of an error only writes to the console. -/
def createBattle (player1Id player2Id : UserId) : Prog Unit :=
  tryCatch (tryCreateBattle player1Id player2Id) fun _ => return ()

/-- Redis and the tables. Rows of battles are listed newest first. -/
structure Store where
  queue : Ranked UserId
  hashes : UserId → Option Hash
  states : Expiring RoomId Text
  users : UserId → Option User
  puzzles : List Puzzle
  battles : List Battle

structure Choice where
  now : ℤ
  fails : Bool
  freshId : String

def answer {α : Type} (fails : Bool) (value : α) : Except Failure α :=
  if fails then .error .rejected else .ok value

def Store.hash (store : Store) (now : ℤ) (userId : UserId) : Option Hash :=
  (store.hashes userId).filter fun hash => hash.expiresAt.all fun expiresAt => now < expiresAt

def Store.userData (store : Store) (now : ℤ) (userId : UserId) : UserData :=
  ((store.hash now userId).map Hash.data).getD {}

def Store.setHash (store : Store) (userId : UserId) (hash : Option Hash) : Store :=
  { store with hashes := Function.update store.hashes userId hash }

def FewerSubmissions (first second : Puzzle) : Prop :=
  first.submissionCount ≤ second.submissionCount

instance : DecidableRel FewerSubmissions := fun first second =>
  inferInstanceAs (Decidable (first.submissionCount ≤ second.submissionCount))

def Store.activePuzzles (store : Store) (difficulty : String) : List Puzzle :=
  store.puzzles.filter fun puzzle => puzzle.difficulty = difficulty && puzzle.isActive

def handle (cmd : Cmd) (choice : Choice) (store : Store) : cmd.Reply × Store :=
  match cmd with
  | .now => (choice.now, store)
  | .newRoomId => (choice.freshId, store)
  | .zAdd userId elo =>
    (answer choice.fails (),
      if choice.fails then store else { store with queue := store.queue.insert userId elo })
  | .zRem userId =>
    (answer choice.fails (),
      if choice.fails then store else { store with queue := store.queue.erase userId })
  | .zRange reversed =>
    let members := store.queue.ascending.map Prod.fst
    (answer choice.fails (if reversed then members.reverse else members), store)
  | .zRangeByScore minElo maxElo =>
    (answer choice.fails (store.queue.rangeByScore minElo maxElo), store)
  | .hSet userId fields =>
    let hash := (store.hash choice.now userId).getD ⟨{}, none⟩
    (answer choice.fails (), if choice.fails then store
      else store.setHash userId (some { hash with data := hash.data.set fields }))
  | .hGetAll userId => (answer choice.fails (store.userData choice.now userId), store)
  | .hGetElo userId => (answer choice.fails (store.userData choice.now userId).elo, store)
  | .expire userId seconds =>
    (answer choice.fails (), if choice.fails then store
      else store.setHash userId ((store.hash choice.now userId).map fun hash =>
        { hash with expiresAt := some (choice.now + seconds * 1000) }))
  | .delUser userId =>
    (answer choice.fails (), if choice.fails then store else store.setHash userId none)
  | .emitTimeout _ => ((), store)
  | .findUser userId => (answer choice.fails (store.users userId), store)
  | .findRecent player1Id player2Id =>
    (answer choice.fails (((store.battles.filter fun battle =>
      battle.player1Id = player1Id || battle.player2Id = player2Id).take 5).map
        fun battle => battle.puzzleId), store)
  | .findPuzzle difficulty excluded =>
    (answer choice.fails (((store.activePuzzles difficulty).filter fun puzzle =>
      puzzle.id ∉ excluded).insertionSort FewerSubmissions).head?, store)
  | .findAnyPuzzle difficulty =>
    (answer choice.fails (store.activePuzzles difficulty).head?, store)
  | .createBattle battle =>
    let row : Battle := { battle with id := choice.freshId, createdAt := choice.now }
    (answer choice.fails row,
      if choice.fails then store else { store with battles := row :: store.battles })
  | .setBattle roomId state =>
    (answer choice.fails (), if choice.fails then store
      else { store with
        states := store.states.setEx choice.now roomId 1800000 state.stringify })
  | .emitFound _ _ _ => ((), store)

end CodeClash.Enhanced.Matchmaking
