import CodeClash.Async.Embedding
import CodeClash.Rooms.Service

/-!
# The matchmaking service of the battle rooms

The queue of `packages/backend/src/services/matchmaking.service.ts` with the functions of
`redis.service.ts` that it uses. Entries are kept as JSON texts in a sorted set. What comes back has
a text in the place of the date, and a text has no method `getTime`. The order of members with equal
scores is left to the environment, and so are the puzzles, as `selectPuzzleByElo` is not defined in
the repository.
-/

namespace CodeClash.Rooms.Matchmaking

open Async Throwing

inductive Difficulty where
  | easy
  | medium
  | hard
deriving DecidableEq, Repr

structure Preferences where
  difficulty : Option Difficulty
  timeLimit : Option ℤ
  languages : Option (List String)
deriving DecidableEq, Repr

structure QueueEntry (Date : Type) where
  userId : UserId
  username : String
  elo : ℤ
  joinedAt : Date
  preferences : Preferences
deriving DecidableEq, Repr

abbrev StoredEntry := QueueEntry IsoText

def QueueEntry.stringify (entry : QueueEntry ℤ) : StoredEntry :=
  ⟨entry.userId, entry.username, entry.elo, ⟨entry.joinedAt⟩, entry.preferences⟩

inductive Cmd where
  | room (cmd : Rooms.Cmd)
  | now
  | freshId
  | getUserBattle (userId : UserId)
  | zrange
  | zadd (entry : StoredEntry)
  | expireQueue (seconds : ℤ)
  | zrem (entry : StoredEntry)
  | zcard
  | zrangebyscore (minElo maxElo : ℚ) (limit : ℕ)
  | selectPuzzleByElo (elo : ℤ) (difficulty : Option Difficulty) (timeLimit : Option ℤ)
  | publishMatch (userId : UserId) (roomId : RoomId) (opponent : Participant) (puzzle : Problem)

abbrev Cmd.Reply : Cmd → Type
  | .room cmd => cmd.Reply
  | .now => ℤ
  | .freshId => String
  | .getUserBattle _ => Except Failure (Option RoomId)
  | .zrange => Except Failure (List StoredEntry)
  | .zcard => Except Failure ℕ
  | .zrangebyscore _ _ _ => Except Failure (List StoredEntry)
  | .selectPuzzleByElo _ _ _ => Except Failure (Option Problem)
  | _ => Except Failure Unit

abbrev signature : Signature where
  Cmd := Cmd
  Reply := Cmd.Reply

abbrev Prog (α : Type) := Throwing signature RoomError α

abbrev request (cmd : Cmd) : Program signature cmd.Reply := @Program.perform signature cmd

def ofRooms {α : Type} (program : Rooms.Prog α) : Prog α :=
  ExceptT.mk (Program.embed Cmd.room (fun _ reply => reply) program.run)

def getNow : Prog ℤ := Throwing.ask (request .now)

/-- `MATCHMAKING_CONFIG.QUEUE_TIMEOUT` in seconds. -/
def queueSeconds : ℤ := 300000 / 1000

def addToQueue (entry : QueueEntry ℤ) : Prog Unit := do
  attempt toError (request (.zadd entry.stringify))
  attempt toError (request (.expireQueue queueSeconds))

def getQueueEntries : Prog (List StoredEntry) := attempt toError (request .zrange)

def getQueueSize : Prog ℕ := attempt toError (request .zcard)

def removeFromQueue (userId : UserId) : Prog Unit := do
  let queueEntries ← getQueueEntries
  match queueEntries.find? fun entry => entry.userId = userId with
  | none => return ()
  | some entry => attempt toError (request (.zrem entry))

/-- The entry with the smallest difference below a bound, the first of several. -/
def closest (elo : ℤ) : List StoredEntry → ℚ → Option StoredEntry → Option StoredEntry
  | [], _, bestMatch => bestMatch
  | entry :: entries, minDiff, bestMatch =>
    let diff : ℚ := |entry.elo - elo|
    if diff < minDiff then closest elo entries diff (some entry)
    else closest elo entries minDiff bestMatch

def findMatch (elo : ℤ) (maxEloDiff : ℚ) : Prog (Option StoredEntry) := do
  let entries ← attempt toError
    (request (.zrangebyscore (max 0 (elo - maxEloDiff)) (elo + maxEloDiff) 10))
  return closest elo entries maxEloDiff none

structure MatchmakingRequest where
  userId : UserId
  elo : ℤ
  preferences : Option Preferences

inductive MatchmakingResponse where
  | queued (queueSize : ℕ) (estimatedWaitTime : ℤ)
  | refused (error : String)
deriving DecidableEq, Repr

def calculateEstimatedWaitTime (queueSize : ℕ) (userElo : ℤ) : ℤ :=
  let baseWaitTime : ℤ := max 0 ((queueSize - 1) * 2000)
  let eloMultiplier : ℚ := if 1500 < userElo then 3 / 2 else if userElo < 1000 then 7 / 10 else 1
  round (baseWaitTime * eloMultiplier)

/-- Errors are caught and answered. -/
def joinQueue (join : MatchmakingRequest) : Prog MatchmakingResponse :=
  let joins : Prog MatchmakingResponse := do
    let existingBattle ← attempt toError (request (.getUserBattle join.userId))
    if (existingBattle.filter fun roomId => roomId ≠ "").isSome then
      return .refused "User is already in a battle"
    else
      let queueEntries ← getQueueEntries
      if queueEntries.any fun entry => entry.userId = join.userId then
        return .refused "User is already in queue"
      else
        let joinedAt ← getNow
        addToQueue ⟨join.userId, "", join.elo, joinedAt, join.preferences.getD ⟨none, none, none⟩⟩
        let queueSize ← getQueueSize
        return .queued queueSize (calculateEstimatedWaitTime queueSize join.elo)
  tryCatch joins fun _ => return .refused "Failed to join queue"

/-- A text has no method `getTime`. -/
def joinTime (_joinedAt : IsoText) : Except RoomError ℤ := throw .typeError

/-- The comparison `a.joinedAt.getTime() - b.joinedAt.getTime()`. -/
def compareJoined (first second : StoredEntry) : Except RoomError ℤ := do
  let firstTime ← joinTime first.joinedAt
  let secondTime ← joinTime second.joinedAt
  return firstTime - secondTime

def insertBy {α ε : Type} (compare : α → α → Except ε ℤ) (item : α) :
    List α → Except ε (List α)
  | [] => return [item]
  | other :: others => do
      let order ← compare item other
      if order < 0 then return item :: other :: others
      else
        let inserted ← insertBy compare item others
        return other :: inserted

/-- Sort with a comparison that may throw. No comparison is made of a single item. -/
def sortBy {α ε : Type} (compare : α → α → Except ε ℤ) : List α → Except ε (List α)
  | [] => return []
  | item :: items => do
      let sorted ← sortBy compare items
      insertBy compare item sorted

/-- Two preferences agree unless both are there and do not fit. -/
def fits {α : Type} (agree : α → α → Bool) : Option α → Option α → Bool
  | some first, some second => agree first second
  | _, _ => true

def givenLimit (timeLimit : Option ℤ) : Option ℤ := timeLimit.filter fun limit => limit ≠ 0

def arePlayersCompatible (player1 player2 : StoredEntry) : Bool :=
  fits (fun first second => first = second) player1.preferences.difficulty
      player2.preferences.difficulty &&
    fits (fun first second => |first - second| ≤ 300000) (givenLimit player1.preferences.timeLimit)
      (givenLimit player2.preferences.timeLimit) &&
    fits (fun first second => first.any fun language => language ∈ second)
      player1.preferences.languages player2.preferences.languages

def participantOf (player : StoredEntry) : Participant :=
  ⟨player.userId, player.username, player.elo, 500, 50, 0, false, none⟩

/-- The part of `createMatch` after a puzzle was found. -/
def openRoom (player1 player2 : StoredEntry) (puzzle : Problem) : Prog Unit := do
  let roomId ← Throwing.ask (request .freshId)
  let battleRoom : BattleRoom :=
    { id := roomId
      player1Id := player1.userId
      player2Id := player2.userId
      puzzleId := puzzle.id
      state := .waiting
      startedAt := none
      endedAt := none
      timeLimit := ((givenLimit player1.preferences.timeLimit <|>
        givenLimit player2.preferences.timeLimit).getD 600000)
      currentRound := 1 }
  ofRooms (createBattleRoom battleRoom (participantOf player1) (participantOf player2))
  ofRooms (initializeBattle roomId puzzle)
  attempt toError
    (request (.publishMatch player1.userId roomId (participantOf player2) puzzle))
  attempt toError
    (request (.publishMatch player2.userId roomId (participantOf player1) puzzle))

/-- Errors are caught, and the players are removed from the queue afterwards in any case. -/
def createMatch (player1 player2 : StoredEntry) : Prog Unit :=
  let creates : Prog Unit := do
    let avgElo := round ((player1.elo + player2.elo : ℚ) / 2)
    let found ← attempt toError (request (.selectPuzzleByElo avgElo
      (player1.preferences.difficulty <|> player2.preferences.difficulty)
      (givenLimit player1.preferences.timeLimit <|> givenLimit player2.preferences.timeLimit)))
    match found with
    | none => return ()
    | some puzzle => openRoom player1 player2 puzzle
  tryCatch creates fun _ => return ()

/-- The loop over the players, with those who are matched already. -/
def matchPlayers (currentEloWindow : ℚ) (total : ℕ) :
    List StoredEntry → List UserId → Prog Unit
  | [], _ => return ()
  | player1 :: players, matchedUsers =>
    if total - 1 ≤ matchedUsers.length then return ()
    else if player1.userId ∈ matchedUsers then
      matchPlayers currentEloWindow total players matchedUsers
    else do
      let opponent ← findMatch player1.elo currentEloWindow
      match opponent.filter fun opponent => opponent.userId ∉ matchedUsers ∧
          opponent.userId ≠ player1.userId ∧ arePlayersCompatible player1 opponent with
      | none => matchPlayers currentEloWindow total players matchedUsers
      | some opponent =>
        createMatch player1 opponent
        removeFromQueue player1.userId
        removeFromQueue opponent.userId
        matchPlayers currentEloWindow total players
          (opponent.userId :: player1.userId :: matchedUsers)

/-- `MATCHMAKING_CONFIG.INITIAL_ELO_WINDOW`. -/
def initialEloWindow : ℚ := 200

/-- Errors are caught. -/
def scanForMatches (eloWindowMultiplier : ℚ) : Prog Unit :=
  let scans : Prog Unit := do
    let queueEntries ← getQueueEntries
    if queueEntries.length < 2 then return ()
    else
      let sorted ← ExceptT.mk (.done (sortBy compareJoined queueEntries))
      matchPlayers (initialEloWindow * eloWindowMultiplier) queueEntries.length sorted []
  tryCatch scans fun _ => return ()

structure Store where
  rooms : Rooms.Store
  queue : List StoredEntry
  notices : List (UserId × RoomId)

structure Choice where
  room : Rooms.Choice
  now : ℤ
  fails : Bool
  freshId : String
  textBefore : StoredEntry → StoredEntry → Bool
  puzzle : Option Problem

def place (textBefore : StoredEntry → StoredEntry → Bool) (entry : StoredEntry) :
    List StoredEntry → List StoredEntry
  | [] => [entry]
  | other :: others =>
    if entry.elo < other.elo ∨ entry.elo = other.elo ∧ textBefore entry other then
      entry :: other :: others
    else other :: place textBefore entry others

def Cmd.write (choice : Choice) (store : Store) : Cmd → Store
  | .room cmd => { store with rooms := (Rooms.handle cmd choice.room store.rooms).2 }
  | .zadd entry =>
    if entry ∈ store.queue then store
    else { store with queue := place choice.textBefore entry store.queue }
  | .zrem entry => { store with queue := store.queue.erase entry }
  | .publishMatch userId roomId _ _ => { store with notices := store.notices ++ [(userId, roomId)] }
  | _ => store

def reply (choice : Choice) (store : Store) : (cmd : Cmd) → cmd.Reply
  | .room cmd => (Rooms.handle cmd choice.room store.rooms).1
  | .now => choice.now
  | .freshId => choice.freshId
  | .getUserBattle userId => answer choice.fails (store.rooms.userBattles userId)
  | .zrange => answer choice.fails store.queue
  | .zadd _ => answer choice.fails ()
  | .expireQueue _ => answer choice.fails ()
  | .zrem _ => answer choice.fails ()
  | .zcard => answer choice.fails store.queue.length
  | .zrangebyscore minElo maxElo limit => answer choice.fails
      ((store.queue.filter fun entry => minElo ≤ entry.elo ∧ (entry.elo : ℚ) ≤ maxElo).take limit)
  | .selectPuzzleByElo _ _ _ => answer choice.fails choice.puzzle
  | .publishMatch _ _ _ _ => answer choice.fails ()

def handle (cmd : Cmd) (choice : Choice) (store : Store) : cmd.Reply × Store :=
  match cmd with
  | .room cmd => (reply choice store (.room cmd), Cmd.write choice store (.room cmd))
  | cmd => (reply choice store cmd, if choice.fails then store else cmd.write choice store)

def runAlone {α : Type} (program : Prog α) (choices : ℕ → Choice) (store : Store) :
    Except RoomError α × Store :=
  program.run.run handle (fun _ store => store) choices store

end CodeClash.Rooms.Matchmaking
