import CodeClash.Async.Throwing
import Mathlib.Data.Rat.Defs

/-!
# Battle rooms in Redis

The part of `packages/backend/src/services/redis.service.ts` that keeps battle rooms. Every command
may fail, and a failed command changes nothing. A room and its participants are stored twice: in
hashes of their own, and inside the JSON document of the state of the battle. A date in a hash is
turned back into a date when it is read, a date in a document is a text. Numbers are whole, and the
moments of last activity are left out.
-/

namespace CodeClash.Rooms

open Async Function Throwing

abbrev UserId := String
abbrev RoomId := String

inductive BattleState where
  | waiting
  | countdown
  | active
  | judging
  | ended
deriving DecidableEq, Repr

structure Room (Date : Type) where
  id : RoomId
  player1Id : UserId
  player2Id : UserId
  puzzleId : String
  state : BattleState
  startedAt : Option Date
  endedAt : Option Date
  timeLimit : ℤ
  currentRound : ℤ
deriving DecidableEq, Repr

abbrev BattleRoom := Room ℤ

structure IsoText where
  time : ℤ
deriving DecidableEq, Repr

/-- A room as `JSON.parse` returns it from `JSON.stringify`. -/
def BattleRoom.stringify (room : BattleRoom) : Room IsoText :=
  { room with
    startedAt := room.startedAt.map IsoText.mk
    endedAt := room.endedAt.map IsoText.mk }

structure Participant where
  userId : UserId
  username : String
  elo : ℤ
  hp : ℤ
  mana : ℤ
  submissions : ℤ
  isDisconnected : Bool
  shield : Option ℤ
deriving DecidableEq, Repr

structure TestCase where
  input : String
  expectedOutput : String
  isHidden : Bool
deriving DecidableEq, Repr

structure Problem where
  id : String
  testCases : List TestCase
deriving DecidableEq, Repr

inductive Side where
  | player1
  | player2
deriving DecidableEq, Repr

structure BattleStateData where
  room : Room IsoText
  player1 : Participant
  player2 : Participant
  puzzle : Option Problem
  timeRemaining : ℤ
  currentTurn : UserId
deriving DecidableEq, Repr

def BattleStateData.player (state : BattleStateData) : Side → Participant
  | .player1 => state.player1
  | .player2 => state.player2

def BattleStateData.setPlayer (state : BattleStateData) (side : Side) (player : Participant) :
    BattleStateData :=
  match side with
  | .player1 => { state with player1 := player }
  | .player2 => { state with player2 := player }

structure Participants where
  player1 : Participant
  player2 : Participant
deriving DecidableEq, Repr

def Participants.findSide (participants : Participants) (userId : UserId) : Option Side :=
  if participants.player1.userId = userId then some .player1
  else if participants.player2.userId = userId then some .player2
  else none

def Participants.modify (participants : Participants) (side : Side)
    (updates : Participant → Participant) : Participants :=
  match side with
  | .player1 => { participants with player1 := updates participants.player1 }
  | .player2 => { participants with player2 := updates participants.player2 }

/-- The participant `{ ...participant, ...updates }` for a whole participant as updates. A shield
is kept if there is no other. -/
def Participant.replace (updates participant : Participant) : Participant :=
  { updates with shield := updates.shield <|> participant.shield }

structure JudgeResult where
  passed : ℕ
  total : ℕ
  executionTime : Option ℚ
deriving DecidableEq, Repr

structure DamageLog where
  id : String
  sourcePlayer : UserId
  targetPlayer : UserId
  damage : ℤ
  timestamp : ℤ
  details : JudgeResult
deriving DecidableEq, Repr

structure EloChange where
  winner : ℤ
  loser : ℤ
deriving DecidableEq, Repr

structure Reward where
  xp : ℤ
  tokens : ℤ
deriving DecidableEq, Repr

structure Rewards where
  winner : Reward
  loser : Reward
deriving DecidableEq, Repr

structure BattleStats where
  winner : UserId
  loser : UserId
  duration : ℤ
  totalSubmissions : ℤ
  damageLog : List DamageLog
  eloChange : EloChange
  rewards : Rewards
deriving DecidableEq, Repr

structure SpellUnlock where
  spellId : String
  userId : UserId
deriving DecidableEq, Repr

structure SpellEffect where
  type : String
  message : String
  testCase : Option TestCase := none
  duration : Option ℤ := none
  value : Option ℤ := none
  targetId : Option UserId := none
deriving DecidableEq, Repr

inductive Message where
  | countdown (seconds : ℤ)
  | start (puzzle : Option Problem) (timeLimit : ℤ) (opponentName : String) (opponentElo : ℤ)
  | timeWarning (secondsLeft : ℤ)
  | opponentProgress (linesChanged : ℕ) (submissionCount : ℤ)
  | damage (sourcePlayer targetPlayer : UserId) (damage targetHP : ℤ) (attackAnimation : String)
  | spellUsed (caster : UserId) (spellType : String) (effect : SpellEffect)
  | codeWipe (targetId : UserId)
  | reconnecting (opponentId : UserId)
  | opponentReconnected
  | stateUpdate (state : BattleStateData)
  | ended (stats : BattleStats)
  | unlocked (unlock : SpellUnlock)
deriving DecidableEq, Repr

inductive Failure where
  | rejected
deriving DecidableEq, Repr

inductive EffectKey where
  | doubleDamage (roomId : RoomId) (userId : UserId)
  | debugRay (roomId : RoomId) (userId : UserId)
deriving DecidableEq, Repr

inductive RoomKey where
  | room (roomId : RoomId)
  | state (roomId : RoomId)
  | participants (roomId : RoomId)
  | damageLogs (roomId : RoomId)
deriving DecidableEq, Repr

/-- The timers that are started, with what their callbacks know. -/
inductive Timer where
  | readyCheck (roomId : RoomId) (elapsed : ℤ)
  | countdown (roomId : RoomId) (countdown : ℤ)
  | battle (roomId : RoomId)
  | unfreeze (roomId : RoomId)
  | cleanup (roomId : RoomId)
deriving DecidableEq, Repr

inductive Cmd where
  | now
  | freshId
  | random (bound : ℕ)
  | getRoom (roomId : RoomId)
  | setRoom (roomId : RoomId) (room : BattleRoom)
  | getParticipants (roomId : RoomId)
  | setParticipants (roomId : RoomId) (participants : Participants)
  | getState (roomId : RoomId)
  | setState (roomId : RoomId) (state : BattleStateData)
  | expire (key : RoomKey) (seconds : ℤ)
  | setUserBattle (userId : UserId) (roomId : RoomId)
  | getDamageLogs (roomId : RoomId)
  | pushDamageLog (roomId : RoomId) (log : DamageLog)
  | getEffect (key : EffectKey)
  | setEffect (key : EffectKey) (seconds : ℤ)
  | delEffect (key : EffectKey)
  | publish (channel : String) (message : Message)
  | judge (code language : String) (puzzle : Option Problem)
  | awardSpells (winnerId loserId : UserId)
  | startTimer (timer : Timer)
  | stopTimers (roomId : RoomId)

abbrev Cmd.Reply : Cmd → Type
  | .now => ℤ
  | .freshId => String
  | .random _ => ℕ
  | .getRoom _ => Except Failure (Option BattleRoom)
  | .getParticipants _ => Except Failure (Option Participants)
  | .getState _ => Except Failure (Option BattleStateData)
  | .getDamageLogs _ => Except Failure (List DamageLog)
  | .getEffect _ => Except Failure Bool
  | .judge _ _ _ => Except Failure JudgeResult
  | .awardSpells _ _ => List SpellUnlock
  | .startTimer _ => Unit
  | .stopTimers _ => Unit
  | _ => Except Failure Unit

abbrev signature : Signature where
  Cmd := Cmd
  Reply := Cmd.Reply

inductive RoomError where
  | rejected
  | battleStateNotFound
  | battleRoomNotFound
  | participantNotFound
  | battleNotActive
  | insufficientMana
  | typeError
  | referenceError
deriving DecidableEq, Repr

abbrev Prog (α : Type) := Throwing signature RoomError α

abbrev request (cmd : Cmd) : Program signature cmd.Reply := @Program.perform signature cmd

def toError (_failure : Failure) : RoomError := .rejected

def getNow : Prog ℤ := Throwing.ask (request .now)

def startTimer (timer : Timer) : Prog Unit := Throwing.ask (request (.startTimer timer))

def setRoom (roomId : RoomId) (room : BattleRoom) : Prog Unit :=
  attempt toError (request (.setRoom roomId room))

def setParticipants (roomId : RoomId) (participants : Participants) : Prog Unit :=
  attempt toError (request (.setParticipants roomId participants))

def setState (roomId : RoomId) (state : BattleStateData) : Prog Unit :=
  attempt toError (request (.setState roomId state))

def expire (key : RoomKey) (seconds : ℤ) : Prog Unit :=
  attempt toError (request (.expire key seconds))

def setUserBattle (userId : UserId) (roomId : RoomId) : Prog Unit :=
  attempt toError (request (.setUserBattle userId roomId))

def getEffect (key : EffectKey) : Prog Bool := attempt toError (request (.getEffect key))

def setEffect (key : EffectKey) (seconds : ℤ) : Prog Unit :=
  attempt toError (request (.setEffect key seconds))

def delEffect (key : EffectKey) : Prog Unit := attempt toError (request (.delEffect key))

def publish (channel : String) (message : Message) : Prog Unit :=
  attempt toError (request (.publish channel message))

/-- `MATCHMAKING_CONFIG.BATTLE_TIMEOUT` in seconds. -/
def ttlSeconds : ℤ := 1800000 / 1000

def createBattleRoom (room : BattleRoom) (player1 player2 : Participant) : Prog Unit := do
  setRoom room.id room
  setParticipants room.id ⟨player1, player2⟩
  setState room.id ⟨room.stringify, player1, player2, none, room.timeLimit, player1.userId⟩
  expire (.room room.id) ttlSeconds
  expire (.state room.id) ttlSeconds
  expire (.participants room.id) ttlSeconds
  setUserBattle player1.userId room.id
  setUserBattle player2.userId room.id

def getBattleRoom (roomId : RoomId) : Prog (Option BattleRoom) := do
  let roomData ← attempt toError (request (.getRoom roomId))
  return roomData.filter fun room => room.id ≠ ""

def getBattleParticipants (roomId : RoomId) : Prog (Option Participants) :=
  attempt toError (request (.getParticipants roomId))

def getBattleState (roomId : RoomId) : Prog (Option BattleStateData) :=
  attempt toError (request (.getState roomId))

/-- All fields of the document are among the updates, so they replace it. -/
def updateBattleState (roomId : RoomId) (state : BattleStateData) : Prog Unit := do
  let currentState ← getBattleState roomId
  match currentState with
  | none => throw .battleStateNotFound
  | some _ => setState roomId state

def updateParticipant (roomId : RoomId) (userId : UserId) (updates : Participant → Participant) :
    Prog Unit := do
  let found ← getBattleParticipants roomId
  match found with
  | none => throw .participantNotFound
  | some participants =>
    match participants.findSide userId with
    | none => throw .participantNotFound
    | some side => setParticipants roomId (participants.modify side updates)

def updateBattleRoom (roomId : RoomId) (updates : BattleRoom → BattleRoom) : Prog Unit := do
  let found ← getBattleRoom roomId
  match found with
  | none => throw .battleRoomNotFound
  | some currentRoom => setRoom roomId (updates currentRoom)

structure Store where
  rooms : RoomId → Option BattleRoom
  participants : RoomId → Option Participants
  states : RoomId → Option BattleStateData
  userBattles : UserId → Option RoomId
  damageLogs : RoomId → List DamageLog
  effects : EffectKey → Bool
  published : List (String × Message)

structure Choice where
  now : ℤ
  fails : Bool
  freshId : String
  random : ℕ
  judge : Option JudgeResult
  unlocks : List SpellUnlock

def answer {α : Type} (fails : Bool) (value : α) : Except Failure α :=
  if fails then .error .rejected else .ok value

def Cmd.write (store : Store) : Cmd → Store
  | .setRoom roomId room =>
    { store with rooms := update store.rooms roomId (some room) }
  | .setParticipants roomId participants =>
    { store with
      participants := update store.participants roomId (some participants) }
  | .setState roomId state =>
    { store with states := update store.states roomId (some state) }
  | .setUserBattle userId roomId =>
    { store with userBattles := update store.userBattles userId (some roomId) }
  | .pushDamageLog roomId log =>
    { store with
      damageLogs := update store.damageLogs roomId (log :: store.damageLogs roomId) }
  | .setEffect key _ => { store with effects := update store.effects key true }
  | .delEffect key => { store with effects := update store.effects key false }
  | .publish channel message => { store with published := store.published ++ [(channel, message)] }
  | _ => store

def reply (choice : Choice) (store : Store) : (cmd : Cmd) → cmd.Reply
  | .now => choice.now
  | .freshId => choice.freshId
  | .random bound => choice.random % bound
  | .getRoom roomId => answer choice.fails (store.rooms roomId)
  | .getParticipants roomId => answer choice.fails (store.participants roomId)
  | .getState roomId => answer choice.fails (store.states roomId)
  | .getDamageLogs roomId => answer choice.fails (store.damageLogs roomId)
  | .getEffect key => answer choice.fails (store.effects key)
  | .judge _ _ _ => choice.judge.elim (.error .rejected) .ok
  | .awardSpells _ _ => choice.unlocks
  | .startTimer _ => ()
  | .stopTimers _ => ()
  | .setRoom _ _ => answer choice.fails ()
  | .setParticipants _ _ => answer choice.fails ()
  | .setState _ _ => answer choice.fails ()
  | .expire _ _ => answer choice.fails ()
  | .setUserBattle _ _ => answer choice.fails ()
  | .pushDamageLog _ _ => answer choice.fails ()
  | .setEffect _ _ => answer choice.fails ()
  | .delEffect _ => answer choice.fails ()
  | .publish _ _ => answer choice.fails ()

def handle (cmd : Cmd) (choice : Choice) (store : Store) : cmd.Reply × Store :=
  (reply choice store cmd, if choice.fails then store else cmd.write store)

end CodeClash.Rooms
