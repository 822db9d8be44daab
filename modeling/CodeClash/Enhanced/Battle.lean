import CodeClash.Async.System
import CodeClash.Async.Throwing
import CodeClash.Keys.Expiring
import Mathlib.Algebra.Order.Ring.Unbundled.Rat

/-!
# The enhanced battle service

The battles of `apps/api/src/services/enhancedBattleService.ts`. Every command may fail, and a
failed command changes nothing. The state of a battle is one JSON document: `updateBattleState`
reads it, checks the new status against the one it has read, and later stores the document. The
puzzle and the spells of the players are left out. Ids of rooms contain no pattern characters.
-/

namespace CodeClash.Enhanced

open Async Keys Throwing

abbrev UserId := String
abbrev RoomId := String

inductive Status where
  | waiting
  | countdown
  | active
  | judging
  | completed
  | error
  | abandoned
deriving DecidableEq, Repr

/-- The player of a document. A new battle has no hit points, code or progress. -/
structure Player where
  id : UserId
  username : String
  elo : ℤ
  hp : Option ℚ
  code : Option String
  lastActivity : Option ℤ
  progress : Option ℚ
deriving DecidableEq, Repr

inductive PlayerKey where
  | player1
  | player2
deriving DecidableEq, Repr

/-- The fields of a document that are not checked when it is read. -/
structure Details where
  startTime : Option ℤ
  endTime : Option ℤ
  lastActivity : ℤ
  currentRound : Option ℤ
  timeLimit : Option ℚ
  countdownStartTime : Option ℤ
  errorReason : Option String
  winnerId : Option UserId
deriving DecidableEq, Repr

/-- A document as `JSON.parse` returns it. A string that is missing is empty, and a status that is
not one of the seven is missing. -/
structure Document where
  id : String
  roomId : RoomId
  player1Id : UserId
  player2Id : UserId
  status : Option Status
  player1 : Option Player
  player2 : Option Player
  details : Details
deriving DecidableEq, Repr

inductive Text where
  | malformed
  | json (document : Document)
deriving DecidableEq, Repr

structure BattleState where
  id : String
  roomId : RoomId
  player1Id : UserId
  player2Id : UserId
  status : Status
  player1 : Player
  player2 : Player
  details : Details
deriving DecidableEq, Repr

def BattleState.stringify (state : BattleState) : Text :=
  .json ⟨state.id, state.roomId, state.player1Id, state.player2Id, some state.status,
    some state.player1, some state.player2, state.details⟩

/-- The state of a document that passes the checks of `isValidBattleState`. -/
def isValidBattleState (document : Document) : Option BattleState :=
  match document.status, document.player1, document.player2 with
  | some status, some player1, some player2 =>
    if document.id = "" ∨ document.roomId = "" ∨ document.player1Id = "" ∨
        document.player2Id = "" then none
    else some ⟨document.id, document.roomId, document.player1Id, document.player2Id, status,
      player1, player2, document.details⟩
  | _, _, _ => none

def BattleState.player (state : BattleState) : PlayerKey → Player
  | .player1 => state.player1
  | .player2 => state.player2

/-- Everyone who is not the first player is taken for the second. -/
def BattleState.playerKey (state : BattleState) (userId : UserId) : PlayerKey :=
  if state.player1Id = userId then .player1 else .player2

structure Updates where
  status : Option Status := none
  player : Option (PlayerKey × Player) := none
  startTime : Option ℤ := none
  endTime : Option ℤ := none
  countdownStartTime : Option ℤ := none
  errorReason : Option String := none
  winnerId : Option (Option UserId) := none
deriving DecidableEq, Repr

/-- The state `{ ...currentState, ...updates, lastActivity }`. -/
def BattleState.apply (state : BattleState) (updates : Updates) (lastActivity : ℤ) :
    BattleState :=
  { state with
    status := updates.status.getD state.status
    player1 := match updates.player with
      | some (.player1, player) => player
      | _ => state.player1
    player2 := match updates.player with
      | some (.player2, player) => player
      | _ => state.player2
    details := { state.details with
      startTime := updates.startTime <|> state.details.startTime
      endTime := updates.endTime <|> state.details.endTime
      lastActivity := lastActivity
      countdownStartTime := updates.countdownStartTime <|> state.details.countdownStartTime
      errorReason := updates.errorReason <|> state.details.errorReason
      winnerId := updates.winnerId.getD state.details.winnerId } }

def validTransitions : Status → List Status
  | .waiting => [.countdown, .error, .abandoned]
  | .countdown => [.active, .error, .abandoned]
  | .active => [.judging, .completed, .error, .abandoned]
  | .judging => [.active, .completed, .error]
  | .completed => []
  | .error => [.abandoned]
  | .abandoned => []

def isValidStateTransition (currentStatus newStatus : Status) : Bool :=
  newStatus ∈ validTransitions currentStatus

inductive TimeKey where
  | progress (roomId : RoomId) (userId : UserId)
  | disconnect (roomId : RoomId) (userId : UserId)
  | firstSolve (roomId : RoomId)
deriving DecidableEq, Repr

inductive Key where
  | battle (roomId : RoomId)
  | time (key : TimeKey)
deriving DecidableEq, Repr

inductive Pattern where
  | battle (roomId : RoomId)
  | progress (roomId : RoomId)
  | disconnect (roomId : RoomId)
  | firstSolve (roomId : RoomId)
deriving DecidableEq, Repr

def Pattern.covers : Pattern → Key → Bool
  | .battle roomId, .battle other => roomId = other
  | .progress roomId, .time (.progress other _) => roomId = other
  | .disconnect roomId, .time (.disconnect other _) => roomId = other
  | .firstSolve roomId, .time (.firstSolve other) => roomId = other
  | _, _ => false

inductive EndReason where
  | victory
  | timeout
  | abandoned
deriving DecidableEq, Repr

inductive Timer where
  | countdown (roomId : RoomId)
  | battle (roomId : RoomId)
deriving DecidableEq, Repr

inductive Notice where
  | stateUpdate (status : Status) (player1Hp player2Hp player1Progress player2Progress : Option ℚ)
      (currentRound : Option ℤ) (timeRemaining : Option ℚ)
  | countdownStart (startTime duration serverTime : ℤ)
  | start (timeLimit : Option ℚ) (startTime : ℤ)
  | opponentProgress (userId : UserId) (progress : ℚ) (timestamp : ℤ)
  | opponentDisconnected (userId : UserId) (timeout : ℤ)
  | opponentReconnected (userId : UserId)
  | stateRestore (state : BattleState)
  | ended (reason : EndReason) (winnerId : Option UserId) (finalState : BattleState)
  | error (message : String) (canRetry : Bool)
deriving DecidableEq, Repr

inductive Failure where
  | rejected
deriving DecidableEq, Repr

/-- The command `setBattle` names the state that the new one was made from, which Redis does not
see. -/
inductive Cmd where
  | now
  | getBattle (roomId : RoomId)
  | setBattle (roomId : RoomId) (currentState newState : BattleState)
  | getTime (key : TimeKey)
  | setTime (key : TimeKey) (seconds time : ℤ)
  | del (keys : List Key)
  | keys (pattern : Pattern)
  | updateBattle (roomId : RoomId) (status : Status) (winnerId : Option UserId)
  | setTimeout (timer : Timer)
  | emit (roomId : RoomId) (notice : Notice)

abbrev Cmd.Reply : Cmd → Type
  | .now => ℤ
  | .getBattle _ => Except Failure (Option Text)
  | .setBattle _ _ _ => Except Failure Unit
  | .getTime _ => Except Failure (Option ℤ)
  | .setTime _ _ _ => Except Failure Unit
  | .del _ => Except Failure Unit
  | .keys _ => Except Failure (List Key)
  | .updateBattle _ _ _ => Except Failure Unit
  | .setTimeout _ => Unit
  | .emit _ _ => Unit

abbrev signature : Signature where
  Cmd := Cmd
  Reply := Cmd.Reply

inductive BattleError where
  | rejected
  | battleNotFound
  | invalidTransition (currentStatus newStatus : Status)
deriving DecidableEq, Repr

abbrev Prog (α : Type) := Throwing signature BattleError α

abbrev request (cmd : Cmd) : Program signature cmd.Reply := @Program.perform signature cmd

def toError (_failure : Failure) : BattleError := .rejected

def getNow : Prog ℤ := Throwing.ask (request .now)

def emit (roomId : RoomId) (notice : Notice) : Prog Unit :=
  Throwing.ask (request (.emit roomId notice))

def setTimeout (timer : Timer) : Prog Unit := Throwing.ask (request (.setTimeout timer))

def getTime (key : TimeKey) : Prog (Option ℤ) :=
  attempt toError (request (.getTime key))

def setTime (key : TimeKey) (seconds time : ℤ) : Prog Unit :=
  attempt toError (request (.setTime key seconds time))

def del (keys : List Key) : Prog Unit := attempt toError (request (.del keys))

def findKeys (pattern : Pattern) : Prog (List Key) :=
  attempt toError (request (.keys pattern))

def setBattle (roomId : RoomId) (currentState newState : BattleState) : Prog Unit :=
  attempt toError (request (.setBattle roomId currentState newState))

def DISCONNECT_TIMEOUT : ℤ := 30000
def CODE_PROGRESS_DEBOUNCE : ℤ := 500
def COUNTDOWN_DURATION : ℤ := 3000

/-- The state of a battle. A document that is not valid is deleted, and every error is caught. -/
def readBattle (roomId : RoomId) : Program signature (Option BattleState) := do
  match ← request (.getBattle roomId) with
  | .error _ | .ok none | .ok (some .malformed) => return none
  | .ok (some (.json document)) =>
    match isValidBattleState document with
    | some state => return some state
    | none =>
      let _ ← request (.del [.battle roomId])
      return none

def getBattleState (roomId : RoomId) : Prog (Option BattleState) :=
  Throwing.ask (readBattle roomId)

/-- The seconds that remain, unless the battle has no time limit. -/
def calculateTimeRemaining (state : BattleState) : Prog (Option ℚ) :=
  match state.details.startTime, state.status with
  | some startTime, .active =>
    if startTime = 0 then return state.details.timeLimit
    else do
      let now ← getNow
      let elapsed : ℚ := (now - startTime : ℤ) / 1000
      return state.details.timeLimit.map fun timeLimit => max 0 (timeLimit - elapsed)
  | _, _ => return state.details.timeLimit

def broadcastStateChange (roomId : RoomId) (state : BattleState) : Prog Unit := do
  let timeRemaining ← calculateTimeRemaining state
  emit roomId (.stateUpdate state.status state.player1.hp state.player2.hp
    state.player1.progress state.player2.progress state.details.currentRound timeRemaining)

def Updates.refused (updates : Updates) (currentStatus : Status) : Option Status :=
  updates.status.filter fun newStatus => !isValidStateTransition currentStatus newStatus

def updateBattleState (roomId : RoomId) (updates : Updates) : Prog BattleState := do
  let found ← getBattleState roomId
  match found with
  | none => throw .battleNotFound
  | some currentState =>
    match updates.refused currentState.status with
    | some newStatus => throw (.invalidTransition currentState.status newStatus)
    | none =>
      let lastActivity ← getNow
      let newState := currentState.apply updates lastActivity
      setBattle roomId currentState newState
      broadcastStateChange roomId newState
      return newState

def startCountdown (roomId : RoomId) : Prog Unit := do
  let found ← getBattleState roomId
  match found with
  | none => return ()
  | some battleState =>
    if battleState.status ≠ .waiting then return ()
    else
      let countdownStartTime ← getNow
      let _ ← updateBattleState roomId
        { status := some .countdown, countdownStartTime := some countdownStartTime }
      let serverTime ← getNow
      emit roomId (.countdownStart countdownStartTime COUNTDOWN_DURATION serverTime)
      setTimeout (.countdown roomId)

def startBattle (roomId : RoomId) : Prog Unit := do
  let found ← getBattleState roomId
  match found with
  | none => return ()
  | some battleState =>
    let startTime ← getNow
    let _ ← updateBattleState roomId { status := some .active, startTime := some startTime }
    let emittedTime ← getNow
    emit roomId (.start battleState.details.timeLimit emittedTime)
    setTimeout (.battle roomId)

/-- The callback after the countdown. An error on the way to the start is caught. -/
def countdownElapsed (roomId : RoomId) : Prog Unit := do
  let found ← getBattleState roomId
  match found with
  | none => return ()
  | some currentState =>
    if currentState.status = .countdown then
      tryCatch (startBattle roomId) fun _ => do
        let _ ← updateBattleState roomId
          { status := some .error, errorReason := some "Failed to start battle" }
    else return ()

structure Socket where
  userId : UserId
  roomId : RoomId
deriving DecidableEq, Repr

def handleCodeProgress (socket : Socket) (code : String) (progress : ℚ) : Prog Unit := do
  if socket.userId = "" ∨ socket.roomId = "" then return ()
  else
    let found ← getBattleState socket.roomId
    match found with
    | none => return ()
    | some battleState =>
      if battleState.status ≠ .active then return ()
      else
        let playerKey := battleState.playerKey socket.userId
        let progressKey : TimeKey := .progress socket.roomId socket.userId
        let lastUpdate ← getTime progressKey
        let now ← getNow
        if lastUpdate.any fun last => now - last < CODE_PROGRESS_DEBOUNCE then return ()
        else
          setTime progressKey 1 now
          let player := { battleState.player playerKey with
            code := some code, progress := some progress, lastActivity := some now }
          let _ ← updateBattleState socket.roomId { player := some (playerKey, player) }
          emit socket.roomId (.opponentProgress socket.userId progress now)

def handleDisconnect (socket : Socket) : Prog Unit := do
  if socket.userId = "" ∨ socket.roomId = "" then return ()
  else
    let found ← getBattleState socket.roomId
    match found with
    | none => return ()
    | some battleState =>
      let playerKey := battleState.playerKey socket.userId
      let lastActivity ← getNow
      let player := { battleState.player playerKey with lastActivity := some lastActivity }
      let _ ← updateBattleState socket.roomId { player := some (playerKey, player) }
      let disconnectKey : TimeKey := .disconnect socket.roomId socket.userId
      let now ← getNow
      setTime disconnectKey (DISCONNECT_TIMEOUT / 1000) now
      let otherPlayerId := match playerKey with
        | .player1 => battleState.player2Id
        | .player2 => battleState.player1Id
      let otherDisconnectKey : TimeKey := .disconnect socket.roomId otherPlayerId
      let otherDisconnectTime ← getTime otherDisconnectKey
      if otherDisconnectTime.isSome then
        let _ ← updateBattleState socket.roomId
          { status := some .abandoned, errorReason := some "Both players disconnected" }
        let _ ← Throwing.all [del [.time disconnectKey], del [.time otherDisconnectKey]]
      else emit socket.roomId (.opponentDisconnected socket.userId DISCONNECT_TIMEOUT)

def handleReconnection (socket : Socket) (roomId : RoomId) : Prog Unit := do
  if socket.userId = "" ∨ roomId = "" then return ()
  else
    del [.time (.disconnect roomId socket.userId)]
    let found ← getBattleState roomId
    match found with
    | none => return ()
    | some battleState =>
      emit roomId (.stateRestore battleState)
      emit roomId (.opponentReconnected socket.userId)

def exceeds (hp other : Option ℚ) : Bool :=
  match hp, other with
  | some hp, some other => other < hp
  | _, _ => false

def outcome (battleState : BattleState) : EndReason → Option UserId × Status
  | .victory =>
    (some (if exceeds battleState.player1.hp (some 0) then battleState.player1Id
      else battleState.player2Id), .completed)
  | .timeout =>
    (if exceeds battleState.player1.hp battleState.player2.hp then some battleState.player1Id
      else if exceeds battleState.player2.hp battleState.player1.hp then
        some battleState.player2Id
      else none, .completed)
  | .abandoned => (none, .abandoned)

/-- A failed update of the database is caught. -/
def updateBattleDatabase (roomId : RoomId) (status : Status) (winnerId : Option UserId) :
    Prog Unit :=
  Throwing.ask do
    let _ ← request (.updateBattle roomId status winnerId)
    return ()

def deletePatterns : List Pattern → Prog Unit
  | [] => return ()
  | pattern :: patterns => do
      let keys ← findKeys pattern
      if keys.length > 0 then del keys
      deletePatterns patterns

def cleanupBattleData (roomId : RoomId) : Prog Unit :=
  deletePatterns [.battle roomId, .progress roomId, .disconnect roomId, .firstSolve roomId]

def endBattle (roomId : RoomId) (reason : EndReason) : Prog Unit := do
  let found ← getBattleState roomId
  match found with
  | none => return ()
  | some battleState =>
    let endTime ← getNow
    let (winnerId, status) := outcome battleState reason
    let _ ← updateBattleState roomId
      { status := some status, endTime := some endTime, winnerId := some winnerId }
    updateBattleDatabase roomId status winnerId
    emit roomId (.ended reason winnerId battleState)
    cleanupBattleData roomId

def battleTimeout (roomId : RoomId) : Prog Unit := do
  let found ← getBattleState roomId
  match found with
  | none => return ()
  | some currentState =>
    if currentState.status = .active then endBattle roomId .timeout else return ()

def handleJudge0Failure (roomId : RoomId) (error : String) : Prog Unit := do
  let found ← getBattleState roomId
  match found with
  | none => return ()
  | some _ =>
    let _ ← updateBattleState roomId
      { status := some .error, errorReason := some ("Judge0 execution failed: " ++ error) }
    emit roomId (.error "Code execution service temporarily unavailable" true)

/-- Redis with the names of the keys written so far, the timers, and the statuses stored for each
room, oldest first. -/
structure Store where
  battles : Expiring RoomId Text
  times : Expiring TimeKey ℤ
  names : List Key
  timers : List Timer
  stored : RoomId → List Status

structure Choice where
  now : ℤ
  fails : Bool

def answer {α : Type} (fails : Bool) (value : α) : Except Failure α :=
  if fails then .error .rejected else .ok value

def Store.present (store : Store) (now : ℤ) : Key → Bool
  | .battle roomId => (store.battles.get now roomId).isSome
  | .time key => (store.times.get now key).isSome

def Store.delete (store : Store) : Key → Store
  | .battle roomId => { store with battles := store.battles.del roomId }
  | .time key => { store with times := store.times.del key }

def Store.setBattle (store : Store) (now : ℤ) (roomId : RoomId) (state : BattleState) : Store :=
  { store with
    battles := store.battles.setEx now roomId 1800000 state.stringify
    names := store.names.insert (.battle roomId)
    stored := Function.update store.stored roomId (store.stored roomId ++ [state.status]) }

def handle (cmd : Cmd) (choice : Choice) (store : Store) : cmd.Reply × Store :=
  match cmd with
  | .now => (choice.now, store)
  | .getBattle roomId => (answer choice.fails (store.battles.get choice.now roomId), store)
  | .setBattle roomId _ newState =>
    (answer choice.fails (),
      if choice.fails then store else store.setBattle choice.now roomId newState)
  | .getTime key => (answer choice.fails (store.times.get choice.now key), store)
  | .setTime key seconds time =>
    (answer choice.fails (), if choice.fails then store else { store with
      times := store.times.setEx choice.now key (seconds * 1000) time
      names := store.names.insert (.time key) })
  | .del keys =>
    (answer choice.fails (), if choice.fails then store else keys.foldl Store.delete store)
  | .keys pattern =>
    (answer choice.fails (store.names.filter fun key =>
      pattern.covers key && store.present choice.now key), store)
  | .updateBattle _ _ _ => (answer choice.fails (), store)
  | .setTimeout timer => ((), { store with timers := timer :: store.timers })
  | .emit _ _ => ((), store)

inductive Call where
  | startCountdown (roomId : RoomId)
  | startBattle (roomId : RoomId)
  | countdownElapsed (roomId : RoomId)
  | battleTimeout (roomId : RoomId)
  | handleCodeProgress (socket : Socket) (code : String) (progress : ℚ)
  | handleDisconnect (socket : Socket)
  | handleReconnection (socket : Socket) (roomId : RoomId)
  | endBattle (roomId : RoomId) (reason : EndReason)
  | handleJudge0Failure (roomId : RoomId) (error : String)
deriving DecidableEq, Repr

def Call.program : Call → Prog Unit
  | .startCountdown roomId => Enhanced.startCountdown roomId
  | .startBattle roomId => Enhanced.startBattle roomId
  | .countdownElapsed roomId => Enhanced.countdownElapsed roomId
  | .battleTimeout roomId => Enhanced.battleTimeout roomId
  | .handleCodeProgress socket code progress => Enhanced.handleCodeProgress socket code progress
  | .handleDisconnect socket => Enhanced.handleDisconnect socket
  | .handleReconnection socket roomId => Enhanced.handleReconnection socket roomId
  | .endBattle roomId reason => Enhanced.endBattle roomId reason
  | .handleJudge0Failure roomId error => Enhanced.handleJudge0Failure roomId error

def Call.timer? : Call → Option Timer
  | .countdownElapsed roomId => some (.countdown roomId)
  | .battleTimeout roomId => some (.battle roomId)
  | _ => none

def accept (call : Call) (store : Store) : Option Store :=
  match call.timer? with
  | none => some store
  | some timer =>
    if timer ∈ store.timers then some { store with timers := store.timers.erase timer }
    else none

def server : Server signature Store Call Choice Empty where
  handle := handle
  accept := accept
  body _ call := call.program.run >>= fun _ => .done ()
  happen event _ := event.elim

abbrev ServerState := State signature Store Call
abbrev ServerAction := Action Call Choice Empty

end CodeClash.Enhanced
