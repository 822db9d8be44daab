import CodeClash.Async.Embedding
import CodeClash.Battle.Service
import CodeClash.Keys.Expiring
import CodeClash.Spell.Service

/-!
# Sockets and sessions

The socket handlers of `server/src/index.ts` that decide who a socket acts for, up to the point
where they call their service, and the clean-up of grace records. `AuthMiddleware.verifyToken` is a
parameter. What the source does without `await` is one command where other handlers could notice the
difference. A socket that is closed starts its `disconnect` handler once, at any later moment. Redis
commands succeed. A user id that is empty counts as absent.
-/

namespace CodeClash.Session

open Async Function
open Battle (UserId RoomId BattleState Grace)
open Spell (truthy)

abbrev SocketId := ℕ

/-- The payload of an accepted token. Tokens are issued for users of the database. -/
structure JWTPayload where
  userId : UserId
  username : String
  elo : Option ℤ
  userId_ne : userId ≠ ""

/-- What the server keeps on a socket, whether it is connected, and whether its `disconnect`
handler has been started. -/
structure SocketState where
  connected : Bool
  handled : Bool
  userId : Option UserId
  elo : Option ℤ
deriving DecidableEq, Repr

def SocketState.fresh : SocketState where
  connected := true
  handled := false
  userId := none
  elo := none

/-- The calls into the services that a handler makes for a user. -/
inductive Operation where
  | addToQueue (elo : ℤ)
  | removeFromQueue
  | handleSubmit (code : String) (languageId : ℕ) (roomId : RoomId)
  | handleForfeit (roomId : RoomId)
  | castSpell (roomId : RoomId) (spellType : String)
deriving DecidableEq, Repr

inductive Message where
  | conflict (text : String) (existingSocketId : SocketId)
  | displaced (text : String)
  | authenticated (userId : UserId) (username : String)
  | authError (text : String)
  | queueError (text : String)
  | queueJoined (text : String)
  | error (text : String)
  | reconnected (battleId : RoomId) (wasPlayer1 : Bool)
  | reconnectionFailed (reason : String)
deriving DecidableEq, Repr

/-- The expression `number || fallback`. -/
def numberOr (number : Option ℤ) (fallback : ℤ) : ℤ :=
  match number with
  | some number => Battle.orElse number fallback
  | none => fallback

inductive Cmd where
  | now
  | emit (socketId : SocketId) (message : Message)
  | identify (socketId : SocketId) (token : String)
  | identity (socketId : SocketId)
  | actingUser (socketId : SocketId) (claimed : Option UserId)
  | socketElo (socketId : SocketId)
  | register (userId : UserId) (socketId : SocketId)
  | displace (userId : UserId) (existingSocketId : SocketId)
  | close (socketId : SocketId)
  | unregister (socketId : SocketId)
  | restore (socketId : SocketId) (userId : UserId)
  | operate (socketId : SocketId) (userId : UserId) (operation : Operation)
  | getSession (userId : UserId)
  | setSession (userId : UserId) (socketId : SocketId)
  | delSession (userId : UserId)
  | getGrace (userId : UserId)
  | setGrace (userId : UserId) (grace : Grace)
  | delGrace (userId : UserId)
  | battleKeys
  | graceKeys
  | battle (cmd : Battle.Cmd)

abbrev Cmd.Reply : Cmd → Type
  | .now => ℤ
  | .identify _ _ => Option JWTPayload
  | .identity _ => Option UserId
  | .actingUser _ _ => Option UserId
  | .socketElo _ => Option ℤ
  | .unregister _ => Option UserId
  | .getSession _ => Option SocketId
  | .getGrace _ => Option Grace
  | .battleKeys => List RoomId
  | .graceKeys => List UserId
  | .battle cmd => cmd.Reply
  | _ => Unit

abbrev signature : Signature where
  Cmd := Cmd
  Reply := Cmd.Reply

abbrev Prog (α : Type) := Program signature α

abbrev request (cmd : Cmd) : Prog cmd.Reply := @Program.perform signature cmd

abbrev battleService {α : Type} (program : Battle.Prog α) : Prog α :=
  @Program.embed Battle.signature signature α .battle (fun _ reply => reply) program

/-- What the proofs look back at: accepted tokens and calls into the services. -/
inductive Event where
  | presented (socketId : SocketId) (token : String) (moment : ℤ)
  | operated (socketId : SocketId) (userId : UserId) (operation : Operation)
deriving DecidableEq, Repr

/-- The sockets, the registry, the keys in Redis and the battles, with the messages sent and a
log, newest first. -/
structure Store where
  sockets : SocketId → Option SocketState
  socketRegistry : UserId → Option SocketId
  sessions : Keys.Expiring UserId SocketId
  graces : Keys.Expiring UserId Grace
  battle : Battle.Store
  outbox : List (SocketId × Message)
  log : List Event

/-- What the environment decides at a step: the clock, the order in which keys are listed, and
what concerns the battles. -/
structure Choice where
  now : ℤ
  rooms : List RoomId
  users : List UserId
  battle : Battle.Choice

namespace Store

def userId (store : Store) (socketId : SocketId) : Option UserId :=
  (store.sockets socketId).bind SocketState.userId

def connected (store : Store) (socketId : SocketId) : Bool :=
  (store.sockets socketId).any SocketState.connected

def modify (store : Store) (socketId : SocketId) (change : SocketState → SocketState) : Store :=
  { store with
    sockets := update store.sockets socketId ((store.sockets socketId).map change) }

def close (store : Store) (socketId : SocketId) : Store :=
  store.modify socketId fun socket => { socket with connected := false }

def emit (store : Store) (socketId : SocketId) (message : Message) : Store :=
  { store with outbox := (socketId, message) :: store.outbox }

def identify (store : Store) (socketId : SocketId) (token : String) (now : ℤ)
    (payload : JWTPayload) : Store :=
  { store.modify socketId fun socket => { socket with
      userId := some payload.userId, elo := some (numberOr payload.elo 1000) } with
    log := .presented socketId token now :: store.log }

/-- The registered socket is told and closed if it is the one of the session. -/
def displace (store : Store) (userId : UserId) (existingSocketId : SocketId) : Store :=
  if store.socketRegistry userId = some existingSocketId then
    (store.emit existingSocketId
      (.displaced "You have been disconnected due to login from another tab.")).close
      existingSocketId
  else store

def register (store : Store) (userId : UserId) (socketId : SocketId) : Store :=
  { store with socketRegistry := update store.socketRegistry userId (some socketId) }

/-- The entry of the identity of the socket is deleted, whichever socket it names. -/
def unregister (store : Store) (socketId : SocketId) : Store :=
  match truthy (store.userId socketId) with
  | some userId =>
    { store with socketRegistry := update store.socketRegistry userId none }
  | none => store

/-- The identity is taken over from the record of a disconnected player. -/
def restore (store : Store) (socketId : SocketId) (userId : UserId) : Store :=
  (store.modify socketId fun socket => { socket with userId := some userId }).register userId
    socketId

end Store

def gracesAfter (cmd : Battle.Cmd) (graces : Keys.Expiring UserId Grace) :
    Keys.Expiring UserId Grace :=
  match cmd with
  | .delGrace userId => graces.del userId
  | _ => graces

/-- The reply to a command and the store after it. Sessions live for an hour, grace records
for 30 seconds. -/
def handle (verifyToken : ℤ → String → Option JWTPayload) (cmd : Cmd) (choice : Choice)
    (store : Store) : cmd.Reply × Store :=
  match cmd with
  | .now => (choice.now, store)
  | .emit socketId message => ((), store.emit socketId message)
  | .identify socketId token =>
    match verifyToken choice.now token with
    | some payload => (some payload, store.identify socketId token choice.now payload)
    | none => (none, store)
  | .identity socketId => (store.userId socketId, store)
  | .actingUser socketId claimed =>
    ((truthy (store.userId socketId)).or (truthy claimed), store)
  | .socketElo socketId => ((store.sockets socketId).bind SocketState.elo, store)
  | .register userId socketId => ((), store.register userId socketId)
  | .displace userId existingSocketId => ((), store.displace userId existingSocketId)
  | .close socketId => ((), store.close socketId)
  | .unregister socketId => (store.userId socketId, store.unregister socketId)
  | .restore socketId userId => ((), store.restore socketId userId)
  | .operate socketId userId operation =>
    ((), { store with log := .operated socketId userId operation :: store.log })
  | .getSession userId => (store.sessions.get choice.now userId, store)
  | .setSession userId socketId => ((), { store with
      sessions := store.sessions.setEx choice.now userId 3600000 socketId })
  | .delSession userId => ((), { store with sessions := store.sessions.del userId })
  | .getGrace userId => (store.graces.get choice.now userId, store)
  | .setGrace userId grace => ((), { store with
      graces := store.graces.setEx choice.now userId 30000 grace })
  | .delGrace userId => ((), { store with graces := store.graces.del userId })
  | .battleKeys =>
    (choice.rooms.filter fun roomId => (store.battle.battles roomId).isSome, store)
  | .graceKeys =>
    (choice.users.filter fun userId => (store.graces.get choice.now userId).isSome, store)
  | .battle cmd =>
    let answer := Battle.handle cmd choice.battle store.battle
    (answer.1, { store with battle := answer.2, graces := gracesAfter cmd store.graces })

section Handlers

variable (powTen : ℚ → ℚ)

/-- The session conflict of `authenticate`. -/
def displaceSession (socketId : SocketId) (userId : UserId) (existing : Option SocketId) :
    Prog Unit :=
  match existing with
  | none => return ()
  | some existingSocketId =>
    if existingSocketId = socketId then return ()
    else do
      request (.emit socketId (.conflict
        "You have another active session. The previous session will be disconnected."
        existingSocketId))
      request (.displace userId existingSocketId)
      request (.delSession userId)

def registerSession (socketId : SocketId) (payload : JWTPayload) : Prog Unit := do
  let existing ← request (.getSession payload.userId)
  displaceSession socketId payload.userId existing
  request (.register payload.userId socketId)
  request (.setSession payload.userId socketId)
  request (.emit socketId (.authenticated payload.userId payload.username))

def onAuthenticate (socketId : SocketId) (token : String) : Prog Unit := do
  match ← request (.identify socketId token) with
  | none => request (.emit socketId (.authError "Invalid token"))
  | some payload => registerSession socketId payload

/-- The part of `queue:join` that follows the check of the session. -/
def joinQueue (socketId : SocketId) (userId : UserId) (elo : Option ℤ) : Prog Unit := do
  request (.setSession userId socketId)
  let socketElo ← request (.socketElo socketId)
  request (.operate socketId userId (.addToQueue (numberOr socketElo (numberOr elo 1000))))
  request (.emit socketId (.queueJoined "Entered matchmaking queue"))

def onQueueJoin (socketId : SocketId) (claimed : Option UserId) (elo : Option ℤ) : Prog Unit := do
  match ← request (.actingUser socketId claimed) with
  | none => request (.emit socketId (.queueError "Authenticate first"))
  | some userId =>
    match ← request (.getSession userId) with
    | none => joinQueue socketId userId elo
    | some existingSocketId =>
      if existingSocketId = socketId then joinQueue socketId userId elo
      else do
        request (.emit socketId (.conflict
          "You have another active session. Please close other tabs first."
          existingSocketId))
        request (.close socketId)

def onOperation (socketId : SocketId) (operation : Operation) (refusal : Prog Unit) :
    Prog Unit := do
  match truthy (← request (.identity socketId)) with
  | none => refusal
  | some userId => request (.operate socketId userId operation)

def onQueueLeave (socketId : SocketId) : Prog Unit :=
  onOperation socketId .removeFromQueue (return ())

def onBattleSubmit (socketId : SocketId) (code : String) (languageId : ℕ) (roomId : RoomId) :
    Prog Unit :=
  onOperation socketId (.handleSubmit code languageId roomId)
    (request (.emit socketId (.error "Not authenticated")))

def onBattleForfeit (socketId : SocketId) (roomId : RoomId) : Prog Unit :=
  onOperation socketId (.handleForfeit roomId)
    (request (.emit socketId (.error "Not authenticated")))

def onSpellCast (socketId : SocketId) (roomId : RoomId) (spellType : String) : Prog Unit :=
  onOperation socketId (.castSpell roomId spellType)
    (request (.emit socketId (.error "Not authenticated")))

/-- Start the grace timer for the first active battle of the user. -/
def startGrace (userId : UserId) : List RoomId → Prog Unit
  | [] => return ()
  | roomId :: rooms => do
      match ← request (.battle (.getBattle roomId)) with
      | none => startGrace userId rooms
      | some battle =>
        if (battle.player1Id = userId ∨ battle.player2Id = userId) ∧
            battle.status = .active then do
          let now ← request .now
          request (.setGrace userId ⟨roomId, now, battle.player1Id = userId⟩)
        else startGrace userId rooms

def clearSession (socketId : SocketId) (userId : UserId) : Prog Unit := do
  let activeSocketId ← request (.getSession userId)
  if activeSocketId = some socketId then request (.delSession userId) else return ()

/-- What `disconnect` does for a user once the registry entry is deleted. -/
def retireUser (socketId : SocketId) (userId : UserId) : Prog Unit := do
  clearSession socketId userId
  let userBattles ← request .battleKeys
  startGrace userId userBattles
  request (.operate socketId userId .removeFromQueue)

def onDisconnect (socketId : SocketId) : Prog Unit := do
  match truthy (← request (.unregister socketId)) with
  | none => return ()
  | some userId => retireUser socketId userId

def onCheckReconnection (socketId : SocketId) (userId : UserId) : Prog Unit := do
  match ← request (.getGrace userId) with
  | none => request (.emit socketId (.reconnectionFailed "no_grace_period"))
  | some grace =>
    let now ← request .now
    if now - grace.disconnectedAt < 30000 then do
      request (.restore socketId userId)
      request (.delGrace userId)
      request (.emit socketId (.reconnected grace.battleId grace.wasPlayer1))
    else do
      battleService (Battle.handleGraceTimeout powTen userId grace.battleId)
      request (.emit socketId (.reconnectionFailed "grace_period_expired"))

def cleanupGraceTimers (now : ℤ) : List UserId → Prog Unit
  | [] => return ()
  | userId :: users => do
      match ← request (.getGrace userId) with
      | none => cleanupGraceTimers now users
      | some grace => do
          (if 30000 ≤ now - grace.disconnectedAt then
            battleService (Battle.handleGraceTimeout powTen userId grace.battleId)
          else return ())
          cleanupGraceTimers now users

def cleanupOrphanedGraceTimers : Prog Unit := do
  let graceKeys ← request .graceKeys
  let now ← request .now
  cleanupGraceTimers powTen now graceKeys

end Handlers

inductive Call where
  | authenticate (socketId : SocketId) (token : String)
  | queueJoin (socketId : SocketId) (claimed : Option UserId) (elo : Option ℤ)
  | queueLeave (socketId : SocketId)
  | battleSubmit (socketId : SocketId) (code : String) (languageId : ℕ) (roomId : RoomId)
  | battleForfeit (socketId : SocketId) (roomId : RoomId)
  | spellCast (socketId : SocketId) (roomId : RoomId) (spellType : String)
  | disconnect (socketId : SocketId)
  | checkReconnection (socketId : SocketId) (userId : UserId)
deriving DecidableEq

def Call.socketId : Call → SocketId
  | authenticate socketId _ | queueJoin socketId _ _ | queueLeave socketId
  | battleSubmit socketId _ _ _ | battleForfeit socketId _ | spellCast socketId _ _
  | disconnect socketId | checkReconnection socketId _ => socketId

def body (powTen : ℚ → ℚ) : Call → Prog Unit
  | .authenticate socketId token => onAuthenticate socketId token
  | .queueJoin socketId claimed elo => onQueueJoin socketId claimed elo
  | .queueLeave socketId => onQueueLeave socketId
  | .battleSubmit socketId code languageId roomId => onBattleSubmit socketId code languageId roomId
  | .battleForfeit socketId roomId => onBattleForfeit socketId roomId
  | .spellCast socketId roomId spellType => onSpellCast socketId roomId spellType
  | .disconnect socketId => onDisconnect socketId
  | .checkReconnection socketId userId => onCheckReconnection powTen socketId userId

/-- A closed socket starts its `disconnect` handler once. The other events come from sockets
that are connected. -/
def accept (call : Call) (store : Store) : Option Store :=
  match call, store.sockets call.socketId with
  | .disconnect socketId, some socket =>
    if socket.connected || socket.handled then none
    else some (store.modify socketId fun socket => { socket with handled := true })
  | _, some socket => if socket.connected then some store else none
  | _, none => none

inductive Environment where
  | connected (socketId : SocketId)
  | closed (socketId : SocketId)
  | battlesChanged (battle : Battle.Store)

def happen : Environment → Store → Option Store
  | .connected socketId, store =>
    match store.sockets socketId with
    | none => some { store with
        sockets := update store.sockets socketId (some .fresh) }
    | some _ => none
  | .closed socketId, store => some (store.close socketId)
  | .battlesChanged battle, store => some { store with battle }

def server (verifyToken : ℤ → String → Option JWTPayload) (powTen : ℚ → ℚ) :
    Server signature Store Call Choice Environment where
  handle := handle verifyToken
  accept := accept
  body _ := body powTen
  happen := happen

abbrev ServerState := State signature Store Call
abbrev ServerAction := Action Call Choice Environment

def freshServer (battle : Battle.Store) : ServerState where
  store :=
    { sockets := fun _ => none, socketRegistry := fun _ => none, sessions := fun _ => none
      graces := fun _ => none, battle := battle, outbox := [], log := [] }
  processes := fun _ => none

end CodeClash.Session
