import CodeClash.Api.Battle
import CodeClash.Async.Embedding
import CodeClash.Async.Throwing

/-!
# The events of an API battle

The handlers of `apps/api/src/services/battleService.ts` through which users end battles: forfeits,
disconnections with their timers, reconnections, spells and the timer of a battle. Calls to the
database may fail, and the hash of a room may expire at any time. What `endBattle` does to ranks and
xp is recorded by room. The start of a battle, submissions, and the records of damage and spells are
left out, except that creating such a record may fail.
-/

namespace CodeClash.Api.Events

open Async Function Throwing
open Judge (Side)

inductive SpellType where
  | hint
  | timeFreeze
  | slow
  | heal
  | damage
  | shield
deriving DecidableEq, Repr

inductive Effect where
  | nothing
  | heal (newHp : ℤ)
  | damage (targetNewHp : ℤ)
  | timeBonus
  | shield
deriving DecidableEq, Repr

/-- The fields of the hash of a room besides the hit points. A flag that is not set is not
`'true'`. -/
structure Fields where
  status : Option MatchStatus
  player1Disconnected : Bool
  player2Disconnected : Bool
  shields : List UserId
deriving DecidableEq, Repr

def Fields.unset : Fields := ⟨none, false, false, []⟩

def Fields.disconnected (fields : Fields) : Side → Bool
  | .player1 => fields.player1Disconnected
  | .player2 => fields.player2Disconnected

def Fields.setDisconnected (fields : Fields) (value : Bool) : Side → Fields
  | .player1 => { fields with player1Disconnected := value }
  | .player2 => { fields with player2Disconnected := value }

def setHp (hash : Hash) (hp : ℤ) : Side → Hash
  | .player1 => { hash with player1Hp := some hp }
  | .player2 => { hash with player2Hp := some hp }

structure Grace where
  roomId : RoomId
  side : Side
  userId : UserId
  dueAt : ℤ
deriving DecidableEq, Repr

inductive Notice where
  | opponentDisconnected
  | reconnecting (playerId : UserId)
  | stateUpdate (fields : Fields)
  | spellUsed (caster : UserId) (spellType : SpellType) (effect : Effect)
  | error (message : String)
deriving DecidableEq, Repr

inductive Cmd where
  | battle (roomId : RoomId) (cmd : Api.Cmd)
  | hGetAll (roomId : RoomId)
  | findActiveBattles (userId : UserId)
  | setHp (roomId : RoomId) (side : Side) (hp : ℤ)
  | setDisconnected (roomId : RoomId) (side : Side) (value : Bool)
  | setShield (roomId : RoomId) (userId : UserId)
  | findSpell (userId : UserId) (spellType : SpellType)
  | updateSpell (userId : UserId) (spellType : SpellType) (usesRemaining : ℤ)
  | createBattleDamage (roomId : RoomId) (sourceId targetId : UserId)
  | createBattleSpell (roomId : RoomId) (casterId : UserId) (targetId : Option UserId)
      (spellType : SpellType) (effect : Effect)
  | startGrace (roomId : RoomId) (side : Side) (userId : UserId)
  | join (userId : UserId) (roomId : RoomId)
  | emit (roomId : RoomId) (notice : Notice)
  | send (userId : UserId) (notice : Notice)

abbrev Cmd.Reply : Cmd → Type
  | .battle _ cmd => cmd.Reply
  | .hGetAll _ => Option Fields
  | .findActiveBattles _ => Except Failure (List (RoomId × Match))
  | .findSpell _ _ => Except Failure (Option ℤ)
  | .updateSpell _ _ _ => Except Failure Unit
  | .createBattleDamage _ _ _ => Except Failure Unit
  | .createBattleSpell _ _ _ _ _ => Except Failure Unit
  | _ => Unit

abbrev signature : Signature where
  Cmd := Cmd
  Reply := Cmd.Reply

abbrev Prog (α : Type) := Throwing signature Failure α

abbrev request (cmd : Cmd) : Program signature cmd.Reply := @Program.perform signature cmd

def perform (cmd : Cmd) : Prog cmd.Reply := Throwing.ask (request cmd)

def within {α : Type} (roomId : RoomId) (program : Api.Prog α) : Program signature α :=
  program.embed (Cmd.battle roomId) fun _ reply => reply

def ofBattle {α : Type} (roomId : RoomId) (program : Api.Prog α) : Prog α :=
  Throwing.ask (within roomId program)

def getBattleState (roomId : RoomId) : Prog (Option Fields) := perform (.hGetAll roomId)

def findBattle (roomId : RoomId) : Prog (Option Match) := do
  let found ← attempt id (request (.battle roomId (.findMatch roomId)))
  return found.map MatchDetails.battle

def findActiveBattles (userId : UserId) : Prog (List (RoomId × Match)) :=
  attempt id (request (.findActiveBattles userId))

/-- The side of a user, where everyone but the first player is taken for the second. -/
def sideOf (battle : Match) (userId : UserId) : Side :=
  if battle.player1Id = userId then .player1 else .player2

section Ends

variable (powTen : ℚ → ℚ)

def endBattle (roomId : RoomId) (loserId : UserId) (reason : EndReason) : Prog Unit :=
  ofBattle roomId (Api.endBattle powTen roomId loserId reason)

def handleForfeit (userId : UserId) (roomId : RoomId) : Prog Unit :=
  tryCatch (endBattle powTen roomId userId .forfeit) fun _ =>
    perform (.send userId (.error "Failed to forfeit"))

def graceElapsed (roomId : RoomId) (side : Side) (userId : UserId) : Prog Unit := do
  let battleState ← getBattleState roomId
  match battleState with
  | none => return ()
  | some fields =>
    if fields.disconnected side then endBattle powTen roomId userId .disconnection
    else return ()

end Ends

/-- The loop of `handleDisconnection` over the battles of the user. -/
def leaveBattles (userId : UserId) : List (RoomId × Match) → Prog Unit
  | [] => return ()
  | (roomId, battle) :: battles => do
      perform (.setDisconnected roomId (sideOf battle userId) true)
      perform (.emit roomId .opponentDisconnected)
      perform (.startGrace roomId (sideOf battle userId) userId)
      leaveBattles userId battles

def handleDisconnection (userId : UserId) : Prog Unit := do
  let activeBattles ← findActiveBattles userId
  leaveBattles userId activeBattles

/-- Errors are caught. -/
def handleReconnection (roomId : RoomId) (userId : UserId) : Prog Unit :=
  let reconnects : Prog Unit := do
    let found ← findBattle roomId
    match found with
    | none => return ()
    | some battle =>
      perform (.setDisconnected roomId (sideOf battle userId) false)
      perform (.emit roomId (.reconnecting userId))
      let battleState ← getBattleState roomId
      match battleState with
      | none => return ()
      | some fields => perform (.send userId (.stateUpdate fields))
  tryCatch reconnects fun _ => return ()

def handleBattleConnection (userId : UserId) : Prog Unit := do
  let activeBattles ← findActiveBattles userId
  match activeBattles with
  | [] => return ()
  | (roomId, _) :: _ =>
    perform (.join userId roomId)
    let battleState ← getBattleState roomId
    match battleState with
    | none => return ()
    | some fields =>
      if fields.player1Disconnected || fields.player2Disconnected then
        handleReconnection roomId userId
      else return ()

section Spells

variable (powTen : ℚ → ℚ)

/-- The side that `match.player1Id === userId` decides, also if there is no match. -/
def lookUpSide (roomId : RoomId) (userId : UserId) : Prog Side := do
  let found ← findBattle roomId
  return if found.map Match.player1Id = some userId then .player1 else .player2

def readHp (roomId : RoomId) (side : Side) : Prog ℤ := do
  let hp ← perform (.battle roomId (.hGetHp roomId side))
  return parseHp hp

def castHeal (roomId : RoomId) (casterId : UserId) : Prog Effect := do
  let side ← lookUpSide roomId casterId
  let currentHp ← readHp roomId side
  let newHp := min 100 (currentHp + 20)
  perform (.setHp roomId side newHp)
  return .heal newHp

def castDamage (roomId : RoomId) (casterId targetId : UserId) : Prog Effect := do
  let side ← lookUpSide roomId targetId
  let targetCurrentHp ← readHp roomId side
  let targetNewHp := max 0 (targetCurrentHp - 15)
  perform (.setHp roomId side targetNewHp)
  attempt id (request (.createBattleDamage roomId casterId targetId))
  (if targetNewHp ≤ 0 then endBattle powTen roomId targetId .hpDepleted else return ())
  return .damage targetNewHp

def applySpellEffect (roomId : RoomId) (spellType : SpellType) (casterId targetId : UserId) :
    Prog Effect :=
  match spellType with
  | .heal => castHeal roomId casterId
  | .damage => castDamage powTen roomId casterId targetId
  | .timeFreeze => return .timeBonus
  | .shield => do
      perform (.setShield roomId casterId)
      return .shield
  | .hint => return .nothing
  | .slow => return .nothing

/-- The part of `handleSpellCast` after the checks. -/
def castSpell (userId : UserId) (spellType : SpellType) (roomId : RoomId) (usesRemaining : ℤ)
    (battle : Match) : Prog Unit := do
  let targetId := if battle.player1Id = userId then battle.player2Id else battle.player1Id
  let effect ← applySpellEffect powTen roomId spellType userId targetId
  attempt id (request (.createBattleSpell roomId userId
    (if spellType = .heal then none else some targetId) spellType effect))
  attempt id (request (.updateSpell userId spellType (usesRemaining - 1)))
  perform (.emit roomId (.spellUsed userId spellType effect))

/-- Errors are caught. -/
def handleSpellCast (userId : UserId) (spellType : SpellType) (roomId : RoomId) : Prog Unit :=
  let refuse (message : String) : Prog Unit := perform (.send userId (.error message))
  let casts : Prog Unit := do
    let battleState ← getBattleState roomId
    if battleState.bind Fields.status ≠ some .active then refuse "Battle is not active"
    else
      let spell ← attempt id (request (.findSpell userId spellType))
      match spell.filter fun usesRemaining => 0 < usesRemaining with
      | none => refuse "No uses remaining for this spell"
      | some usesRemaining =>
        let found ← findBattle roomId
        match found with
        | none => refuse "Battle not found"
        | some battle => castSpell powTen userId spellType roomId usesRemaining battle
  tryCatch casts fun _ => refuse "Failed to cast spell"

end Spells

inductive Call where
  | handleForfeit (userId : UserId) (roomId : RoomId)
  | handleDisconnection (userId : UserId)
  | graceElapsed (timer : Grace)
  | handleBattleConnection (userId : UserId)
  | handleSpellCast (userId : UserId) (spellType : SpellType) (roomId : RoomId)
  | timerTick (roomId : RoomId) (timeBefore : ℤ)
deriving DecidableEq, Repr

def Call.program (powTen : ℚ → ℚ) : Call → Prog Unit
  | .handleForfeit userId roomId => Events.handleForfeit powTen userId roomId
  | .handleDisconnection userId => Events.handleDisconnection userId
  | .graceElapsed timer => Events.graceElapsed powTen timer.roomId timer.side timer.userId
  | .handleBattleConnection userId => Events.handleBattleConnection userId
  | .handleSpellCast userId spellType roomId =>
    Events.handleSpellCast powTen userId spellType roomId
  | .timerTick roomId timeBefore => ofBattle roomId (Api.timerTick powTen roomId timeBefore)

structure Change where
  userId : UserId
  rankIncrement : ℤ
  xpIncrement : ℤ
deriving DecidableEq, Repr

/-- The battles, the other fields of the hashes, the matches as in their table, the spells, the
timers with the seconds that remain, and the changes of each room, oldest first. -/
structure Store where
  base : Api.Store
  fields : RoomId → Fields
  rooms : List RoomId
  spells : UserId → SpellType → Option ℤ
  remaining : RoomId → ℤ
  graceTimers : List Grace
  clock : ℤ
  changes : RoomId → List Change

structure Choice where
  fails : Bool

/-- The battles that `findMany` returns for a user. -/
def Store.activeBattles (store : Store) (userId : UserId) : List (RoomId × Match) :=
  store.rooms.filterMap fun roomId =>
    ((store.base.battles roomId).filter fun battle =>
      (battle.player1Id = userId ∨ battle.player2Id = userId) ∧
        battle.status ∈ [.waiting, .countdown, .active]).map fun battle => (roomId, battle)

/-- The store after the hash of a room was written, which may create it. -/
def Store.writeHash (store : Store) (roomId : RoomId) (hash : Hash → Hash)
    (fields : Fields → Fields) : Store :=
  { store with
    base := { store.base with
      hashes := update store.base.hashes roomId
        (some (hash ((store.base.hashes roomId).getD ⟨none, none⟩))) }
    fields := update store.fields roomId (fields (store.fields roomId)) }

def Store.dropHash (store : Store) (roomId : RoomId) : Store :=
  { store with
    base := { store.base with hashes := update store.base.hashes roomId none }
    fields := update store.fields roomId Fields.unset }

/-- A command of the battle service, with what it does outside its own store. -/
def handleBattle (roomId : RoomId) (cmd : Api.Cmd) (choice : Choice) (store : Store) :
    cmd.Reply × Store :=
  let answer := Api.handle cmd ⟨store.clock, choice.fails⟩ store.base
  match cmd, answer with
  | .delHash deleted, answer => (answer.1, store.dropHash deleted)
  | .updateUser userId rankIncrement xpIncrement, answer =>
    (answer.1, { store with
      base := answer.2
      changes := if choice.fails then store.changes else update store.changes roomId
        (store.changes roomId ++ [⟨userId, rankIncrement, xpIncrement⟩]) })
  | _, answer => (answer.1, { store with base := answer.2 })

def handle (cmd : Cmd) (choice : Choice) (store : Store) : cmd.Reply × Store :=
  match cmd with
  | .battle roomId cmd => handleBattle roomId cmd choice store
  | .hGetAll roomId => ((store.base.hashes roomId).map fun _ => store.fields roomId, store)
  | .findActiveBattles userId => (answer choice.fails (store.activeBattles userId), store)
  | .setHp roomId side hp => ((), store.writeHash roomId (fun hash => setHp hash hp side) id)
  | .setDisconnected roomId side value =>
    ((), store.writeHash roomId id fun fields => fields.setDisconnected value side)
  | .setShield roomId userId => ((), store.writeHash roomId id fun fields =>
    { fields with shields := userId :: fields.shields })
  | .findSpell userId spellType => (answer choice.fails (store.spells userId spellType), store)
  | .updateSpell userId spellType usesRemaining =>
    (answer choice.fails (), if choice.fails then store
      else { store with
        spells := update store.spells userId
          (update (store.spells userId) spellType (some usesRemaining)) })
  | .createBattleDamage _ _ _ => (answer choice.fails (), store)
  | .createBattleSpell _ _ _ _ _ => (answer choice.fails (), store)
  | .startGrace roomId side userId => ((), { store with
      graceTimers := store.graceTimers ++ [⟨roomId, side, userId, store.clock + 30000⟩] })
  | .join _ _ => ((), store)
  | .emit _ _ => ((), store)
  | .send _ _ => ((), store)

/-- The callback of a timer runs when it is due, and that of a battle with the seconds that
remain. -/
def accept (call : Call) (store : Store) : Option Store :=
  match call with
  | .graceElapsed timer =>
    if timer ∈ store.graceTimers ∧ timer.dueAt ≤ store.clock then
      some { store with graceTimers := store.graceTimers.erase timer }
    else none
  | .timerTick roomId timeBefore =>
    if store.base.timers roomId ∧ timeBefore = store.remaining roomId then
      some { store with remaining := update store.remaining roomId (timeBefore - 1) }
    else none
  | _ => some store

inductive Event where
  | passes (milliseconds : ℕ)
  | expires (roomId : RoomId)

def happen (event : Event) (store : Store) : Option Store :=
  match event with
  | .passes milliseconds => some { store with clock := store.clock + milliseconds }
  | .expires roomId => some (store.dropHash roomId)

def server (powTen : ℚ → ℚ) : Server signature Store Call Choice Event where
  handle := handle
  accept := accept
  body _ call := (call.program powTen).run >>= fun _ => .done ()
  happen := happen

abbrev ServerState := State signature Store Call
abbrev ServerAction := Action Call Choice Event

end CodeClash.Api.Events
