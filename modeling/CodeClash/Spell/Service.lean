import CodeClash.Async.Protocol
import CodeClash.Battle.State
import CodeClash.Keys.Expiring

/-!
# The spell service

The functions of `server/src/services/spellService.ts` that the server calls, `getPuzzleTestCases`
of `server/src/services/battle.ts` and the handler of `spell:cast` in `server/src/index.ts`. A spell
name can be any string. The tables give `undefined` or an inherited function for a name they do not
have; written as JSON this is `null`, which counts as zero. Redis commands succeed, but for a write
with a time to live that is not a number. The division in the regeneration formula is exact.
-/

namespace CodeClash.Spell

open Async
open Battle (UserId RoomId ProblemId TestCase TestCases BattleState Failure)

structure ManaState where
  current : Option ℤ
  max : ℤ
  lastRegenAt : ℤ
deriving DecidableEq, Repr

structure SpellEffect where
  type : String
  casterId : UserId
  targetId : UserId
  roomId : RoomId
  expiresAt : Option ℤ
  hintIndex : Option ℕ
deriving DecidableEq, Repr

def SPELL_COSTS (spellType : String) : Option ℤ :=
  match spellType with
  | "hint" => some 30
  | "time_freeze" => some 50
  | "slow" => some 40
  | _ => none

def SPELL_COOLDOWNS (spellType : String) : Option ℤ :=
  match spellType with
  | "hint" => some 60000
  | "time_freeze" => some 90000
  | "slow" => some 45000
  | _ => none

def MANA_REGEN_RATE : ℤ := 10
def MANA_REGEN_INTERVAL : ℤ := 60000
def MANA_MAX : ℤ := 100

def manaSeconds : ℤ := 7200

def manaKey (roomId : RoomId) (userId : UserId) : String := "mana:" ++ roomId ++ ":" ++ userId

def cooldownKey (roomId : RoomId) (casterId : UserId) (spellType : String) : String :=
  "spell_cd:" ++ roomId ++ ":" ++ casterId ++ ":" ++ spellType

def freezeKey (roomId : RoomId) (targetId : UserId) : String :=
  "effect:freeze:" ++ roomId ++ ":" ++ targetId

def slowKey (roomId : RoomId) (targetId : UserId) : String :=
  "effect:slow:" ++ roomId ++ ":" ++ targetId

namespace ManaState

def full (now : ℤ) : ManaState where
  current := some MANA_MAX
  max := MANA_MAX
  lastRegenAt := now

def regenAmount (mana : ManaState) (now : ℤ) : ℤ :=
  let minutesPassed : ℚ := ((now - mana.lastRegenAt : ℤ) : ℚ) / MANA_REGEN_INTERVAL
  ⌊minutesPassed * MANA_REGEN_RATE⌋

def regenerate (mana : ManaState) (now : ℤ) : ManaState :=
  { mana with
    current := some (min mana.max (mana.current.getD 0 + mana.regenAmount now))
    lastRegenAt := now }

/-- The comparison `mana.current < cost`. -/
def lessThan (mana : ManaState) (cost : Option ℤ) : Bool :=
  match cost with
  | some cost => mana.current.getD 0 < cost
  | none => false

/-- The record written after `mana.current -= cost`. -/
def deduct (mana : ManaState) (cost : Option ℤ) : ManaState :=
  { mana with current := cost.map fun cost => mana.current.getD 0 - cost }

end ManaState

def numberText (number : Option ℤ) : String :=
  match number with
  | some number => toString number
  | none => "null"

inductive Recipient where
  | caller
  | user (userId : UserId)
  | room (roomId : RoomId)
deriving DecidableEq, Repr

inductive Message where
  | error (text : String)
  | spellError (text : String)
  | castSuccess (spellType : String) (mana : Option ℤ) (hintText : Option String)
  | hint (text : String)
  | incoming (spellType casterName : String) (duration : ℤ)
  | animation (spellType casterName : String)
deriving DecidableEq, Repr

inductive Cmd where
  | now
  | random (bound : ℕ)
  | emit (recipient : Recipient) (message : Message)
  | getBattle (roomId : RoomId)
  | findTestCases (problemId : ProblemId)
  | getMana (roomId : RoomId) (userId : UserId)
  | setMana (roomId : RoomId) (userId : UserId) (mana : ManaState)
  | getCooldown (roomId : RoomId) (casterId : UserId) (spellType : String)
  | setCooldown (roomId : RoomId) (casterId : UserId) (spellType : String) (seconds : Option ℤ)
  | setEffect (key : String) (seconds : ℤ) (effect : SpellEffect)
  | incrementSpellsCast (userId : UserId)
deriving DecidableEq

abbrev Cmd.Reply : Cmd → Type
  | .now => ℤ
  | .random _ => ℕ
  | .getBattle _ => Option BattleState
  | .findTestCases _ => Except Failure (Option TestCases)
  | .getMana _ _ => Option ManaState
  | .getCooldown _ _ _ => Bool
  | .setCooldown _ _ _ _ => Except Failure Unit
  | .incrementSpellsCast _ => Except Failure Unit
  | _ => Unit

abbrev signature : Signature where
  Cmd := Cmd
  Reply := Cmd.Reply

abbrev Prog (α : Type) := Program signature α

abbrev request (cmd : Cmd) : Prog cmd.Reply := @Program.perform signature cmd

/-- The keys of the service in Redis, what else it reads, and the messages sent, newest
first. -/
structure Store where
  mana : Keys.Expiring String ManaState
  cooldowns : Keys.Expiring String Unit
  effects : Keys.Expiring String SpellEffect
  battles : RoomId → Option BattleState
  testCases : ProblemId → Option TestCases
  registered : UserId → Bool
  outbox : List (Recipient × Message)

def emptyStore : Store where
  mana _ := none
  cooldowns _ := none
  effects _ := none
  battles _ := none
  testCases _ := none
  registered _ := false
  outbox := []

structure Choice where
  now : ℤ
  random : ℕ
  fails : Bool

namespace Store

def setMana (store : Store) (now : ℤ) (roomId : RoomId) (userId : UserId) (mana : ManaState) :
    Store :=
  { store with mana := store.mana.setEx now (manaKey roomId userId) (manaSeconds * 1000) mana }

/-- `SETEX` with a time to live that is not a number is rejected. -/
def setCooldown (store : Store) (now : ℤ) (roomId : RoomId) (casterId : UserId)
    (spellType : String) (seconds : Option ℤ) : Except Failure Unit × Store :=
  match seconds with
  | some seconds => (.ok (), { store with
      cooldowns := store.cooldowns.setEx now (cooldownKey roomId casterId spellType)
        (seconds * 1000) () })
  | none => (.error .rejected, store)

/-- A message to a user without a registered socket is not sent. -/
def emit (store : Store) (recipient : Recipient) (message : Message) : Store :=
  match recipient with
  | .user userId =>
    if store.registered userId then
      { store with outbox := (recipient, message) :: store.outbox }
    else store
  | _ => { store with outbox := (recipient, message) :: store.outbox }

end Store

def answer {α : Type} (fails : Bool) (value : α) : Except Failure α :=
  if fails then .error .rejected else .ok value

def handle (cmd : Cmd) (choice : Choice) (store : Store) : cmd.Reply × Store :=
  match cmd with
  | .now => (choice.now, store)
  | .random bound => (choice.random % bound, store)
  | .emit recipient message => ((), store.emit recipient message)
  | .getBattle roomId => (store.battles roomId, store)
  | .findTestCases problemId => (answer choice.fails (store.testCases problemId), store)
  | .getMana roomId userId => (store.mana.get choice.now (manaKey roomId userId), store)
  | .setMana roomId userId mana => ((), store.setMana choice.now roomId userId mana)
  | .getCooldown roomId casterId spellType =>
    ((store.cooldowns.get choice.now (cooldownKey roomId casterId spellType)).isSome, store)
  | .setCooldown roomId casterId spellType seconds =>
    store.setCooldown choice.now roomId casterId spellType seconds
  | .setEffect key seconds effect => ((), { store with
      effects := store.effects.setEx choice.now key (seconds * 1000) effect })
  | .incrementSpellsCast _ => (answer choice.fails (), store)

def getMana (roomId : RoomId) (userId : UserId) : Prog ManaState := do
  match ← request (.getMana roomId userId) with
  | none =>
    let now ← request .now
    return .full now
  | some mana =>
    let now ← request .now
    if 0 < mana.regenAmount now then
      request (.setMana roomId userId (mana.regenerate now))
      return mana.regenerate now
    else
      return mana

inductive CastResult where
  | failure (error : String)
  | success (effect : SpellEffect) (hintText : Option String)
deriving DecidableEq, Repr

def hintText (testCase : String × String) : String :=
  "Hint: Input \"" ++ testCase.1 ++ "\" → Output \"" ++ testCase.2 ++ "\""

/-- The last part of `castSpell`: what the spell does once it is paid for. -/
def applySpell (roomId : RoomId) (casterId targetId : UserId) (spellType : String)
    (testCases : List (String × String)) : Prog CastResult := do
  let effect : SpellEffect := ⟨spellType, casterId, targetId, roomId, none, none⟩
  if spellType = "hint" ∧ testCases ≠ [] then
    let idx ← request (.random testCases.length)
    return .success { effect with hintIndex := some idx } (testCases[idx]?.map hintText)
  else if spellType = "time_freeze" then
    let now ← request .now
    let effect := { effect with expiresAt := some (now + 15000) }
    request (.setEffect (freezeKey roomId targetId) 16 effect)
    return .success effect none
  else if spellType = "slow" then
    let now ← request .now
    let effect := { effect with expiresAt := some (now + 10000) }
    request (.setEffect (slowKey roomId targetId) 11 effect)
    return .success effect none
  else
    return .success effect none

def cooldownSec (spellType : String) : Option ℤ :=
  (SPELL_COOLDOWNS spellType).map fun cooldown => ⌈(cooldown : ℚ) / 1000⌉

/-- Cast a spell. The error is that of the write that Redis rejects. -/
def castSpell (roomId : RoomId) (casterId targetId : UserId) (spellType : String)
    (testCases : List (String × String)) : Prog (Except Failure CastResult) := do
  let cost := SPELL_COSTS spellType
  let mana ← getMana roomId casterId
  if mana.lessThan cost then
    return .ok (.failure ("Not enough mana (need " ++ numberText cost ++ ", have " ++
      numberText mana.current ++ ")"))
  else if ← request (.getCooldown roomId casterId spellType) then
    return .ok (.failure (spellType ++ " is on cooldown"))
  else
    request (.setMana roomId casterId (mana.deduct cost))
    match ← request (.setCooldown roomId casterId spellType (cooldownSec spellType)) with
    | .error failure => return .error failure
    | .ok _ =>
      let result ← applySpell roomId casterId targetId spellType testCases
      return .ok result

/-- The test cases of a column. Mapping over a string throws, which is caught. -/
def puzzleTestCases (column : Option TestCases) : List (String × String) :=
  match column with
  | some (.array cases) => cases.map fun testCase => (testCase.input, testCase.expectedOutput)
  | some (.text _) => []
  | none => []

def getPuzzleTestCases (roomId : RoomId) : Prog (List (String × String)) := do
  match ← request (.getBattle roomId) with
  | none => return []
  | some state =>
    match ← request (.findTestCases state.problemId) with
    | .ok column => return puzzleTestCases column
    | .error _ => return []

structure CastRequest where
  userId : Option UserId
  username : String
  roomId : RoomId
  spellType : String
deriving DecidableEq, Repr

def truthy (text : Option String) : Option String := text.filter fun text => text ≠ ""

def duration (spellType : String) : ℤ :=
  if spellType = "time_freeze" then 15000 else if spellType = "slow" then 10000 else 0

def announceHint (spellType : String) (hintText : Option String) : Prog Unit :=
  match truthy hintText with
  | some text => if spellType = "hint" then request (.emit .caller (.hint text)) else return ()
  | none => return ()

def announceCast (cast : CastRequest) (casterId targetId : UserId) (hintText : Option String) :
    Prog Unit := do
  let mana ← getMana cast.roomId casterId
  request (.emit .caller (.castSuccess cast.spellType mana.current hintText))
  announceHint cast.spellType hintText
  request (.emit (.user targetId)
    (.incoming cast.spellType cast.username (duration cast.spellType)))
  request (.emit (.room cast.roomId) (.animation cast.spellType cast.username))
  match ← request (.incrementSpellsCast casterId) with
  | .ok _ => return ()
  | .error _ => request (.emit .caller (.spellError "Spell failed"))

/-- The part of the handler that follows `castSpell`. -/
def concludeCast (cast : CastRequest) (casterId targetId : UserId)
    (result : Except Failure CastResult) : Prog Unit :=
  match result with
  | .error _ => request (.emit .caller (.spellError "Spell failed"))
  | .ok (.failure error) => request (.emit .caller (.spellError error))
  | .ok (.success _ hintText) => announceCast cast casterId targetId hintText

def opponentOf (battle : BattleState) (casterId : UserId) : UserId :=
  if battle.player1Id = casterId then battle.player2Id else battle.player1Id

/-- The handler of `spell:cast`. -/
def onSpellCast (cast : CastRequest) : Prog Unit := do
  match truthy cast.userId with
  | none => request (.emit .caller (.error "Not authenticated"))
  | some casterId =>
    match ← request (.getBattle cast.roomId) with
    | none => request (.emit .caller (.spellError "Battle not found"))
    | some battle =>
      let targetId := opponentOf battle casterId
      let testCases ← getPuzzleTestCases cast.roomId
      let result ← castSpell cast.roomId casterId targetId cast.spellType testCases
      concludeCast cast casterId targetId result

end CodeClash.Spell
