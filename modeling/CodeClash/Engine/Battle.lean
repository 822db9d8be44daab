import Mathlib.Algebra.Order.Ring.Unbundled.Rat
import Mathlib.Data.Rat.Floor

/-!
# The battle engine

`BattleService` of `packages/backend` keeps a battle in memory and changes it in place. A call is
modelled with the battle that it leaves behind, also where it throws. A date that is computed drops
the fraction of a millisecond, and has no time at all more than 8.64 · 10¹⁵ ms from the epoch;
comparisons with such a date are false.
-/

namespace CodeClash.Engine

abbrev UserId := String

abbrev SpellId := String

inductive EffectType where
  | damage | shield | freeze | hint | doubleDamage | debug | wipe
deriving DecidableEq

inductive Target where
  | self | opponent
deriving DecidableEq

inductive Status where
  | waiting | countdown | active | judging | ended
deriving DecidableEq

structure SpellEffect where
  type : EffectType
  value : ℚ
  duration : Option ℚ
  target : Option Target
deriving DecidableEq

structure Spell where
  id : SpellId
  cooldown : ℚ
  lastUsed : Option ℤ
  effect : SpellEffect
deriving DecidableEq

structure ActiveSpell where
  id : String
  casterId : UserId
  targetId : UserId
  spell : Spell
  startTime : ℤ
  endTime : Option ℤ
deriving DecidableEq

structure BattlePlayer where
  userId : UserId
  hp : ℚ
  maxHp : ℚ
  currentCode : String
  currentLanguage : String
  isReady : Bool
  spells : List Spell
deriving DecidableEq

structure BattleState where
  id : String
  player1 : BattlePlayer
  player2 : BattlePlayer
  currentPuzzle : String
  status : Status
  startTime : Option ℤ
  endTime : Option ℤ
  timeLimit : ℚ
  spells : List ActiveSpell
deriving DecidableEq

inductive Side where
  | first | second
deriving DecidableEq

def Side.other : Side → Side
  | .first => .second
  | .second => .first

/-- `new Date(time)` for a computed time. -/
def newDate (time : ℚ) : Option ℤ :=
  if |time| ≤ 8640000000000000 then some (if 0 ≤ time then ⌊time⌋ else ⌈time⌉) else none

def Ahead (now : ℤ) (date : Option ℤ) : Bool := date.any (now < ·)

namespace BattleState

def player (battle : BattleState) : Side → BattlePlayer
  | .first => battle.player1
  | .second => battle.player2

def modify (battle : BattleState) (change : BattlePlayer → BattlePlayer) : Side → BattleState
  | .first => { battle with player1 := change battle.player1 }
  | .second => { battle with player2 := change battle.player2 }

/-- `userId === battle.player1.userId ? battle.player1 : battle.player2` -/
def sideOf (battle : BattleState) (userId : UserId) : Side :=
  if userId = battle.player1.userId then .first else .second

end BattleState

def STARTING_HP : ℚ := 500

def BattlePlayer.entered (player : BattlePlayer) : BattlePlayer :=
  { player with
    hp := STARTING_HP, maxHp := STARTING_HP, currentCode := "", currentLanguage := "python"
    isReady := false }

/-- The id that `generateBattleId` makes is given. -/
def createBattle (id : String) (player1 player2 : BattlePlayer) (puzzleId : String)
    (timeLimit : ℚ) : BattleState :=
  { id := id, player1 := player1.entered, player2 := player2.entered, currentPuzzle := puzzleId
    status := .waiting, startTime := none, endTime := none, timeLimit := timeLimit, spells := [] }

def activeShield (now : ℤ) (targetId : UserId) (spell : ActiveSpell) : Bool :=
  spell.targetId = targetId ∧ spell.spell.effect.type = .shield ∧ Ahead now spell.endTime

def actualDamage (now : ℤ) (battle : BattleState) (targetId : UserId) (damage : ℚ) : ℚ :=
  match battle.spells.find? (activeShield now targetId) with
  | some shield => max 0 (damage - shield.spell.effect.value)
  | none => damage

def BattlePlayer.hit (damage : ℚ) (player : BattlePlayer) : BattlePlayer :=
  { player with hp := max 0 (player.hp - damage) }

def applyDamage (now : ℤ) (battle : BattleState) (targetId : UserId) (damage : ℚ) : BattleState :=
  battle.modify (·.hit (actualDamage now battle targetId damage)) (battle.sideOf targetId)

def isSpellOnCooldown (now : ℤ) (spell : Spell) : Bool :=
  spell.lastUsed.any fun (lastUsed : ℤ) => Ahead now (newDate (lastUsed + spell.cooldown * 1000))

def applySpellEffect (now : ℤ) (battle : BattleState) (activeSpell : ActiveSpell) : BattleState :=
  match activeSpell.spell.effect.type with
  | .damage => applyDamage now battle activeSpell.targetId activeSpell.spell.effect.value
  | _ => battle

/-- The first spell with the id is the one that `find` returns, and its `lastUsed` is set. -/
def useSpell (now : ℤ) (spellId : SpellId) : List Spell → List Spell
  | [] => []
  | spell :: spells =>
    if spell.id = spellId then { spell with lastUsed := some now } :: spells
    else spell :: useSpell now spellId spells

def BattlePlayer.using (now : ℤ) (spellId : SpellId) (player : BattlePlayer) : BattlePlayer :=
  { player with spells := useSpell now spellId player.spells }

def spellTarget (battle : BattleState) (casterId : UserId) (spell : Spell) : UserId :=
  if spell.effect.target = some .self then casterId
  else (battle.player (battle.sideOf casterId).other).userId

/-- The id that `generateSpellId` makes is given. -/
def activeSpell (now : ℤ) (id : String) (battle : BattleState) (casterId : UserId)
    (spell : Spell) : ActiveSpell :=
  { id := id, casterId := casterId, targetId := spellTarget battle casterId spell
    spell := { spell with lastUsed := some now }, startTime := now
    endTime := newDate (now + spell.effect.duration.getD 0 * 1000) }

def readySpell (now : ℤ) (caster : BattlePlayer) (spellId : SpellId) : Except String Spell :=
  match caster.spells.find? (·.id = spellId) with
  | none => .error "Spell not found"
  | some spell => if isSpellOnCooldown now spell then .error "Spell is on cooldown" else .ok spell

def castSpell (now : ℤ) (id : String) (battle : BattleState) (casterId : UserId)
    (spellId : SpellId) : Except String Unit × BattleState :=
  let caster := battle.sideOf casterId
  match readySpell now (battle.player caster) spellId with
  | .error message => (.error message, battle)
  | .ok spell =>
    let cast := activeSpell now id battle casterId spell
    let affected := applySpellEffect now (battle.modify (·.using now spellId) caster) cast
    (.ok (), { affected with spells := affected.spells ++ [cast] })

def getWinner (battle : BattleState) : Option UserId :=
  if battle.player1.hp ≤ 0 then some battle.player2.userId
  else if battle.player2.hp ≤ 0 then some battle.player1.userId
  else none

def updateBattleStatus (now : ℤ) (battle : BattleState) (status : Status) : BattleState :=
  match status with
  | .active => { battle with status := status, startTime := some now }
  | .ended => { battle with status := status, endTime := some now }
  | _ => { battle with status := status }

def cleanupExpiredSpells (now : ℤ) (battle : BattleState) : BattleState :=
  { battle with spells := battle.spells.filter fun spell => Ahead now spell.endTime }

inductive Operation where
  | applyDamage (targetId : UserId) (damage : ℚ)
  | castSpell (id : String) (casterId : UserId) (spellId : SpellId)
  | cleanupExpiredSpells
  | updateBattleStatus (status : Status)
deriving DecidableEq

abbrev Timed := ℤ × Operation

def perform (battle : BattleState) : Timed → Except String Unit × BattleState
  | (now, .applyDamage targetId damage) => (.ok (), applyDamage now battle targetId damage)
  | (now, .castSpell id casterId spellId) => castSpell now id battle casterId spellId
  | (now, .cleanupExpiredSpells) => (.ok (), cleanupExpiredSpells now battle)
  | (now, .updateBattleStatus status) => (.ok (), updateBattleStatus now battle status)

def after (battle : BattleState) (calls : List Timed) : BattleState :=
  calls.foldl (fun battle call => (perform battle call).2) battle

theorem after_append (battle : BattleState) (earlier later : List Timed) :
    after battle (earlier ++ later) = after (after battle earlier) later :=
  List.foldl_append

def Chronological (calls : List Timed) : Prop := calls.Pairwise fun call later => call.1 ≤ later.1

end CodeClash.Engine
