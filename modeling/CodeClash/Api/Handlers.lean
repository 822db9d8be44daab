import CodeClash.Api.Events

/-!
# Protocols of the handlers

The handlers are walked through once here, for any protocol. `Covers` lists what a protocol has to
say about the few commands that matter to one. All other commands are plain. Then every handler
keeps to the protocol and comes back to the phase it began in.
-/

namespace CodeClash.Api.Events

open Async Throwing Program
open Judge (Side)

/-- Commands that neither end a battle, start a timer nor write hit points. -/
def Cmd.Plain : Cmd → Prop
  | .battle _ (.completeMatch _ _) => False
  | .battle _ (.updateUser _ _ _) => False
  | .startGrace _ _ _ => False
  | .setHp _ _ _ => False
  | _ => True

/-- The protocol lets the handlers through in this phase. `Player` is what it needs to know of a
loser and `Hp` what it knows of hit points that were read. -/
structure Covers {Phase : Type} (powTen : ℚ → ℚ) (protocol : Protocol signature Phase)
    (phase : Phase) (Player : RoomId → UserId → Prop) (Hp : RoomId → ℤ → Prop) : Prop where
  allows : ∀ cmd, cmd.Plain → protocol.allows phase cmd
  stays : ∀ cmd, cmd.Plain → ∀ reply, protocol.after phase cmd reply = phase
  found : ∀ roomId, Returns protocol phase (fun found => ∀ battle, found = some battle →
    ∀ side, Player roomId (battle.player side)) (findBattle roomId)
  active : ∀ userId, Returns protocol phase (fun battles => ∀ entry ∈ battles,
    Player entry.1 userId) (findActiveBattles userId)
  startsGrace : ∀ roomId side userId, Player roomId userId →
    Returns protocol phase (fun _ => True) (perform (.startGrace roomId side userId))
  ends : ∀ roomId loserId reason, Player roomId loserId →
    Returns protocol phase (fun _ => True) (endBattle powTen roomId loserId reason)
  ticks : ∀ roomId timeBefore, Returns protocol phase (fun _ => True)
    (ofBattle roomId (Api.timerTick powTen roomId timeBefore))
  reads : ∀ roomId side, Returns protocol phase (Hp roomId) (readHp roomId side)
  heals : ∀ roomId side hp, Hp roomId hp →
    Returns protocol phase (fun _ => True) (perform (.setHp roomId side (min 100 (hp + 20))))
  hits : ∀ roomId side hp, Hp roomId hp →
    Returns protocol phase (fun _ => True) (perform (.setHp roomId side (max 0 (hp - 15))))

namespace Covers

variable {Phase α : Type} {powTen : ℚ → ℚ} {protocol : Protocol signature Phase} {phase : Phase}
  {Player : RoomId → UserId → Prop} {Hp : RoomId → ℤ → Prop} {roomId : RoomId} {userId : UserId}
  (covers : Covers powTen protocol phase Player Hp)

include covers

theorem of_uses {program : Prog α}
    (uses : program.run.Uses Cmd.Plain) : Returns protocol phase (fun _ => True) program :=
  returns_of_uses covers.allows covers.stays uses

theorem perform {cmd : Cmd}
    (plain : cmd.Plain) : Returns protocol phase (fun _ => True) (perform cmd) :=
  covers.of_uses (uses_ask (uses_perform plain))

theorem attempt {program : Program signature (Except Failure α)} (uses : program.Uses Cmd.Plain) :
    Returns protocol phase (fun _ => True) (attempt id program) :=
  covers.of_uses (uses_attempt uses)

theorem handleForfeit (player : Player roomId userId) :
    Returns protocol phase (fun _ => True) (handleForfeit powTen userId roomId) :=
  returns_tryCatch (covers.ends _ _ _ player) fun _ => covers.perform trivial

theorem graceElapsed (side : Side) (player : Player roomId userId) :
    Returns protocol phase (fun _ => True) (graceElapsed powTen roomId side userId) := by
  refine returns_bind (covers.perform trivial) fun battleState _ => ?_
  cases battleState with
  | none => exact returns_pure trivial
  | some =>
    dsimp only
    split
    · exact covers.ends _ _ _ player
    · exact returns_pure trivial

theorem leaveBattles
    (battles : List (RoomId × Match)) (players : ∀ entry ∈ battles, Player entry.1 userId) :
    Returns protocol phase (fun _ => True) (leaveBattles userId battles) := by
  induction battles with
  | nil => exact returns_pure trivial
  | cons entry _ ih =>
    refine returns_bind (covers.perform trivial) fun _ _ => ?_
    refine returns_bind (covers.perform trivial) fun _ _ => ?_
    refine returns_bind (covers.startsGrace _ _ _ (players entry List.mem_cons_self)) ?_
    intro _ _
    exact ih fun entry member => players entry (List.mem_cons_of_mem _ member)

theorem handleDisconnection : Returns protocol phase (fun _ => True) (handleDisconnection userId) :=
  returns_bind (covers.active userId) covers.leaveBattles

theorem handleReconnection :
    Returns protocol phase (fun _ => True) (handleReconnection roomId userId) := by
  refine returns_tryCatch ?_ fun _ => returns_pure trivial
  refine returns_bind (covers.found roomId) fun found _ => ?_
  cases found with
  | none => exact returns_pure trivial
  | some =>
    refine returns_bind (covers.perform trivial) fun _ _ => ?_
    refine returns_bind (covers.perform trivial) fun _ _ => ?_
    refine returns_bind (covers.perform trivial) fun battleState _ => ?_
    cases battleState with
    | none => exact returns_pure trivial
    | some => exact covers.perform trivial

theorem handleBattleConnection :
    Returns protocol phase (fun _ => True) (handleBattleConnection userId) := by
  refine returns_bind (covers.active userId) fun battles _ => ?_
  cases battles with
  | nil => exact returns_pure trivial
  | cons =>
    refine returns_bind (covers.perform trivial) fun _ _ => ?_
    refine returns_bind (covers.perform trivial) fun battleState _ => ?_
    cases battleState with
    | none => exact returns_pure trivial
    | some =>
      dsimp only
      split
      · exact covers.handleReconnection
      · exact returns_pure trivial

theorem lookUpSide : Returns protocol phase (fun _ => True) (lookUpSide roomId userId) :=
  returns_bind (covers.found roomId) fun _ _ => returns_pure trivial

theorem castHeal : Returns protocol phase (fun _ => True) (castHeal roomId userId) := by
  refine returns_bind covers.lookUpSide fun side _ => ?_
  refine returns_bind (covers.reads roomId side) fun currentHp read => ?_
  exact returns_bind (covers.heals roomId side currentHp read) fun _ _ => returns_pure trivial

variable {targetId : UserId}

theorem castDamage (player : Player roomId targetId) :
    Returns protocol phase (fun _ => True) (castDamage powTen roomId userId targetId) := by
  refine returns_bind covers.lookUpSide fun side _ => ?_
  refine returns_bind (covers.reads roomId side) fun targetCurrentHp read => ?_
  refine returns_bind (covers.hits roomId side targetCurrentHp read) fun _ _ => ?_
  refine returns_bind (covers.attempt (uses_perform trivial)) fun _ _ => ?_
  have ends : Returns protocol phase (fun _ => True) (if max 0 (targetCurrentHp - 15) ≤ 0
      then endBattle powTen roomId targetId .hpDepleted else return ()) := by
    split
    · exact covers.ends _ _ _ player
    · exact returns_pure trivial
  exact returns_bind ends fun _ _ => returns_pure trivial

theorem applySpellEffect (spellType : SpellType) (player : Player roomId targetId) :
    Returns protocol phase (fun _ => True)
      (applySpellEffect powTen roomId spellType userId targetId) := by
  cases spellType with
  | heal => exact covers.castHeal
  | damage => exact covers.castDamage player
  | shield => exact returns_bind (covers.perform trivial) fun _ _ => returns_pure trivial
  | _ => exact returns_pure trivial

theorem castSpell {spellType : SpellType}
    {usesRemaining : ℤ} {battle : Match} (players : ∀ side, Player roomId (battle.player side)) :
    Returns protocol phase (fun _ => True)
      (castSpell powTen userId spellType roomId usesRemaining battle) := by
  have player : Player roomId
      (if battle.player1Id = userId then battle.player2Id else battle.player1Id) := by
    split
    · exact players .player2
    · exact players .player1
  refine returns_bind (covers.applySpellEffect spellType player) fun effect _ => ?_
  refine returns_bind (covers.attempt (uses_perform trivial)) fun _ _ => ?_
  refine returns_bind (covers.attempt (uses_perform trivial)) fun _ _ => ?_
  exact covers.perform trivial

theorem handleSpellCast (spellType : SpellType) :
    Returns protocol phase (fun _ => True) (handleSpellCast powTen userId spellType roomId) := by
  refine returns_tryCatch ?_ fun _ => covers.perform trivial
  refine returns_bind (covers.perform trivial) fun battleState _ => ?_
  split
  · exact covers.perform trivial
  · refine returns_bind (covers.attempt (uses_perform trivial)) fun spell _ => ?_
    split
    · exact covers.perform trivial
    · refine returns_bind (covers.found roomId) fun found players => ?_
      cases found with
      | none => exact covers.perform trivial
      | some battle => exact covers.castSpell (players battle rfl)

theorem program (call : Call)
    (forfeits : ∀ userId roomId, call = .handleForfeit userId roomId → Player roomId userId)
    (fires : ∀ timer, call = .graceElapsed timer → Player timer.roomId timer.userId) :
    Returns protocol phase (fun _ => True) (call.program powTen) := by
  cases call with
  | handleForfeit userId roomId => exact covers.handleForfeit (forfeits userId roomId rfl)
  | handleDisconnection => exact covers.handleDisconnection
  | graceElapsed timer => exact covers.graceElapsed timer.side (fires timer rfl)
  | handleBattleConnection => exact covers.handleBattleConnection
  | handleSpellCast _ spellType => exact covers.handleSpellCast spellType
  | timerTick roomId timeBefore => exact covers.ticks roomId timeBefore

end Covers

end CodeClash.Api.Events
