import CodeClash.Spell.Casting
import Mathlib.Data.Int.ConditionallyCompleteOrder

/-!
# Requests to cast a spell

A spell should only have an effect when the name is known and the caster is a player of a battle
that is ACTIVE. Neither the handler nor `castSpell` checks any of this: the handler only needs the
battle to exist, and an unknown name passes the comparison with its missing cost.
-/

namespace CodeClash.Spell

open Async Program
open Battle (UserId RoomId BattleState Failure)

/-- The spell is known and the caster is a player of a battle that is ACTIVE. -/
def CastRequest.Allowed (cast : CastRequest) (store : Store) : Prop :=
  cast.spellType ∈ ["hint", "time_freeze", "slow"] ∧
    ∃ casterId battle, truthy cast.userId = some casterId ∧
      store.battles cast.roomId = some battle ∧ battle.status = .active ∧
        (battle.player1Id = casterId ∨ battle.player2Id = casterId)

def Regenerated (roomId : RoomId) (userId : UserId) (before after : Store) : Prop :=
  ∃ entry now written, before.mana (manaKey roomId userId) = some entry ∧
    0 < entry.value.regenAmount now ∧
      after.mana = (before.setMana written roomId userId (entry.value.regenerate now)).mana

/-- Mana, cooldowns and effects are as before, but for regeneration of the caster's mana. -/
structure Unaffected (cast : CastRequest) (before after : Store) : Prop where
  mana : after.mana = before.mana ∨
    ∃ casterId, truthy cast.userId = some casterId ∧
      Regenerated cast.roomId casterId before after
  cooldowns : after.cooldowns = before.cooldowns
  effects : after.effects = before.effects

/-- An unknown spell would write the mana record that is stored, with its time to live. -/
def CastRequest.Repeats (cast : CastRequest) (casterId : UserId) (choices : ℕ → Choice)
    (store : Store) : Prop :=
  store.mana (manaKey cast.roomId casterId) = some
    { value := (reading cast.roomId casterId (fun n => choices (n + 3)) store).mana.deduct none
      expiresAt := (choices ((reading cast.roomId casterId (fun n => choices (n + 3))
        store).used + 1 + 3)).now + manaSeconds * 1000 }

/--
The handler turns the request down before it writes anything, or writes what is there. The
mana is read from the fourth command on. An unknown spell sets the mana to `null`, which
changes nothing if the same cast was made in the same millisecond.
-/
inductive CastRequest.Refused (cast : CastRequest) (choices : ℕ → Choice) (store : Store) :
    Prop where
  | unauthenticated (missing : truthy cast.userId = none)
  | noBattle (missing : store.battles cast.roomId = none)
  | poor (casterId : UserId) (caster : truthy cast.userId = some casterId)
      (less : (reading cast.roomId casterId (fun n => choices (n + 3)) store).mana.lessThan
        (SPELL_COSTS cast.spellType) = true)
  | cooling (casterId : UserId) (caster : truthy cast.userId = some casterId)
      (alive : store.cooldowns.get
        (choices ((reading cast.roomId casterId (fun n => choices (n + 3)) store).used + 3)).now
        (cooldownKey cast.roomId casterId cast.spellType) ≠ none)
  | repeated (casterId : UserId) (caster : truthy cast.userId = some casterId)
      (unknown : SPELL_COSTS cast.spellType = none) (same : cast.Repeats casterId choices store)

section Parts

variable {α : Type} {roomId : RoomId} {casterId : UserId} {choices : ℕ → Choice} {store : Store}

@[simp]
theorem emit_mana (recipient : Recipient) (message : Message) :
    (store.emit recipient message).mana = store.mana := by
  cases recipient <;> simp only [Store.emit]
  split <;> rfl

@[simp]
theorem emit_cooldowns (recipient : Recipient) (message : Message) :
    (store.emit recipient message).cooldowns = store.cooldowns := by
  cases recipient <;> simp only [Store.emit]
  split <;> rfl

@[simp]
theorem emit_effects (recipient : Recipient) (message : Message) :
    (store.emit recipient message).effects = store.effects := by
  cases recipient <;> simp only [Store.emit]
  split <;> rfl

theorem reading_mana : (reading roomId casterId choices store).store.mana = store.mana ∨
    Regenerated roomId casterId store (reading roomId casterId choices store).store := by
  rw [reading]
  cases found : store.mana.get (choices 0).now (manaKey roomId casterId) with
  | none => exact Or.inl rfl
  | some mana =>
    by_cases due : 0 < mana.regenAmount (choices 1).now
    · rcases Keys.Expiring.get_eq_some_iff.mp found with ⟨_, _, stored⟩
      simp only [due, if_true]
      exact Or.inr ⟨_, _, _, stored, due, rfl⟩
    · simp [due]

theorem getPuzzleTestCases_bind {battle : BattleState} (next : List (String × String) → Prog α)
    (stored : store.battles roomId = some battle) :
    ∃ testCases, alone choices (getPuzzleTestCases roomId >>= next) store =
      alone (fun n => choices (n + 2)) (next testCases) store := by
  cases fails : (choices 1).fails with
  | true => exact ⟨[], by simp [getPuzzleTestCases, handle, stored, answer, fails]⟩
  | false =>
    exact ⟨puzzleTestCases (store.testCases battle.problemId),
      by simp [getPuzzleTestCases, handle, stored, answer, fails]⟩

def Cmd.LeavesCooldowns : Cmd → Prop
  | .setCooldown _ _ _ _ => False
  | _ => True

theorem handle_cooldowns {cmd : Cmd} (leaves : cmd.LeavesCooldowns) (choice : Choice) :
    (handle cmd choice store).2.cooldowns = store.cooldowns := by
  cases cmd with
  | setCooldown => exact leaves.elim
  | emit recipient message => exact emit_cooldowns recipient message
  | _ => rfl

theorem getMana_leavesCooldowns : (getMana roomId casterId).Uses Cmd.LeavesCooldowns := by
  apply uses_perform_bind trivial
  intro stored
  cases stored with
  | none => exact uses_perform_bind trivial fun _ => trivial
  | some =>
    apply uses_perform_bind trivial
    intro _
    split
    · exact uses_perform_bind trivial fun _ => trivial
    · trivial

theorem announceHint_leavesCooldowns (spellType : String) (hintText : Option String) :
    (announceHint spellType hintText).Uses Cmd.LeavesCooldowns := by
  rw [announceHint]
  split
  · split
    · exact uses_perform trivial
    · trivial
  · trivial

theorem announceCast_leavesCooldowns (cast : CastRequest) (targetId : UserId)
    (hintText : Option String) :
    (announceCast cast casterId targetId hintText).Uses Cmd.LeavesCooldowns := by
  apply uses_bind getMana_leavesCooldowns
  intro _
  apply uses_perform_bind trivial
  intro _
  apply uses_bind (announceHint_leavesCooldowns cast.spellType hintText)
  intro _
  apply uses_perform_bind trivial
  intro _
  apply uses_perform_bind trivial
  intro _
  apply uses_perform_bind trivial
  intro reply
  cases reply with
  | ok => trivial
  | error => exact uses_perform trivial

theorem announceCast_cooldowns (cast : CastRequest) (targetId : UserId)
    (hintText : Option String) :
    (alone choices (announceCast cast casterId targetId hintText) store).2.cooldowns =
      store.cooldowns :=
  (announceCast_leavesCooldowns cast targetId hintText).run_invariant
    (fun reached : Store => reached.cooldowns = store.cooldowns) (fun _ _ same => same)
    (fun _ leaves choice _ same => (handle_cooldowns leaves choice).trans same) rfl

end Parts

theorem concludeCast_leaves (cast : CastRequest) (casterId targetId : UserId)
    (choices : ℕ → Choice) (ended : Except Failure CastResult × Store) :
    (alone choices (concludeCast cast casterId targetId ended.1) ended.2).2.cooldowns =
        ended.2.cooldowns ∧
      (succeeded ended.1 = false →
        (alone choices (concludeCast cast casterId targetId ended.1) ended.2).2.mana =
            ended.2.mana ∧
          (alone choices (concludeCast cast casterId targetId ended.1) ended.2).2.effects =
            ended.2.effects) := by
  rcases ended with ⟨_ | _ | ⟨_, _⟩, _⟩
  · simp [concludeCast, handle]
  · simp [concludeCast, handle]
  · simp [concludeCast, succeeded, announceCast_cooldowns]

theorem onSpellCast_cases {cast : CastRequest} {choices : ℕ → Choice} {store : Store}
    {casterId : UserId} {battle : BattleState} (caster : truthy cast.userId = some casterId)
    (stored : store.battles cast.roomId = some battle) :
    ∃ ended, CastCases cast.roomId casterId cast.spellType (fun n => choices (n + 3))
      (reading cast.roomId casterId (fun n => choices (n + 3)) store) ended ∧
      (alone choices (onSpellCast cast) store).2.cooldowns = ended.2.cooldowns ∧
      (succeeded ended.1 = false →
        (alone choices (onSpellCast cast) store).2.mana = ended.2.mana ∧
          (alone choices (onSpellCast cast) store).2.effects = ended.2.effects) := by
  have opened : ∃ testCases, alone choices (onSpellCast cast) store =
      alone (fun n => choices (n + 3)) (castSpell cast.roomId casterId (opponentOf battle casterId)
        cast.spellType testCases >>= concludeCast cast casterId (opponentOf battle casterId))
        store := by
    simp only [onSpellCast, caster, Program.perform_eq_issue, Program.issue_bind,
      Program.done_bind, alone_issue, handle, stored]
    exact getPuzzleTestCases_bind _ stored
  rcases opened with ⟨testCases, opened⟩
  rcases Program.run_bind handle (castSpell cast.roomId casterId (opponentOf battle casterId)
    cast.spellType testCases) (concludeCast cast casterId (opponentOf battle casterId))
    (fun _ store => store) (fun n => choices (n + 3)) store with ⟨used, split⟩
  rw [opened, alone, split]
  exact ⟨_, castSpell_cases, concludeCast_leaves cast casterId _ _ _⟩

theorem cooldownSec_pos {spellType : String} {seconds : ℤ}
    (known : cooldownSec spellType = some seconds) : 0 < seconds := by
  simp only [cooldownSec, SPELL_COOLDOWNS] at known
  split at known <;> simp at known <;> rw [← known] <;> norm_num

theorem costs_eq_none_iff {spellType : String} :
    SPELL_COSTS spellType = none ↔ cooldownSec spellType = none := by
  simp only [SPELL_COSTS, cooldownSec, SPELL_COOLDOWNS]
  split <;> simp

theorem reading_setMana {roomId : RoomId} {casterId : UserId} {choices : ℕ → Choice}
    {store : Store} (now : ℤ) (mana : ManaState) :
    ((reading roomId casterId choices store).store.setMana now roomId casterId mana).mana =
      (store.setMana now roomId casterId mana).mana := by
  rw [reading]
  split
  · rfl
  · split
    · simp [Store.setMana]
    · rfl

section Unchanged

variable {cast : CastRequest} {choices : ℕ → Choice} {store : Store}

theorem unaffected_of_emit {recipient : Recipient} {message : Message}
    (run : (alone choices (onSpellCast cast) store).2 = store.emit recipient message) :
    Unaffected cast store (alone choices (onSpellCast cast) store).2 := by
  rw [run]
  exact ⟨Or.inl (emit_mana _ _), emit_cooldowns _ _, emit_effects _ _⟩

variable {casterId : UserId}

theorem unaffected_of_reading (caster : truthy cast.userId = some casterId)
    (cooldowns : (alone choices (onSpellCast cast) store).2.cooldowns = store.cooldowns)
    (mana : (alone choices (onSpellCast cast) store).2.mana =
      (reading cast.roomId casterId (fun n => choices (n + 3)) store).store.mana)
    (effects : (alone choices (onSpellCast cast) store).2.effects = store.effects) :
    Unaffected cast store (alone choices (onSpellCast cast) store).2 := by
  refine ⟨?_, cooldowns, effects⟩
  rcases @reading_mana cast.roomId casterId (fun n => choices (n + 3)) store with
    same | ⟨entry, now, written, stored, due, regenerated⟩
  · exact Or.inl (mana.trans same)
  · exact Or.inr ⟨casterId, caster, entry, now, written, stored, due, mana.trans regenerated⟩

theorem refused_iff_repeats {battle : BattleState} (caster : truthy cast.userId = some casterId)
    (stored : store.battles cast.roomId = some battle)
    (enough : (reading cast.roomId casterId (fun n => choices (n + 3)) store).mana.lessThan
      (SPELL_COSTS cast.spellType) = false)
    (ready : store.cooldowns.get
      (choices ((reading cast.roomId casterId (fun n => choices (n + 3)) store).used + 3)).now
      (cooldownKey cast.roomId casterId cast.spellType) = none) :
    cast.Refused choices store ↔
      SPELL_COSTS cast.spellType = none ∧ cast.Repeats casterId choices store := by
  constructor
  · intro refused
    cases refused with
    | unauthenticated missing => simp [caster] at missing
    | noBattle missing => simp [stored] at missing
    | poor _ isCaster less =>
      cases caster.symm.trans isCaster
      simp [enough] at less
    | cooling _ isCaster alive =>
      cases caster.symm.trans isCaster
      exact absurd ready alive
    | repeated _ isCaster unknown same =>
      cases caster.symm.trans isCaster
      exact ⟨unknown, same⟩
  · rintro ⟨unknown, same⟩
    exact .repeated casterId caster unknown same

theorem not_regenerated_of_null {roomId : RoomId} {after : Store} {now : ℤ} {mana : ManaState}
    (null : after.mana = (store.setMana now roomId casterId (mana.deduct none)).mana) :
    ¬Regenerated roomId casterId store after := by
  rintro ⟨_, _, _, _, _, regenerated⟩
  have same := congrFun (null.symm.trans regenerated) (manaKey roomId casterId)
  simp [Store.setMana, ManaState.deduct, ManaState.regenerate] at same

theorem unaffected_iff_repeats (caster : truthy cast.userId = some casterId)
    (mana : (alone choices (onSpellCast cast) store).2.mana =
      (store.setMana (choices ((reading cast.roomId casterId (fun n => choices (n + 3))
        store).used + 1 + 3)).now cast.roomId casterId
        ((reading cast.roomId casterId (fun n => choices (n + 3)) store).mana.deduct none)).mana)
    (cooldowns : (alone choices (onSpellCast cast) store).2.cooldowns = store.cooldowns)
    (effects : (alone choices (onSpellCast cast) store).2.effects = store.effects) :
    Unaffected cast store (alone choices (onSpellCast cast) store).2 ↔
      cast.Repeats casterId choices store := by
  constructor
  · intro unaffected
    rcases unaffected.mana with same | ⟨_, isCaster, regenerated⟩
    · have written := congrFun (same.symm.trans mana) (manaKey cast.roomId casterId)
      simpa [Store.setMana, CastRequest.Repeats] using written
    · cases caster.symm.trans isCaster
      exact absurd regenerated (not_regenerated_of_null mana)
  · intro same
    refine ⟨Or.inl ?_, cooldowns, effects⟩
    rw [mana, Store.setMana, Keys.Expiring.setEx, ← same, Function.update_eq_self]

theorem not_unaffected_of_cooldown {key : String} {read written seconds : ℤ}
    (ready : store.cooldowns.get read key = none) (le : read ≤ written) (positive : 0 < seconds)
    (cooldowns : (alone choices (onSpellCast cast) store).2.cooldowns =
      store.cooldowns.setEx written key (seconds * 1000) ()) :
    ¬Unaffected cast store (alone choices (onSpellCast cast) store).2 := by
  intro unaffected
  have same := congrFun (cooldowns.symm.trans unaffected.cooldowns) key
  rw [Keys.Expiring.setEx_self] at same
  have expired := Keys.Expiring.get_eq_none_iff.mp ready _ same.symm
  simp only at expired
  omega

theorem unaffected_iff_refused (clock : Monotone fun n => (choices n).now) :
    Unaffected cast store (alone choices (onSpellCast cast) store).2 ↔
      cast.Refused choices store := by
  cases caster : truthy cast.userId with
  | none =>
    have run : (alone choices (onSpellCast cast) store).2 =
        store.emit .caller (.error "Not authenticated") := by
      simp [onSpellCast, caster, handle]
    exact ⟨fun _ => .unauthenticated caster, fun _ => unaffected_of_emit run⟩
  | some casterId =>
    cases stored : store.battles cast.roomId with
    | none =>
      have run : (alone choices (onSpellCast cast) store).2 =
          store.emit .caller (.spellError "Battle not found") := by
        simp [onSpellCast, caster, handle, stored]
      exact ⟨fun _ => .noBattle stored, fun _ => unaffected_of_emit run⟩
    | some battle =>
      rcases @onSpellCast_cases cast choices store casterId battle caster stored with
        ⟨ended, cases, cooldowns, unsuccessful⟩
      cases cases with
      | poor _ less =>
        rcases unsuccessful rfl with ⟨mana, effects⟩
        simp only [reading_cooldowns, reading_effects] at cooldowns effects
        exact ⟨fun _ => .poor casterId caster less,
          fun _ => unaffected_of_reading caster cooldowns mana effects⟩
      | cooling _ _ alive =>
        rcases unsuccessful rfl with ⟨mana, effects⟩
        simp only [reading_cooldowns, reading_effects] at cooldowns effects alive
        exact ⟨fun _ => .cooling casterId caster alive,
          fun _ => unaffected_of_reading caster cooldowns mana effects⟩
      | rejected enough ready unknown =>
        rcases unsuccessful rfl with ⟨mana, effects⟩
        have noCost := costs_eq_none_iff.mpr unknown
        simp only [Store.setMana, reading_effects] at effects
        simp only [Store.setMana, reading_cooldowns] at cooldowns ready
        rw [refused_iff_repeats caster stored enough ready]
        rw [reading_setMana, noCost] at mana
        rw [unaffected_iff_repeats caster mana cooldowns effects]
        simp [noCost]
      | cast _ _ _ _ enough ready known _ started =>
        rw [reading_cooldowns] at ready started
        rw [refused_iff_repeats caster stored enough ready]
        have changed := not_unaffected_of_cooldown ready (clock (by omega))
          (cooldownSec_pos known) (cooldowns.trans started)
        simp [changed, costs_eq_none_iff, known]

/--
For every `spell:cast` event, with any name and any room, the caster's mana and cooldowns
and the effects change only if the spell is known and the caster is a player of an ACTIVE
battle, exactly if the request is one of those or is refused by a check that the code makes.
-/
theorem cast_respects_battle_iff (clock : Monotone fun n => (choices n).now) :
    cast.Allowed store ∨ Unaffected cast store (alone choices (onSpellCast cast) store).2 ↔
      cast.Allowed store ∨ cast.Refused choices store :=
  or_congr_right (unaffected_iff_refused clock)

end Unchanged

def arena : Store :=
  { emptyStore with
    battles := fun roomId =>
      if roomId = "r" then
        some { player1Id := "a", player2Id := "b", problemId := "p", hp1 := 500, hp2 := 500
               startTimestamp := 0, status := .active, sub1Count := 0, sub2Count := 0
               matchId := none, lastHeartbeat := none }
      else none }

def freezeBy (userId : UserId) : CastRequest := ⟨some userId, userId, "r", "time_freeze"⟩

/-- Somebody who does not play freezes player 1. -/
theorem outsider_freezes_player :
    ¬((freezeBy "c").Allowed arena ∨ Unaffected (freezeBy "c") arena
      (alone (fun _ => ⟨0, 0, false⟩) (onSpellCast (freezeBy "c")) arena).2) := by
  rintro (⟨_, _, _, caster, stored, _, plays⟩ | unaffected)
  · simp only [arena, freezeBy, if_true, Option.some.injEq] at stored
    simp [freezeBy, truthy] at caster
    rcases caster with ⟨rfl, _⟩
    subst stored
    simp at plays
  · have same := congrFun unaffected.effects (freezeKey "r" "a")
    revert same
    decide +kernel

theorem player_may_freeze :
    (freezeBy "a").Allowed arena ∨ Unaffected (freezeBy "a") arena
      (alone (fun _ => ⟨0, 0, false⟩) (onSpellCast (freezeBy "a")) arena).2 :=
  (cast_respects_battle_iff fun _ _ _ => le_rfl).mpr
    (Or.inl ⟨by simp [freezeBy], "a", _, rfl, rfl, rfl, Or.inl rfl⟩)

end CodeClash.Spell
