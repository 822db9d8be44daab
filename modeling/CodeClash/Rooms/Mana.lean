import CodeClash.Rooms.Working
import Mathlib.Algebra.Order.BigOperators.Group.List

/-!
# Mana

`handleSpellCast` checks the mana of the caster in the document of the battle and deducts it from
the participants. No cast changes the document. So every cast finds the mana that the caster had at
first, and what the casts cost together is limited only by their number.
-/

namespace CodeClash.Rooms

open Async Throwing

structure Cast where
  spellType : String
  targetUserId : Option UserId
  choices : ℕ → Choice

variable (roomId : RoomId) (userId : UserId)

def BattleStateData.mana (battleState : BattleStateData) (userId : UserId) : ℤ :=
  (battleState.player (battleState.sideOf userId)).mana

/-- The document of the battle, and whether there is a participant. -/
structure Stays (battleState : BattleStateData) (isStored : Bool) (store : Store) : Prop where
  stored : store.states roomId = some battleState
  participant : (store.findParticipant roomId userId).isSome = isStored

variable {roomId userId} {battleState : BattleStateData} {isStored : Bool} {store : Store}

theorem Stays.of_eq {next : Store} (stays : Stays roomId userId battleState isStored store)
    (states : next.states roomId = store.states roomId)
    (participants : next.participants roomId = store.participants roomId) :
    Stays roomId userId battleState isStored next := by
  refine ⟨states.trans stays.stored, ?_⟩
  rw [Store.findParticipant, participants]
  exact stays.participant

variable {target : UserId} {updates : Participant → Participant}

theorem findSide_modify {participants : Participants} {side : Side}
    (found : participants.findSide target = some side)
    (keeps : ∀ participant, participant.userId = target → (updates participant).userId = target)
    (userId : UserId) :
    (participants.modify side updates).findSide userId = participants.findSide userId := by
  have same : (participants.modify side updates).player1.userId = participants.player1.userId ∧
      (participants.modify side updates).player2.userId = participants.player2.userId := by
    unfold Participants.findSide at found
    split at found
    · rename_i first
      cases found
      exact ⟨(keeps _ first).trans first.symm, rfl⟩
    · split at found
      · rename_i second
        cases found
        exact ⟨rfl, (keeps _ second).trans second.symm⟩
      · cases found
  rw [Participants.findSide, same.1, same.2, Participants.findSide]

section Stays

variable (stays : Stays roomId userId battleState isStored store)

include stays

theorem Stays.update
    (keeps : ∀ participant, participant.userId = target → (updates participant).userId = target) :
    (updateParticipant roomId target updates).run.Obeys (working none)
      (fun reached outcome => Stays roomId userId battleState isStored reached ∧
        outcome.isOk = (store.findParticipant roomId target).isSome) store := by
  cases found : store.findParticipant roomId target with
  | none =>
    refine (updateParticipant_throws found updates).mono ?_
    rintro _ _ ⟨rfl, rfl⟩
    exact ⟨stays, rfl⟩
  | some present =>
    rcases present with ⟨_, _⟩
    refine (updateParticipant_ends found updates).mono ?_
    rintro _ _ ⟨rfl, rfl⟩
    rcases Option.bind_eq_some_iff.mp found with ⟨_, isStored, foundSide⟩
    rcases Option.map_eq_some_iff.mp foundSide with ⟨_, isSide, ⟨⟩⟩
    refine ⟨⟨stays.stored, ?_⟩, rfl⟩
    have stayed := stays.participant
    simp only [Store.findParticipant, isStored, Option.bind_some, Option.isSome_map] at stayed
    simp [Store.findParticipant, Cmd.write, findSide_modify isSide keeps, stayed]

end Stays

end CodeClash.Rooms
