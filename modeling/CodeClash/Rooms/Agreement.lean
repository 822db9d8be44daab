import CodeClash.Async.Sequential
import CodeClash.Rooms.Working

/-!
# The two records of the state of a room

The state of a room is kept in the hash of the room and in the document of the battle.
`createBattleRoom` writes both, all other operations write the hash only. `Operation.effect` says
what an operation does to the two records, and the rest of the argument is about effects.
-/

namespace CodeClash.Rooms

open Async Throwing Function

structure Record where
  state : Option BattleState
  document : Option (Room IsoText)
deriving DecidableEq, Repr

def Store.record (store : Store) (roomId : RoomId) : Record :=
  ⟨(store.rooms roomId).map Room.state, (store.states roomId).map BattleStateData.room⟩

def Store.mark (store : Store) (roomId : RoomId) (state : BattleState) : RoomId → Record :=
  update store.record roomId ⟨some state, (store.record roomId).document⟩

theorem record_setRoom (store : Store) (roomId : RoomId) (room : BattleRoom) :
    ((Cmd.setRoom roomId room).write store).record = store.mark roomId room.state := by
  funext other
  by_cases same : other = roomId
  · subst other
    simp [Store.record, Store.mark, Cmd.write]
  · simp [Store.record, Store.mark, Cmd.write, same]

theorem record_setState {store : Store} {roomId : RoomId} {state : BattleStateData}
    (kept : (store.states roomId).map BattleStateData.room = some state.room) :
    ((Cmd.setState roomId state).write store).record = store.record := by
  funext other
  by_cases isRoom : other = roomId
  · subst other
    simp [Store.record, Cmd.write, kept]
  · simp [Store.record, Cmd.write, isRoom]

def Cmd.Unrecorded : Cmd → Prop
  | .setRoom _ _ | .setState _ _ => False
  | _ => True

theorem record_write {cmd : Cmd} (unrecorded : cmd.Unrecorded) (store : Store) :
    (cmd.write store).record = store.record := by
  cases cmd <;> first | rfl | exact unrecorded.elim

section Effects

variable {judged : Option JudgeResult} {store : Store} {roomId : RoomId} {α : Type}

theorem record_of_uses {program : Prog α} {records : RoomId → Record}
    (uses : program.run.Uses Cmd.Unrecorded) (same : store.record = records) :
    program.run.Obeys (working judged) (fun after _ => after.record = records) store := by
  refine uses.obeys_invariant (fun _ _ _ _ => trivial) ?_ same
  intro store _ _ same unrecorded _
  exact (record_write unrecorded store).trans same

theorem publish_unrecorded (channel : String) (message : Message) :
    (publish channel message).run.Uses Cmd.Unrecorded :=
  uses_attempt (Program.uses_perform (by exact trivial))

theorem publishUnlocks_unrecorded (unlocks : List SpellUnlock) :
    (publishUnlocks unlocks).run.Uses Cmd.Unrecorded := by
  induction unlocks with
  | nil => trivial
  | cons _ _ ih => exact uses_bind (publish_unrecorded _ _) fun _ => ih

theorem startTimer_unrecorded (timer : Timer) : (startTimer timer).run.Uses Cmd.Unrecorded :=
  uses_ask (Program.uses_perform (by exact trivial))

theorem expire_unrecorded (key : RoomKey) (seconds : ℤ) :
    (expire key seconds).run.Uses Cmd.Unrecorded :=
  uses_attempt (Program.uses_perform (by exact trivial))

/-- The records after the end of a battle. A document with a start stops `endBattle`. -/
def Store.endRecord (store : Store) (roomId : RoomId) : RoomId → Record :=
  match store.room roomId, store.states roomId with
  | some _, some battleState =>
    if battleState.room.startedAt.isSome then store.record else store.mark roomId .ended
  | _, _ => store.record

variable {battleState : BattleStateData} {before after : Store} {room : BattleRoom}

theorem recordEnd_record (powTen : ℚ → ℚ) (winnerId : UserId)
    (found : store.states roomId = some battleState) :
    (recordEnd powTen roomId battleState winnerId).run.Obeys (working judged)
      (fun after _ => after.record = store.endRecord roomId) store := by
  refine obeys_bind_ok stopTimers_ends ?_
  cases started : battleState.room.startedAt with
  | some startedAt =>
    refine obeys_bind_error (duration_throws startedAt) ?_
    cases stored : store.room roomId <;> simp [Store.endRecord, stored, found, started]
  | none =>
    have durationIsZero : (duration none).run.Obeys (working judged) (Ends (.ok 0) store) store :=
      ⟨rfl, rfl⟩
    refine obeys_bind_ok durationIsZero (obeys_bind_ok getDamageLogs_ends ?_)
    refine obeys_getNow fun endedAt => ?_
    cases stored : store.room roomId with
    | none =>
      refine obeys_bind_error (updateBattleRoom_throws stored _) ?_
      simp [Store.endRecord, stored]
    | some =>
      refine obeys_bind_ok (updateBattleRoom_ends stored _) (record_of_uses ?_ ?_)
      · refine uses_bind (publish_unrecorded _ _) fun _ => ?_
        refine uses_bind (uses_ask (Program.uses_perform (by exact trivial))) fun _ => ?_
        exact uses_bind (publishUnlocks_unrecorded _) fun _ => startTimer_unrecorded _
      · rw [record_setRoom]
        simp [Store.endRecord, stored, found, started]

theorem record_of_tryCatch {program : Prog Unit} {records : RoomId → Record}
    (obeys : program.run.Obeys (working judged) (fun after _ => after.record = records) store) :
    (tryCatch program fun _ => return ()).run.Obeys (working judged)
      (fun after outcome => outcome = .ok () ∧ after.record = records) store := by
  refine obeys_tryCatch (obeys.mono ?_)
  intro _ outcome same
  cases outcome with
  | ok => exact ⟨rfl, same⟩
  | error => exact ⟨rfl, same⟩

theorem endBattle_record (powTen : ℚ → ℚ) (winnerId : Option UserId) :
    (endBattle powTen roomId winnerId).run.Obeys (working judged)
      (fun after outcome => outcome = .ok () ∧ after.record = store.endRecord roomId) store := by
  refine record_of_tryCatch (obeys_bind_ok getBattleState_ends ?_)
  cases found : store.states roomId with
  | none =>
    change store.record = store.endRecord roomId
    cases stored : store.room roomId <;> simp [Store.endRecord, stored, found]
  | some => exact recordEnd_record powTen _ found

/-- The records after a state was written over that of a room, if there is a room. -/
def Store.markRoom (store : Store) (roomId : RoomId) (state : BattleState) : RoomId → Record :=
  if (store.room roomId).isSome then store.mark roomId state else store.record

def Store.markBattle (store : Store) (roomId : RoomId) (state : BattleState) : RoomId → Record :=
  if (store.states roomId).isSome then store.markRoom roomId state else store.record

theorem updateBattleRoom_record {updates : BattleRoom → BattleRoom} {state : BattleState}
    (updated : ∀ room, (updates room).state = state) :
    (updateBattleRoom roomId updates).run.Obeys (working judged)
      (fun after _ => after.record = store.markRoom roomId state) store := by
  cases stored : store.room roomId with
  | none =>
    refine (updateBattleRoom_throws stored updates).mono ?_
    rintro _ _ ⟨rfl, rfl⟩
    simp [Store.markRoom, stored]
  | some =>
    refine (updateBattleRoom_ends stored updates).mono ?_
    rintro _ _ ⟨rfl, rfl⟩
    rw [record_setRoom, updated]
    simp [Store.markRoom, stored]

theorem updateBattleRoom_bind_record {updates : BattleRoom → BattleRoom} {state : BattleState}
    {next : Unit → Prog α} (updated : ∀ room, (updates room).state = state)
    (unrecorded : (next ()).run.Uses Cmd.Unrecorded) :
    (updateBattleRoom roomId updates >>= next).run.Obeys (working judged)
      (fun after _ => after.record = store.markRoom roomId state) store := by
  refine obeys_bind ((updateBattleRoom_record updated).mono ?_)
  intro _ outcome same
  cases outcome with
  | ok => exact record_of_uses unrecorded same
  | error => exact same

theorem startCountdown_record :
    (startCountdown roomId).run.Obeys (working judged)
      (fun after _ => after.record = store.markRoom roomId .countdown) store :=
  updateBattleRoom_bind_record (fun _ => rfl)
    (uses_bind (publish_unrecorded _ _) fun _ => startTimer_unrecorded _)

theorem markRoom_setState {state : BattleStateData}
    (kept : (store.states roomId).map BattleStateData.room = some state.room)
    (written : BattleState) :
    ((Cmd.setState roomId state).write store).markRoom roomId written =
      store.markRoom roomId written := by
  have sameRoom : ((Cmd.setState roomId state).write store).room roomId = store.room roomId := rfl
  simp only [Store.markRoom, Store.mark, sameRoom, record_setState kept]

theorem initializeBattle_record (puzzle : Problem) :
    (initializeBattle roomId puzzle).run.Obeys (working judged)
      (fun after _ => after.record = store.markBattle roomId .waiting) store := by
  refine obeys_bind_ok getBattleState_ends ?_
  rw [Store.markBattle]
  cases found : store.states roomId with
  | none => exact rfl
  | some battleState =>
    let initialized := { battleState with puzzle := some puzzle }
    have kept : (store.states roomId).map BattleStateData.room = some initialized.room := by
      rw [found]
      rfl
    refine obeys_bind_ok (updateBattleState_ends found initialized) ?_
    rw [Option.isSome_some, if_pos rfl, ← markRoom_setState kept]
    refine updateBattleRoom_bind_record (fun _ => rfl) ?_
    exact startTimer_unrecorded _

theorem startBattle_record :
    (startBattle roomId).run.Obeys (working judged) (fun after outcome => outcome = .ok () ∧
      after.record = store.markBattle roomId .active) store := by
  refine record_of_tryCatch (obeys_bind_ok getBattleState_ends ?_)
  rw [Store.markBattle]
  cases found : store.states roomId with
  | none => exact rfl
  | some battleState =>
    refine obeys_getNow fun startedAt => ?_
    rw [Option.isSome_some, if_pos rfl]
    cases stored : store.room roomId with
    | none =>
      refine obeys_bind_error (updateBattleRoom_throws stored _) ?_
      simp [Store.markRoom, stored]
    | some =>
      refine obeys_bind_ok (updateBattleRoom_ends stored _) ?_
      refine obeys_bind_ok (updateBattleState_ends (by exact found) _) ?_
      refine record_of_uses ?_ ?_
      · exact uses_bind (startTimer_unrecorded _) fun _ => publish_unrecorded _ _
      · have kept : (store.states roomId).map BattleStateData.room = some battleState.room := by
          rw [found]
          rfl
        rw [record_setState (by exact kept), record_setRoom]
        simp [Store.markRoom, stored]

theorem createBattleRoom_record (room : BattleRoom) (player1 player2 : Participant) :
    (createBattleRoom room player1 player2).run.Obeys (working judged)
      (fun after _ => after.record =
        update store.record room.id ⟨some room.state, some room.stringify⟩) store := by
  refine obeys_bind_ok (setRoom_ends room) ?_
  refine obeys_bind_ok (setParticipants_ends _) ?_
  refine obeys_bind_ok (setState_ends _) (record_of_uses ?_ ?_)
  · refine uses_bind (expire_unrecorded _ _) fun _ => ?_
    refine uses_bind (expire_unrecorded _ _) fun _ => ?_
    refine uses_bind (expire_unrecorded _ _) fun _ => ?_
    refine uses_bind (uses_attempt (Program.uses_perform (by exact trivial))) fun _ => ?_
    exact uses_attempt (Program.uses_perform (by exact trivial))
  · funext other
    by_cases same : other = room.id
    · subst other
      simp [Store.record, Cmd.write]
    · simp [Store.record, Cmd.write, same]

/-- The stores differ in the state that the hash of the room has, at most, and not at all if there
is no room. -/
structure Near (roomId : RoomId) (before after : Store) : Prop where
  room : (after.room roomId).isSome = (before.room roomId).isSome
  mark : ∀ state, after.mark roomId state = before.mark roomId state
  record : before.room roomId = none → after.record = before.record

theorem Near.refl : Near roomId store store := ⟨rfl, fun _ => rfl, fun _ => rfl⟩

theorem Near.trans {first second third : Store} (near : Near roomId first second)
    (next : Near roomId second third) : Near roomId first third := by
  refine ⟨next.room.trans near.room, fun state => (next.mark state).trans (near.mark state), ?_⟩
  intro missing
  have missingNext : second.room roomId = none := by
    rw [← Option.not_isSome_iff_eq_none, near.room, missing]
    exact Bool.false_ne_true
  exact (next.record missingNext).trans (near.record missing)

theorem Near.of_eq (rooms : after.rooms = before.rooms)
    (states : after.states = before.states) : Near roomId before after := by
  have same : after.record = before.record := by
    funext other
    simp only [Store.record, rooms, states]
  refine ⟨?_, fun state => ?_, fun _ => same⟩
  · simp only [Store.room, rooms]
  · simp only [Store.mark, same]

theorem room_setRoom {updated : BattleRoom} (found : store.room roomId = some room)
    (sameId : updated.id = room.id) :
    ((Cmd.setRoom roomId updated).write store).room roomId = some updated := by
  have named : room.id ≠ "" := by simpa using (Option.filter_eq_some_iff.mp found).2
  simp [Store.room, Cmd.write, sameId, named]

theorem Near.setRoom {updated : BattleRoom} (found : store.room roomId = some room)
    (sameId : updated.id = room.id) :
    Near roomId store ((Cmd.setRoom roomId updated).write store) := by
  refine ⟨?_, fun state => ?_, fun missing => ?_⟩
  · rw [room_setRoom found sameId, found]
    rfl
  · simp [Store.mark, record_setRoom]
  · rw [found] at missing
    cases missing

theorem Near.setState {state : BattleStateData}
    (kept : (store.states roomId).map BattleStateData.room = some state.room) :
    Near roomId store ((Cmd.setState roomId state).write store) := by
  refine ⟨rfl, fun written => ?_, fun _ => record_setState kept⟩
  simp only [Store.mark, record_setState kept]

theorem Near.markRoom (near : Near roomId before after)
    (state : BattleState) : after.markRoom roomId state = before.markRoom roomId state := by
  simp only [Store.markRoom, near.room, near.mark]
  split
  · rfl
  · rename_i missing
    exact near.record (Option.not_isSome_iff_eq_none.mp missing)

/-- After an error nobody is down, and only the state in the hash may have changed. Without an
error the battle was ended. -/
def Submits (roomId : RoomId) (store : Store) (down : Bool) :
    Store → Except RoomError Unit → Prop :=
  Handles (fun after _ => down = false ∧ Near roomId store after)
    fun after _ => down = true ∧ after.record = store.endRecord roomId

def Store.downs (store : Store) (roomId : RoomId) (userId : UserId)
    (battleState : BattleStateData) (damage : ℤ) : Bool :=
  (store.findParticipant roomId (battleState.opponentOf userId)).isSome &&
    (battleState.player (battleState.sideOf (battleState.opponentOf userId))).hp ≤ damage

theorem Submits.of_eq {down : Bool} {outcome : Except RoomError Unit}
    (rooms : store.rooms = before.rooms) (states : store.states = before.states)
    (submits : Submits roomId store down after outcome) :
    Submits roomId before down after outcome := by
  cases outcome with
  | error => exact ⟨submits.1, (Near.of_eq rooms states).trans submits.2⟩
  | ok =>
    refine ⟨submits.1, submits.2.trans ?_⟩
    have same : store.record = before.record := by
      funext other
      simp only [Store.record, rooms, states]
    simp only [Store.endRecord, Store.room, Store.mark, rooms, states, same]

theorem resumeBattle_submits (battleState : BattleStateData)
    (found : store.room roomId = some room) :
    (resumeBattle roomId battleState).run.Obeys (working judged) (Submits roomId store false)
      store := by
  refine obeys_bind_ok (updateBattleRoom_ends found _) (obeys_getNow fun now => ?_)
  rw [getTime_eq_throw]
  exact ⟨rfl, Near.setRoom found rfl⟩

theorem dealDamage_submits (powTen : ℚ → ℚ) (userId : UserId) (judgeResult : JudgeResult)
    (battleState : BattleStateData) (damage : ℤ) (found : store.room roomId = some room) :
    (dealDamage powTen roomId userId judgeResult battleState damage).run.Obeys (working judged)
      (Submits roomId store (store.downs roomId userId battleState damage)) store := by
  cases present : store.findParticipant roomId (battleState.opponentOf userId) with
  | none =>
    refine obeys_bind_error (updateParticipant_throws present _) ⟨?_, Near.refl⟩
    simp [Store.downs, present]
  | some =>
    refine obeys_bind_ok (updateParticipant_ends present _) ?_
    refine obeys_freshId fun id => obeys_getNow fun timestamp => ?_
    refine obeys_bind_ok (storeDamageLog_ends _) (obeys_bind_ok (publish_ends _ _) ?_)
    simp only [Store.downs, present, Option.isSome_some, Bool.true_and]
    split
    · rename_i noneLeft
      refine (endBattle_record powTen _).mono ?_
      rintro after _ ⟨rfl, ended⟩
      refine ⟨decide_eq_true ?_, ended⟩
      omega
    · rename_i someLeft
      rw [decide_eq_false (by omega)]
      refine (resumeBattle_submits _ (by exact found)).mono fun after outcome => ?_
      exact Submits.of_eq rfl rfl

theorem strike_submits (powTen : ℚ → ℚ) (userId : UserId) (judgeResult : JudgeResult)
    (battleState : BattleStateData) (found : store.room roomId = some room) :
    (strike powTen roomId userId judgeResult battleState).run.Obeys (working judged)
      (Submits roomId store (store.downs roomId userId battleState (damageOf judgeResult battleState
        userId (store.effects (.doubleDamage battleState.room.id userId))))) store := by
  refine obeys_bind_ok (calculateDamage_ends judgeResult battleState userId) ?_
  refine (dealDamage_submits powTen userId judgeResult battleState _ (by exact found)).mono ?_
  intro _ _
  exact Submits.of_eq rfl rfl

def knockoutState (startedAt : Option IsoText) : BattleState :=
  if startedAt.isSome then .judging else .ended

theorem endRecord_judging
    (near : Near roomId before store) (judging : store.record = before.mark roomId .judging)
    (foundRoom : store.room roomId = some room) (found : store.states roomId = some battleState) :
    store.endRecord roomId = before.markRoom roomId (knockoutState battleState.room.startedAt) := by
  have stored : (before.room roomId).isSome = true := by
    rw [← near.room, foundRoom]
    rfl
  simp only [Store.endRecord, foundRoom, found, Store.markRoom, stored, if_true, knockoutState]
  split
  · exact judging
  · exact near.mark .ended

/-- The judge answers, and the damage takes the last hit points of the opponent. -/
def Store.judgedDown (store : Store) (judged : Option JudgeResult) (roomId : RoomId)
    (userId : UserId) (battleState : BattleStateData) : Bool :=
  judged.any fun judgeResult => store.downs roomId userId battleState
    (damageOf judgeResult battleState userId
      (store.effects (.doubleDamage battleState.room.id userId)))

def Submitted (roomId : RoomId) (before : Store) (down : Bool) (startedAt : Option IsoText) :
    Store → Except RoomError Unit → Prop :=
  Handles (fun after _ => ((before.room roomId).isSome → down = false) ∧ Near roomId before after)
    fun after _ => down = true ∧ after.record = before.markRoom roomId (knockoutState startedAt)

theorem judge_submitted (powTen : ℚ → ℚ) (userId : UserId) (code language : String)
    (before : Store) (near : Near roomId before store)
    (judging : store.record = before.mark roomId .judging)
    (foundRoom : (store.room roomId).isSome) (found : store.states roomId = some battleState) :
    (do
      let judgeResult ← attempt toError (request (.judge code language battleState.puzzle))
      strike powTen roomId userId judgeResult battleState : Prog Unit).run.Obeys (working judged)
      (Submitted roomId before (store.judgedDown judged roomId userId battleState)
        battleState.room.startedAt) store := by
  rcases Option.isSome_iff_exists.mp foundRoom with ⟨_, isRoom⟩
  cases answers : judged with
  | none => exact obeys_bind_error (judge_throws code language _ rfl) ⟨fun _ => rfl, near⟩
  | some judgeResult =>
    refine obeys_bind_ok (judge_ends code language _ rfl) ?_
    refine (strike_submits powTen userId judgeResult battleState isRoom).mono ?_
    intro _ outcome submits
    cases outcome with
    | error => exact ⟨fun _ => submits.1, near.trans submits.2⟩
    | ok => exact ⟨submits.1, submits.2.trans (endRecord_judging near judging isRoom found)⟩

theorem submitted_room (battleState : BattleStateData) (userId : UserId) :
    (battleState.submitted userId).room = battleState.room := by
  simp only [BattleStateData.submitted, BattleStateData.setPlayer]
  split <;> rfl

/-- The user is found, and with the submission counted the opponent is knocked out. -/
def Store.knocksOut (store : Store) (judged : Option JudgeResult) (roomId : RoomId)
    (userId : UserId) (battleState : BattleStateData) : Bool :=
  (store.findParticipant roomId userId).any fun (participants, side) =>
    let counted := (Cmd.setParticipants roomId (participants.modify side
      ((battleState.submitted userId).player (battleState.sideOf userId)).replace)).write store
    counted.judgedDown judged roomId userId (battleState.submitted userId)

theorem submit_submitted (powTen : ℚ → ℚ) (userId : UserId) (code language : String)
    (found : store.states roomId = some battleState) :
    (submit powTen roomId userId code language battleState).run.Obeys (working judged)
      (Submitted roomId store (store.knocksOut judged roomId userId battleState)
        battleState.room.startedAt) store := by
  cases present : store.findParticipant roomId userId with
  | none =>
    refine obeys_bind_error (updateParticipant_throws present _) ⟨fun _ => ?_, Near.refl⟩
    simp [Store.knocksOut, present]
  | some among =>
    rcases among with ⟨_, _⟩
    refine obeys_bind_ok (updateParticipant_ends present _) ?_
    cases stored : store.room roomId with
    | none =>
      refine obeys_bind_error (updateBattleRoom_throws (by exact stored) _)
        ⟨fun isRoom => ?_, Near.of_eq rfl rfl⟩
      rw [stored] at isRoom
      cases isRoom
    | some room =>
      have kept : (store.states roomId).map BattleStateData.room =
          some (battleState.submitted userId).room := by
        rw [found, submitted_room]
        rfl
      simp only [Store.knocksOut, present, Option.any_some, ← submitted_room battleState userId]
      refine obeys_bind_ok (updateBattleRoom_ends (by exact stored) _) ?_
      refine obeys_bind_ok (updateBattleState_ends (by exact found) _) ?_
      refine obeys_bind_ok (publish_ends _ _) ?_
      refine judge_submitted powTen userId code language store ?_ ?_ ?_ ?_
      · have judging :=
          @Near.setRoom store roomId room { room with state := .judging } stored rfl
        exact (judging.trans (Near.setState (by exact kept))).trans (Near.of_eq rfl rfl)
      · have judging := record_setRoom store roomId { room with state := .judging }
        exact (record_setState (by exact kept)).trans judging
      · have marked :=
          @room_setRoom store roomId room { room with state := .judging } stored rfl
        exact Option.isSome_iff_exists.mpr ⟨_, marked⟩
      · exact update_self _ _ _

def Store.submissionState (store : Store) (judged : Option JudgeResult) (roomId : RoomId)
    (userId : UserId) : BattleState :=
  match store.states roomId with
  | none => .active
  | some battleState =>
    if battleState.room.state = .active ∧ store.knocksOut judged roomId userId battleState then
      knockoutState battleState.room.startedAt
    else .active

theorem handleSubmission_record (powTen : ℚ → ℚ) (userId : UserId) (code language : String) :
    (handleSubmission powTen roomId userId code language).run.Obeys (working judged)
      (fun after _ => after.record =
        store.markRoom roomId (store.submissionState judged roomId userId)) store := by
  refine obeys_tryCatch (obeys_bind_ok getBattleState_ends ?_)
  rw [Store.submissionState]
  cases found : store.states roomId with
  | none => exact updateBattleRoom_record fun _ => rfl
  | some battleState =>
    simp only
    by_cases active : battleState.room.state = .active
    · simp only [active, ne_eq, not_true, if_false, true_and]
      refine (submit_submitted powTen userId code language found).mono ?_
      intro after outcome submitted
      cases outcome with
      | ok =>
        rcases submitted with ⟨down, marked⟩
        rw [if_pos down]
        exact marked
      | error =>
        rcases submitted with ⟨standing, near⟩
        have resumed : after.markRoom roomId .active = store.markRoom roomId
            (if store.knocksOut judged roomId userId battleState then
              knockoutState battleState.room.startedAt else .active) := by
          rw [near.markRoom, Store.markRoom, Store.markRoom]
          split
          · rename_i isRoom
            rw [standing isRoom]
            rfl
          · rfl
        simp only [Handles, ← resumed]
        exact updateBattleRoom_record fun _ => rfl
    · simp only [active, ne_eq, not_false_eq_true, if_true, false_and, if_false]
      exact updateBattleRoom_record fun _ => rfl

end Effects

inductive Operation where
  | createBattleRoom (room : BattleRoom) (player1 player2 : Participant)
  | initializeBattle (roomId : RoomId) (puzzle : Problem)
  | startCountdown (roomId : RoomId)
  | startBattle (roomId : RoomId)
  | handleSubmission (roomId : RoomId) (userId : UserId) (code language : String)
  | endBattle (roomId : RoomId) (winnerId : Option UserId)
deriving DecidableEq, Repr

def Operation.program (powTen : ℚ → ℚ) : Operation → Prog Unit
  | .createBattleRoom room player1 player2 => Rooms.createBattleRoom room player1 player2
  | .initializeBattle roomId puzzle => Rooms.initializeBattle roomId puzzle
  | .startCountdown roomId => Rooms.startCountdown roomId
  | .startBattle roomId => Rooms.startBattle roomId
  | .handleSubmission roomId userId code language =>
    Rooms.handleSubmission powTen roomId userId code language
  | .endBattle roomId winnerId => Rooms.endBattle powTen roomId winnerId

def Operation.effect (judged : Option JudgeResult) (store : Store) :
    Operation → RoomId → Record
  | .createBattleRoom room _ _ =>
    update store.record room.id ⟨some room.state, some room.stringify⟩
  | .initializeBattle roomId _ => store.markBattle roomId .waiting
  | .startCountdown roomId => store.markRoom roomId .countdown
  | .startBattle roomId => store.markBattle roomId .active
  | .handleSubmission roomId userId _ _ =>
    store.markRoom roomId (store.submissionState judged roomId userId)
  | .endBattle roomId _ => store.endRecord roomId

structure Invocation where
  operation : Operation
  judged : Option JudgeResult
  choices : ℕ → Choice

def Invocation.perform (powTen : ℚ → ℚ) (invocation : Invocation) (store : Store) : Store :=
  (runWorking (invocation.operation.program powTen) invocation.judged invocation.choices store).2

theorem perform_record (powTen : ℚ → ℚ) (invocation : Invocation) (store : Store) :
    (invocation.perform powTen store).record =
      invocation.operation.effect invocation.judged store := by
  rcases invocation with ⟨operation, _, choices⟩
  cases operation with
  | createBattleRoom room player1 player2 =>
    exact runWorking_of_obeys (createBattleRoom_record room player1 player2) choices
  | initializeBattle _ puzzle =>
    exact runWorking_of_obeys (initializeBattle_record puzzle) choices
  | startCountdown => exact runWorking_of_obeys startCountdown_record choices
  | startBattle => exact (runWorking_of_obeys startBattle_record choices).2
  | handleSubmission _ userId code language =>
    exact runWorking_of_obeys (handleSubmission_record powTen userId code language) choices
  | endBattle _ winnerId =>
    exact (runWorking_of_obeys (endBattle_record powTen winnerId) choices).2

def Agree (records : RoomId → Record) : Prop :=
  ∀ roomId state room, records roomId = ⟨some state, some room⟩ → state = room.state

def Store.Has (store : Store) (roomId : RoomId) (state : BattleState) : Prop :=
  ∀ room battleState, store.room roomId = some room → store.states roomId = some battleState →
    battleState.room.state = state

/-- The state that the operation writes is the state of the document. -/
def Operation.Conforms (judged : Option JudgeResult) (store : Store) : Operation → Prop
  | .createBattleRoom _ _ _ => True
  | .initializeBattle roomId _ => store.Has roomId .waiting
  | .startCountdown roomId => store.Has roomId .countdown
  | .startBattle roomId => store.Has roomId .active
  | .handleSubmission roomId userId _ _ =>
    ∀ room battleState, store.room roomId = some room → store.states roomId = some battleState →
      battleState.room.state = .active ∧
        store.knocksOut judged roomId userId battleState = false
  | .endBattle roomId _ => ∀ room battleState, store.room roomId = some room →
      store.states roomId = some battleState →
        battleState.room.startedAt.isSome ∨ battleState.room.state = .ended

section Agreeing

variable {store : Store} {roomId : RoomId} {judged : Option JudgeResult}

theorem agree_mark_iff (agree : Agree store.record) (state : BattleState) :
    Agree (store.mark roomId state) ↔
      ∀ battleState, store.states roomId = some battleState → battleState.room.state = state := by
  constructor
  · intro agreeAfter battleState found
    have marked : store.mark roomId state roomId = ⟨some state, some battleState.room⟩ := by
      simp [Store.mark, Store.record, found]
    exact (agreeAfter roomId state battleState.room marked).symm
  · intro has other otherState room marked
    by_cases same : other = roomId
    · subst other
      simp only [Store.mark, update_self, Record.mk.injEq, Option.some.injEq,
        Store.record, Option.map_eq_some_iff] at marked
      rcases marked with ⟨rfl, battleState, found, rfl⟩
      exact (has battleState found).symm
    · rw [Store.mark, update_of_ne same] at marked
      exact agree other otherState room marked

theorem agree_markRoom_iff (agree : Agree store.record) (state : BattleState) :
    Agree (store.markRoom roomId state) ↔ store.Has roomId state := by
  rw [Store.markRoom, Store.Has]
  cases stored : store.room roomId with
  | none => simp [agree]
  | some room =>
    rw [Option.isSome_some, if_pos rfl, agree_mark_iff agree]
    exact ⟨fun has _ battleState _ => has battleState, fun has battleState => has room _ rfl⟩

theorem agree_markBattle_iff (agree : Agree store.record) (state : BattleState) :
    Agree (store.markBattle roomId state) ↔ store.Has roomId state := by
  rw [Store.markBattle]
  cases found : store.states roomId with
  | none => simp [Store.Has, agree, found]
  | some =>
    rw [Option.isSome_some, if_pos rfl]
    exact agree_markRoom_iff agree state

theorem knockoutState_ne_active (startedAt : Option IsoText) :
    knockoutState startedAt ≠ .active := by
  rw [knockoutState]
  split <;> decide

theorem submissionState_eq_iff {battleState : BattleStateData} (userId : UserId)
    (found : store.states roomId = some battleState) :
    battleState.room.state = store.submissionState judged roomId userId ↔
      battleState.room.state = .active ∧
        store.knocksOut judged roomId userId battleState = false := by
  simp only [Store.submissionState, found]
  by_cases active : battleState.room.state = .active
  · cases down : store.knocksOut judged roomId userId battleState with
    | false => simp [active]
    | true => simpa [active] using (knockoutState_ne_active battleState.room.startedAt).symm
  · simp [active]

theorem agree_effect_iff (agree : Agree store.record) (operation : Operation) :
    Agree (operation.effect judged store) ↔ operation.Conforms judged store := by
  cases operation with
  | createBattleRoom room =>
    refine iff_of_true ?_ trivial
    intro other state document recorded
    by_cases same : other = room.id
    · subst other
      simp only [Operation.effect, update_self, Record.mk.injEq,
        Option.some.injEq] at recorded
      rcases recorded with ⟨rfl, rfl⟩
      rfl
    · rw [Operation.effect, update_of_ne same] at recorded
      exact agree other state document recorded
  | initializeBattle => exact agree_markBattle_iff agree _
  | startCountdown => exact agree_markRoom_iff agree _
  | startBattle => exact agree_markBattle_iff agree _
  | handleSubmission _ userId =>
    refine (agree_markRoom_iff agree _).trans ⟨?_, ?_⟩
    · intro has room battleState foundRoom found
      exact (submissionState_eq_iff userId found).mp (has room battleState foundRoom found)
    · intro conforms room battleState foundRoom found
      exact (submissionState_eq_iff userId found).mpr (conforms room battleState foundRoom found)
  | endBattle roomId =>
    simp only [Operation.effect, Store.endRecord, Operation.Conforms]
    cases stored : store.room roomId with
    | none => simp [agree]
    | some =>
      cases found : store.states roomId with
      | none => simp [agree]
      | some battleState =>
        cases started : battleState.room.startedAt with
        | some => simp [agree, started]
        | none =>
          simp only [started, Option.isSome_none, Bool.false_eq_true, if_false,
            Option.some.injEq]
          exact (agree_mark_iff agree _).trans (by simp [found, started])

def Store.Accepts (store : Store) (roomId : RoomId) : Prop :=
  ∃ battleState, store.states roomId = some battleState ∧ battleState.room.state = .active

/-- The records agree after an operation, and a battle that it has started accepts submissions. -/
structure Sound (invocation : Invocation) (before after : Store) : Prop where
  agree : Agree after.record
  accepts : ∀ roomId, invocation.operation = .startBattle roomId →
    (before.room roomId).isSome → (before.states roomId).isSome → after.Accepts roomId

theorem sound_iff (powTen : ℚ → ℚ) (invocation : Invocation) (agree : Agree store.record) :
    Sound invocation store (invocation.perform powTen store) ↔
      invocation.operation.Conforms invocation.judged store := by
  have recorded := perform_record powTen invocation store
  rw [← agree_effect_iff agree, ← recorded]
  refine ⟨fun sound => sound.agree, fun agreeAfter => ⟨agreeAfter, ?_⟩⟩
  intro roomId isStart foundRoom found
  rw [recorded, agree_effect_iff agree, isStart] at agreeAfter
  rcases Option.isSome_iff_exists.mp foundRoom with ⟨room, isRoom⟩
  rcases Option.isSome_iff_exists.mp found with ⟨battleState, isState⟩
  have document := congrArg (fun records => (records roomId).document) recorded
  simp only [isStart, Operation.effect, Store.markBattle, Store.markRoom, Store.mark, foundRoom,
    Option.isSome_some, if_true, update_self, Store.record, isState, Option.map_some,
    Option.map_eq_some_iff] at document
  rcases document with ⟨last, isLast, sameRoom⟩
  refine ⟨last, isLast, ?_⟩
  rw [sameRoom]
  exact agreeAfter room battleState isRoom isState

end Agreeing

/--
In a sequence of operations that do not fail and do not overlap, the two records of every room
agree after each operation, and every battle that is started accepts submissions, exactly if each
operation writes the state that the document of its room has.
-/
theorem rooms_agree_iff (powTen : ℚ → ℚ) {store : Store} (agree : Agree store.record)
    (invocations : List Invocation) :
    Throughout (Invocation.perform powTen) Sound invocations store ↔
      Throughout (Invocation.perform powTen) (fun invocation before _ =>
        invocation.operation.Conforms invocation.judged before) invocations store :=
  throughout_iff (fun store => Agree store.record)
    (fun invocation _ agree => sound_iff powTen invocation agree) (fun _ _ _ sound => sound.agree)
    agree invocations

theorem emptyStore_agree : Agree emptyStore.record := by
  intro _ _ _ recorded
  cases recorded

def atNoon (operation : Operation) : Invocation where
  operation := operation
  judged := some ⟨1, 2, none⟩
  choices _ := ⟨43200000, false, "id", 0, none, []⟩

def createAndStart (state : BattleState) : List Invocation :=
  [atNoon (.createBattleRoom (sampleRoom state) (samplePlayer "ann") (samplePlayer "bob")),
    atNoon (.startBattle "room")]

def performAll (powTen : ℚ → ℚ) (invocations : List Invocation) (store : Store) : Store :=
  invocations.foldl (fun store invocation => invocation.perform powTen store) store

/-- A battle that was created to wait is active in the hash and waiting in the document. -/
theorem started_battle_is_waiting :
    ((performAll (fun _ => 1) (createAndStart .waiting) emptyStore).rooms "room").map Room.state =
        some .active ∧
      ((performAll (fun _ => 1) (createAndStart .waiting) emptyStore).states "room").map
        (fun battleState => battleState.room.state) = some .waiting := by
  refine ⟨?_, ?_⟩ <;> decide +kernel

theorem active_room_stays_sound :
    Throughout (Invocation.perform fun _ => 1) Sound
      (createAndStart .active ++ [atNoon (.handleSubmission "room" "ann" "code" "python")])
      emptyStore := by
  refine (rooms_agree_iff _ emptyStore_agree _).mpr ⟨trivial, ?_, ?_, trivial⟩
  · intro room battleState foundRoom found
    have active : ((performAll (fun _ => 1) ((createAndStart .active).take 1)
        emptyStore).states "room").map (fun found => found.room.state) = some .active := by
      decide +kernel
    exact Option.some.inj ((congrArg (Option.map _) found).symm.trans active)
  · intro room _ _ found
    have passes : ((performAll (fun _ => 1) (createAndStart .active) emptyStore).states
        "room").map (fun found => (found.room.state,
          (performAll (fun _ => 1) (createAndStart .active) emptyStore).knocksOut
            (some ⟨1, 2, none⟩) "room" "ann" found)) = some (.active, false) := by
      decide +kernel
    have values := Option.some.inj ((congrArg (Option.map _) found).symm.trans passes)
    exact Prod.mk.inj values

def Operation.creates (roomId : RoomId) : Operation → Bool
  | .createBattleRoom room _ _ => room.id = roomId
  | _ => false

section Idle

variable {powTen : ℚ → ℚ} {store : Store} {roomId : RoomId} {judged : Option JudgeResult}

end Idle

end CodeClash.Rooms
