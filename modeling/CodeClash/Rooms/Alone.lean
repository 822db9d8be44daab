import CodeClash.Rooms.Agreement
import Mathlib.Tactic.Positivity

/-!
# Calls that run alone while commands may fail

The `n`th command of a call that runs alone fails or not as the `n`th choice says. A submission that
finds no active battle ends in the handler of its error, which makes the room active. A forfeit
passes a winner on to `endBattle`, and that is the second player whoever forfeits.
-/

namespace CodeClash.Rooms

open Async Throwing

def runAlone {α : Type} (program : Prog α) (choices : ℕ → Choice) (store : Store) :
    Except RoomError α × Store :=
  program.run.run handle (fun _ store => store) choices store

/-- What a call sees when it runs alone: the number of the next command, and the store. -/
abbrev alone (choices : ℕ → Choice) : Protocol signature (ℕ × Store) :=
  Program.scheduled handle choices

section Rules

variable {α : Type} {choices : ℕ → Choice} {store : Store} {n : ℕ} {roomId : RoomId}

theorem getBattleState_alone :
    (getBattleState roomId).run.Obeys (alone choices)
      (Ends (outcome .rejected (choices n).fails (store.states roomId)) (n + 1, store))
      (n, store) :=
  attempt_scheduled .rejected rfl (ite_self store)

theorem getBattleRoom_alone :
    (getBattleRoom roomId).run.Obeys (alone choices)
      (Ends (outcome .rejected (choices n).fails (store.room roomId)) (n + 1, store))
      (n, store) := by
  refine issue_scheduled ?_ (ite_self store)
  simp only [handle, reply, answer, outcome]
  cases (choices n).fails <;> rfl

theorem getDamageLogs_alone :
    (attempt toError (request (.getDamageLogs roomId)) : Prog (List DamageLog)).run.Obeys
      (alone choices)
      (Ends (outcome .rejected (choices n).fails (store.damageLogs roomId)) (n + 1, store))
      (n, store) :=
  attempt_scheduled .rejected rfl (ite_self store)

theorem setRoom_alone (room : BattleRoom) :
    (setRoom roomId room).run.Obeys (alone choices)
      (Ends (outcome .rejected (choices n).fails ()) (n + 1, if (choices n).fails then store
        else (Cmd.setRoom roomId room).write store)) (n, store) :=
  attempt_scheduled .rejected rfl rfl

theorem publish_alone (channel : String) (message : Message) :
    (publish channel message).run.Obeys (alone choices)
      (Ends (outcome .rejected (choices n).fails ()) (n + 1, if (choices n).fails then store
        else (Cmd.publish channel message).write store)) (n, store) :=
  attempt_scheduled .rejected rfl rfl

theorem obeys_bind_updateBattleRoom {room : BattleRoom} {updates : BattleRoom → BattleRoom}
    {post : ℕ × Store → Except RoomError α → Prop} {next : Unit → Prog α}
    (stored : store.room roomId = some room)
    (failed : ∀ m, (choices n).fails ∨ (choices (n + 1)).fails → post (m, store) (.error .rejected))
    (rest : (choices n).fails = false → (choices (n + 1)).fails = false →
      (next ()).run.Obeys (alone choices) post
        (n + 2, (Cmd.setRoom roomId (updates room)).write store)) :
    (updateBattleRoom roomId updates >>= next).run.Obeys (alone choices) post (n, store) := by
  refine obeys_bind (obeys_bind_outcome getBattleRoom_alone ?_ fun readable => ?_)
  · intro unreadable
    exact failed _ (Or.inl unreadable)
  · rw [stored]
    refine (setRoom_alone (updates room)).mono ?_
    rintro _ _ ⟨rfl, rfl⟩
    cases writable : (choices (n + 1)).fails with
    | true => exact failed _ (Or.inr writable)
    | false => exact rest readable writable

theorem stopTimers_alone :
    (ask (request (.stopTimers roomId)) : Prog Unit).run.Obeys (alone choices)
      (Ends (.ok ()) (n + 1, store)) (n, store) :=
  issue_scheduled rfl (ite_self store)

theorem getNow_alone :
    getNow.run.Obeys (alone choices) (Ends (.ok (choices n).now) (n + 1, store)) (n, store) :=
  issue_scheduled rfl (ite_self store)

end Rules

section Rejection

variable {powTen : ℚ → ℚ} {choices : ℕ → Choice} {store : Store} {roomId : RoomId}

def FindsActive (choices : ℕ → Choice) (store : Store) (roomId : RoomId) : Prop :=
  (choices 0).fails = false ∧ store.Accepts roomId

/-- The handler of the error does not get to change the state of the room. -/
def Untouched (choices : ℕ → Choice) (store : Store) (roomId : RoomId) : Prop :=
  (choices 1).fails ∨ (choices 2).fails ∨ store.room roomId = none ∨
    (store.record roomId).state = some .active

theorem mark_eq_record_iff (state : BattleState) :
    store.mark roomId state = store.record ↔ (store.record roomId).state = some state := by
  rw [Store.mark, Function.update_eq_self_iff]
  exact ⟨fun same => (congrArg Record.state same).symm, fun same => by rw [← same]⟩

theorem activate_record :
    LeadsTo handle choices (fun after => after.record = store.record ↔
        Untouched choices store roomId)
      (updateBattleRoom roomId fun room => { room with state := .active }) (1, store) := by
  refine obeys_bind_outcome getBattleRoom_alone ?_ fun readable => ?_
  · intro failed
    exact iff_of_true rfl (Or.inl failed)
  · cases stored : store.room roomId with
    | none => exact iff_of_true rfl (Or.inr (Or.inr (Or.inl stored)))
    | some =>
      refine (setRoom_alone _).mono ?_
      rintro _ _ ⟨_, rfl⟩
      cases failed : (choices 2).fails with
      | true => exact iff_of_true (by simp) (Or.inr (Or.inl failed))
      | false =>
        simp [failed, record_setRoom, mark_eq_record_iff, Untouched, readable, stored]

/--
A submission that does not find an active battle leaves the states in both records exactly if the
handler of its error fails, finds no room or finds one that is active.
-/
theorem rejected_submission_iff (powTen : ℚ → ℚ) (userId : UserId) (code language : String)
    (rejected : ¬FindsActive choices store roomId) :
    (runAlone (handleSubmission powTen roomId userId code language) choices store).2.record =
        store.record ↔
      Untouched choices store roomId := by
  suffices leads : LeadsTo handle choices (fun after => after.record = store.record ↔
      Untouched choices store roomId) (handleSubmission powTen roomId userId code language)
      (0, store) from leads.run
  refine obeys_tryCatch (obeys_bind_outcome getBattleState_alone ?_ ?_)
  · intro _
    exact activate_record
  · intro readable
    cases found : store.states roomId with
    | none => exact activate_record
    | some battleState =>
      have notActive : battleState.room.state ≠ .active := by
        intro active
        exact rejected ⟨readable, battleState, found, active⟩
      simp only [ne_eq, notActive, not_false_eq_true, if_true]
      exact activate_record

def storedBattle (state : BattleState) : Store :=
  { emptyStore with
    rooms := fun _ => some (sampleRoom state)
    states := fun _ => some ⟨(sampleRoom state).stringify, samplePlayer "ann", samplePlayer "bob",
      none, 900000, "ann"⟩ }

def failingAt (fails : ℕ → Bool) (n : ℕ) : Choice := ⟨43200000, fails n, "id", 0, none, []⟩

/-- A submission to a battle that has ended starts it again. -/
theorem ended_room_becomes_active :
    ((storedBattle .ended).record "room").state = some .ended ∧
      ((runAlone (handleSubmission (fun _ => 1) "room" "ann" "code" "python")
        (failingAt fun _ => false) (storedBattle .ended)).2.record "room").state =
          some .active := by
  refine ⟨?_, ?_⟩ <;> decide +kernel

theorem ended_room_survives_failure :
    (runAlone (handleSubmission (fun _ => 1) "room" "ann" "code" "python")
      (failingAt fun n => n = 2) (storedBattle .ended)).2.record =
        (storedBattle .ended).record := by
  refine (rejected_submission_iff _ _ _ _ ?_).mpr (Or.inr (Or.inl rfl))
  rintro ⟨_, _, ⟨⟩, ⟨⟩⟩

end Rejection

def Reports (before after : Store) (roomId : RoomId) (stats : BattleStats) : Prop :=
  ∃ others, after.published =
    before.published ++ (channel roomId "end", .ended stats) :: others

/-- The battle has ended, and one player is reported to have lost to the other. -/
structure LosesTo (before after : Store) (roomId : RoomId) (loser winner : UserId) : Prop where
  ended : (after.record roomId).state = some .ended
  reported : ∃ stats, Reports before after roomId stats ∧ stats.winner = winner ∧
    stats.loser = loser ∧ 0 ≤ stats.eloChange.winner ∧
      stats.eloChange.loser = -stats.eloChange.winner

structure Seated (store : Store) (roomId : RoomId) (room : BattleRoom)
    (battleState : BattleStateData) : Prop where
  stored : store.room roomId = some room
  found : store.states roomId = some battleState
  first : battleState.player1.userId = room.player1Id
  second : battleState.player2.userId = room.player2Id
  distinct : room.player1Id ≠ room.player2Id
  named : room.player2Id ≠ ""

def BattleRoom.opponentOf (room : BattleRoom) (userId : UserId) : UserId :=
  if userId = room.player1Id then room.player2Id else room.player1Id

section Forfeit

variable {powTen : ℚ → ℚ} {choices : ℕ → Choice} {store after : Store} {roomId : RoomId}
  {room : BattleRoom} {battleState : BattleStateData} {n : ℕ}

theorem Reports.unique {first second : BattleStats} (one : Reports store after roomId first)
    (other : Reports store after roomId second) : first = second := by
  rcases one with ⟨_, published⟩
  rcases other with ⟨_, publishedToo⟩
  have same := List.append_cancel_left (published.symm.trans publishedToo)
  simp only [List.cons.injEq, Prod.mk.injEq, Message.ended.injEq, true_and] at same
  exact same.1

theorem not_reports (silent : after.published = store.published) (stats : BattleStats) :
    ¬Reports store after roomId stats := by
  rintro ⟨_, published⟩
  simp [silent] at published

theorem eloChange_winner_nonneg (positive : ∀ x, 0 < powTen x) (winnerId loserId : UserId)
    (battleState : BattleStateData) :
    0 ≤ (calculateEloChange powTen winnerId loserId battleState).winner := by
  simp only [calculateEloChange]
  generalize ratio : powTen _ = power
  have powerPositive : 0 < power := ratio ▸ positive _
  have score : 1 / (1 + power) ≤ 1 := by
    rw [div_le_one (by positivity)]
    exact le_add_of_nonneg_right powerPositive.le
  rw [round_eq]
  exact Int.floor_nonneg.mpr (by linarith)

/-- Nothing stops the end of a battle before it is reported. The `n`th command is the first. -/
def Unhindered (choices : ℕ → Choice) (n : ℕ) (battleState : BattleStateData) : Prop :=
  battleState.room.startedAt = none ∧ (choices (n + 1)).fails = false ∧
    (choices (n + 3)).fails = false ∧ (choices (n + 4)).fails = false ∧
      (choices (n + 5)).fails = false

structure Concluded (powTen : ℚ → ℚ) (before : Store) (roomId : RoomId)
    (battleState : BattleStateData) (winnerId : UserId) (after : Store) : Prop where
  ended : (after.record roomId).state = some .ended
  reported : ∃ stats, Reports before after roomId stats ∧ stats.winner = winnerId ∧
    stats.loser = battleState.opponentOf winnerId ∧ stats.eloChange =
      calculateEloChange powTen winnerId (battleState.opponentOf winnerId) battleState

/-- The battle is concluded, or nothing is published, and which of them a condition says. -/
def ConcludedIf (condition : Prop) (powTen : ℚ → ℚ) (before : Store) (roomId : RoomId)
    (battleState : BattleStateData) (winnerId : UserId) (after : Store) : Prop :=
  (¬condition ∧ after.published = before.published) ∨
    condition ∧ Concluded powTen before roomId battleState winnerId after

def Cmd.Notifies : Cmd → Prop
  | .publish _ _ | .awardSpells _ _ | .startTimer _ => True
  | _ => False

variable {winnerId : UserId}

theorem Concluded.notify {cmd : Cmd} (choice : Choice) (notifies : cmd.Notifies)
    (concluded : Concluded powTen store roomId battleState winnerId after) :
    Concluded powTen store roomId battleState winnerId (handle cmd choice after).2 := by
  rcases concluded with ⟨ended, stats, ⟨others, published⟩, isStats⟩
  rw [handle]
  cases choice.fails with
  | true => exact ⟨ended, stats, ⟨others, published⟩, isStats⟩
  | false =>
    cases cmd with
    | publish channel message =>
      refine ⟨ended, stats, ⟨others ++ [(channel, message)], ?_⟩, isStats⟩
      simp [Cmd.write, published]
    | awardSpells => exact ⟨ended, stats, ⟨others, published⟩, isStats⟩
    | startTimer => exact ⟨ended, stats, ⟨others, published⟩, isStats⟩
    | _ => exact notifies.elim

theorem publishUnlocks_notifies (unlocks : List SpellUnlock) :
    (publishUnlocks unlocks).run.Uses Cmd.Notifies := by
  induction unlocks with
  | nil => trivial
  | cons _ _ ih =>
    exact uses_bind (uses_attempt (Program.uses_perform (by exact trivial))) fun _ => ih

theorem recordEnd_alone (winnerId : UserId) (stored : store.room roomId = some room) :
    LeadsTo handle choices (ConcludedIf (Unhindered choices n battleState) powTen store roomId
      battleState winnerId) (recordEnd powTen roomId battleState winnerId) (n, store) := by
  refine obeys_bind_ok stopTimers_alone ?_
  cases started : battleState.room.startedAt with
  | some startedAt =>
    have throws : (duration (some startedAt)).run.Obeys (alone choices)
        (Ends (.error .typeError) (n + 2, store)) (n + 1, store) :=
      obeys_bind_ok getNow_alone ⟨rfl, rfl⟩
    refine obeys_bind_error throws (Or.inl ⟨?_, rfl⟩)
    simp [Unhindered, started]
  | none =>
    have isZero : (duration none).run.Obeys (alone choices) (Ends (.ok 0) (n + 1, store))
        (n + 1, store) := ⟨rfl, rfl⟩
    refine obeys_bind_ok isZero (obeys_bind_outcome getDamageLogs_alone ?_ fun logged => ?_)
    · intro failed
      refine Or.inl ⟨?_, rfl⟩
      simp [Unhindered, failed]
    refine obeys_bind_ok getNow_alone (obeys_bind_updateBattleRoom stored ?_ ?_)
    · intro _ failed
      refine Or.inl ⟨?_, rfl⟩
      rintro ⟨_, _, readable, writable, _⟩
      simp [readable, writable] at failed
    intro readable writable
    refine obeys_bind_outcome (publish_alone _ _) ?_ fun published => ?_
    · intro failed
      refine Or.inl ⟨?_, by simp [failed, Cmd.write]⟩
      simp [Unhindered, failed]
    simp only [published, Bool.false_eq_true, if_false]
    have unhindered : Unhindered choices n battleState :=
      ⟨started, logged, readable, writable, published⟩
    refine Program.Obeys.mono ?_ fun _ _ concluded => Or.inr ⟨unhindered, concluded⟩
    refine leadsTo_of_uses ?_ (fun _ notifies choice _ concluded =>
      concluded.notify choice notifies) ⟨?_, _, ⟨[], rfl⟩, rfl, rfl, rfl⟩
    · refine uses_bind (uses_ask (Program.uses_perform (by exact trivial))) fun _ => ?_
      refine uses_bind (publishUnlocks_notifies _) fun _ => ?_
      exact uses_ask (Program.uses_perform (by exact trivial))
    · rw [record_write (by exact trivial), record_setRoom]
      simp [Store.mark]

theorem endBattle_alone {passedOn : Option UserId}
    (isWinner : winnerOf battleState passedOn = winnerId) (stored : store.room roomId = some room)
    (found : store.states roomId = some battleState) :
    LeadsTo handle choices
      (ConcludedIf ((choices n).fails = false ∧ Unhindered choices (n + 1) battleState) powTen
        store roomId battleState winnerId) (endBattle powTen roomId passedOn) (n, store) := by
  refine obeys_tryCatch_pure (obeys_bind_outcome getBattleState_alone ?_ fun readable => ?_) ()
  · intro failed
    refine Or.inl ⟨?_, rfl⟩
    simp [failed]
  · simp only [found, isWinner, readable, true_and]
    exact recordEnd_alone winnerId stored

section Seated

variable (seated : Seated store roomId room battleState)

include seated

theorem Seated.winnerOf_eq :
    winnerOf battleState (some room.player2Id) = room.player2Id := by
  simp [winnerOf, Option.filter, seated.named]

theorem Seated.opponentOf_eq : battleState.opponentOf room.player2Id = room.player1Id := by
  simp [BattleStateData.opponentOf, seated.first, seated.distinct]

theorem forfeit_first :
    ConcludedIf ((choices 0).fails = false ∧ (choices 1).fails = false ∧
        (choices 2).fails = false ∧ Unhindered choices 3 battleState) powTen store roomId
      battleState room.player2Id
      (runAlone (handleForfeit powTen roomId room.player1Id) choices store).2 := by
  refine LeadsTo.run (obeys_tryCatch_pure ?_ ())
  refine obeys_bind (obeys_bind_outcome getBattleRoom_alone ?_ fun readable => ?_)
  · intro failed
    refine Or.inl ⟨?_, rfl⟩
    simp [failed]
  simp only [seated.stored, Option.map_some, if_true]
  refine obeys_bind_outcome getBattleRoom_alone ?_ fun readableAgain => ?_
  · intro failed
    refine Or.inl ⟨?_, rfl⟩
    simp [failed]
  simp only [readable, readableAgain, true_and, seated.stored, Option.map_some]
  exact endBattle_alone seated.winnerOf_eq seated.stored seated.found

theorem forfeit_second :
    ConcludedIf ((choices 0).fails = false ∧ (choices 1).fails = false ∧
        Unhindered choices 2 battleState) powTen store roomId battleState room.player2Id
      (runAlone (handleForfeit powTen roomId room.player2Id) choices store).2 := by
  refine LeadsTo.run (obeys_tryCatch_pure ?_ ())
  refine obeys_bind (obeys_bind_outcome getBattleRoom_alone ?_ fun readable => ?_)
  · intro failed
    refine Or.inl ⟨?_, rfl⟩
    simp [failed]
  simp only [seated.stored, Option.map_some, Option.some.injEq, seated.distinct, if_false,
    readable, true_and]
  exact endBattle_alone seated.winnerOf_eq seated.stored seated.found

theorem losesTo_of_concluded (positive : ∀ x, 0 < powTen x)
    (concluded : Concluded powTen store roomId battleState room.player2Id after) :
    LosesTo store after roomId room.player1Id room.player2Id := by
  rcases concluded with ⟨ended, stats, reported, isWinner, isLoser, isChange⟩
  refine ⟨ended, stats, reported, isWinner, isLoser.trans seated.opponentOf_eq, ?_, ?_⟩
  · rw [isChange]
    exact eloChange_winner_nonneg positive _ _ _
  · rw [isChange]
    rfl

theorem not_losesTo_second {condition : Prop}
    (concluded : ConcludedIf condition powTen store roomId battleState room.player2Id after) :
    ¬LosesTo store after roomId room.player2Id room.player1Id := by
  rintro ⟨_, stats, reported, isWinner, _⟩
  rcases concluded with ⟨_, silent⟩ | ⟨_, _, _, reportedActual, isActual, _⟩
  · exact not_reports silent stats reported
  · rw [reported.unique reportedActual, isActual] at isWinner
    exact seated.distinct isWinner.symm

end Seated

/--
A player who forfeits loses to the other one exactly if it is the first player, the document has
no start and none of the commands up to the report fails.
-/
theorem forfeit_loses_iff (positive : ∀ x, 0 < powTen x)
    (seated : Seated store roomId room battleState) {userId : UserId}
    (isPlayer : userId = room.player1Id ∨ userId = room.player2Id) :
    LosesTo store (runAlone (handleForfeit powTen roomId userId) choices store).2 roomId userId
        (room.opponentOf userId) ↔
      userId = room.player1Id ∧ battleState.room.startedAt = none ∧
        ∀ n ∈ [0, 1, 2, 4, 6, 7, 8], (choices n).fails = false := by
  rcases isPlayer with rfl | rfl
  · rw [BattleRoom.opponentOf, if_pos rfl]
    rcases @forfeit_first powTen choices store roomId room battleState seated with
      ⟨hindered, silent⟩ | ⟨⟨first, second, third, started, works⟩, concluded⟩
    · refine iff_of_false ?_ ?_
      · rintro ⟨_, stats, reported, _⟩
        exact not_reports silent stats reported
      · rintro ⟨_, started, works⟩
        simp only [List.forall_mem_cons] at works
        exact hindered (by simp [Unhindered, started, works])
    · refine iff_of_true (losesTo_of_concluded seated positive concluded) ⟨rfl, started, ?_⟩
      simp [first, second, third, works]
  · rw [BattleRoom.opponentOf, if_neg (Ne.symm seated.distinct)]
    refine iff_of_false (not_losesTo_second seated (forfeit_second seated)) ?_
    rintro ⟨same, _⟩
    exact seated.distinct same.symm

end Forfeit

theorem storedBattle_seated (state : BattleState) :
    Seated (storedBattle state) "room" (sampleRoom state)
      ⟨(sampleRoom state).stringify, samplePlayer "ann", samplePlayer "bob", none, 900000,
        "ann"⟩ :=
  ⟨rfl, rfl, rfl, rfl, by simp [sampleRoom], by simp [sampleRoom]⟩

theorem first_player_loses :
    LosesTo (storedBattle .active) (runAlone (handleForfeit (fun _ => 1) "room" "ann")
      (failingAt fun _ => false) (storedBattle .active)).2 "room" "ann" "bob" :=
  (forfeit_loses_iff (fun _ => one_pos) (storedBattle_seated .active) (Or.inl rfl)).mpr
    ⟨rfl, rfl, fun _ _ => rfl⟩

/-- The second player forfeits and wins. -/
theorem second_player_wins :
    ∃ stats, Reports (storedBattle .active) (runAlone (handleForfeit (fun _ => 1) "room" "bob")
        (failingAt fun _ => false) (storedBattle .active)).2 "room" stats ∧
      stats.winner = "bob" ∧ stats.loser = "ann" :=
  ⟨_, ⟨[], rfl⟩, rfl, rfl⟩

end CodeClash.Rooms
