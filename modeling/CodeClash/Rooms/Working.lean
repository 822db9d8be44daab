import CodeClash.Rooms.Service

/-!
# Operations on rooms when nothing fails

An operation that runs alone while Redis works knows the store at every command. The protocol
`working` has the store as its phase and takes the answer of the judge as given. The rules say how a
function ends and in which store.
-/

namespace CodeClash.Rooms

open Async Throwing

def Store.room (store : Store) (roomId : RoomId) : Option BattleRoom :=
  (store.rooms roomId).filter fun room => room.id ≠ ""

/-- What an operation sees of the store when it runs alone and nothing but the judge fails. -/
def working (judged : Option JudgeResult) : Protocol signature Store where
  allows _ _ := True
  expects store cmd answer := ∃ choice : Choice, choice.fails = false ∧ choice.judge = judged ∧
    answer = reply choice store cmd
  after store cmd _ := cmd.write store

def workingChoices (judged : Option JudgeResult) (choices : ℕ → Choice) (n : ℕ) : Choice :=
  { choices n with fails := false, judge := judged }

def runWorking {α : Type} (program : Prog α) (judged : Option JudgeResult) (choices : ℕ → Choice)
    (store : Store) : Except RoomError α × Store :=
  program.run.run handle (fun _ store => store) (workingChoices judged choices) store

theorem handle_working (judged : Option JudgeResult) (choices : ℕ → Choice) (n : ℕ) (cmd : Cmd)
    (store : Store) :
    (working judged).expects store cmd (handle cmd (workingChoices judged choices n) store).1 ∧
      (handle cmd (workingChoices judged choices n) store).2 = (working judged).after store cmd
        (handle cmd (workingChoices judged choices n) store).1 :=
  ⟨⟨workingChoices judged choices n, rfl, rfl, rfl⟩, rfl⟩

theorem runWorking_of_obeys {α : Type} {program : Prog α} {judged : Option JudgeResult}
    {store : Store} {post : Store → Except RoomError α → Prop}
    (obeys : program.run.Obeys (working judged) post store) (choices : ℕ → Choice) :
    post (runWorking program judged choices store).2
      (runWorking program judged choices store).1 := by
  have obeysAll : program.run.Obeys (working judged) post (id store) := obeys
  exact obeysAll.run_alone fun n cmd store _ => handle_working judged choices n cmd store

section Rules

variable {judged : Option JudgeResult} {store : Store} {roomId : RoomId} {α : Type}

theorem issue_ends {cmd : Cmd} {next : cmd.Reply → Program signature (Except RoomError α)}
    {outcome : Except RoomError α}
    (answered : ∀ choice : Choice,
      next (reply { choice with fails := false, judge := judged } store cmd) = .done outcome) :
    (.issue cmd next : Program signature (Except RoomError α)).Obeys (working judged)
      (Ends outcome (cmd.write store)) store := by
  refine ⟨trivial, ?_⟩
  rintro _ ⟨choice, works, isJudged, rfl⟩
  have isWorking : { choice with fails := false, judge := judged } = choice := by
    rw [← works, ← isJudged]
  have ended := answered choice
  rw [isWorking] at ended
  rw [ended]
  exact ⟨rfl, rfl⟩

variable {post : Store → Except RoomError α → Prop} {userId : UserId}

theorem obeys_getNow {next : ℤ → Prog α}
    (later : ∀ now, (next now).run.Obeys (working judged) post store) :
    (getNow >>= next).run.Obeys (working judged) post store :=
  ⟨trivial, fun now _ => later now⟩

theorem obeys_freshId {next : String → Prog α}
    (later : ∀ id, (next id).run.Obeys (working judged) post store) :
    (ask (request .freshId) >>= next).run.Obeys (working judged) post store :=
  ⟨trivial, fun id _ => later id⟩

theorem stopTimers_ends :
    (ask (request (.stopTimers roomId)) : Prog Unit).run.Obeys (working judged)
      (Ends (.ok ()) store) store :=
  issue_ends fun _ => rfl

theorem getDamageLogs_ends :
    (attempt toError (request (.getDamageLogs roomId)) : Prog (List DamageLog)).run.Obeys
      (working judged) (Ends (.ok (store.damageLogs roomId)) store) store :=
  issue_ends fun _ => rfl

theorem judge_ends {judgeResult : JudgeResult} (code language : String) (puzzle : Option Problem)
    (answers : judged = some judgeResult) :
    (attempt toError (request (.judge code language puzzle)) : Prog JudgeResult).run.Obeys
      (working judged) (Ends (.ok judgeResult) store) store := by
  rw [answers]
  exact issue_ends fun _ => rfl

theorem judge_throws (code language : String) (puzzle : Option Problem) (fails : judged = none) :
    (attempt toError (request (.judge code language puzzle)) : Prog JudgeResult).run.Obeys
      (working judged) (Ends (.error .rejected) store) store := by
  rw [fails]
  exact issue_ends fun _ => rfl

theorem storeDamageLog_ends (damageLog : DamageLog) :
    (storeDamageLog roomId damageLog).run.Obeys (working judged)
      (Ends (.ok ()) ((Cmd.pushDamageLog roomId damageLog).write store)) store := by
  have pushed : (attempt toError (request (.pushDamageLog roomId damageLog)) : Prog Unit).run.Obeys
      (working judged) (Ends (.ok ()) ((Cmd.pushDamageLog roomId damageLog).write store))
      store :=
    issue_ends fun _ => rfl
  exact obeys_bind_ok pushed (issue_ends fun _ => rfl)

theorem getTime_eq_throw (startedAt : Option IsoText) : getTime startedAt = throw .typeError := by
  cases startedAt <;> rfl

theorem duration_throws (startedAt : IsoText) :
    (duration (some startedAt)).run.Obeys (working judged) (Ends (.error .typeError) store)
      store :=
  obeys_getNow fun _ => ⟨rfl, rfl⟩

theorem getBattleState_ends :
    (getBattleState roomId).run.Obeys (working judged) (Ends (.ok (store.states roomId)) store)
      store :=
  issue_ends fun _ => rfl

theorem getBattleRoom_ends :
    (getBattleRoom roomId).run.Obeys (working judged) (Ends (.ok (store.room roomId)) store)
      store :=
  issue_ends fun _ => rfl

theorem getBattleParticipants_ends :
    (getBattleParticipants roomId).run.Obeys (working judged)
      (Ends (.ok (store.participants roomId)) store) store :=
  issue_ends fun _ => rfl

theorem setRoom_ends (room : BattleRoom) :
    (setRoom roomId room).run.Obeys (working judged)
      (Ends (.ok ()) ((Cmd.setRoom roomId room).write store)) store :=
  issue_ends fun _ => rfl

theorem setState_ends (state : BattleStateData) :
    (setState roomId state).run.Obeys (working judged)
      (Ends (.ok ()) ((Cmd.setState roomId state).write store)) store :=
  issue_ends fun _ => rfl

theorem setParticipants_ends (participants : Participants) :
    (setParticipants roomId participants).run.Obeys (working judged)
      (Ends (.ok ()) ((Cmd.setParticipants roomId participants).write store)) store :=
  issue_ends fun _ => rfl

theorem publish_ends (channel : String) (message : Message) :
    (publish channel message).run.Obeys (working judged)
      (Ends (.ok ()) ((Cmd.publish channel message).write store)) store :=
  issue_ends fun _ => rfl

theorem updateBattleRoom_ends {room : BattleRoom} (found : store.room roomId = some room)
    (updates : BattleRoom → BattleRoom) :
    (updateBattleRoom roomId updates).run.Obeys (working judged)
      (Ends (.ok ()) ((Cmd.setRoom roomId (updates room)).write store)) store := by
  refine obeys_bind_ok getBattleRoom_ends ?_
  rw [found]
  exact setRoom_ends (updates room)

theorem updateBattleRoom_throws (missing : store.room roomId = none)
    (updates : BattleRoom → BattleRoom) :
    (updateBattleRoom roomId updates).run.Obeys (working judged)
      (Ends (.error .battleRoomNotFound) store) store := by
  refine obeys_bind_ok getBattleRoom_ends ?_
  rw [missing]
  exact ⟨rfl, rfl⟩

theorem updateBattleState_ends {current : BattleStateData}
    (found : store.states roomId = some current) (state : BattleStateData) :
    (updateBattleState roomId state).run.Obeys (working judged)
      (Ends (.ok ()) ((Cmd.setState roomId state).write store)) store := by
  refine obeys_bind_ok getBattleState_ends ?_
  rw [found]
  exact setState_ends state

def Store.findParticipant (store : Store) (roomId : RoomId) (userId : UserId) :
    Option (Participants × Side) :=
  (store.participants roomId).bind fun participants =>
    (participants.findSide userId).map fun side => (participants, side)

theorem updateParticipant_ends {participants : Participants} {side : Side}
    (found : store.findParticipant roomId userId = some (participants, side))
    (updates : Participant → Participant) :
    (updateParticipant roomId userId updates).run.Obeys (working judged) (Ends (.ok ())
        ((Cmd.setParticipants roomId (participants.modify side updates)).write store)) store := by
  refine obeys_bind_ok getBattleParticipants_ends ?_
  rcases Option.bind_eq_some_iff.mp found with ⟨_, isStored, foundSide⟩
  rcases Option.map_eq_some_iff.mp foundSide with ⟨_, isSide, ⟨⟩⟩
  rw [isStored]
  simp only [isSide]
  exact setParticipants_ends _

theorem updateParticipant_throws
    (missing : store.findParticipant roomId userId = none) (updates : Participant → Participant) :
    (updateParticipant roomId userId updates).run.Obeys (working judged)
      (Ends (.error .participantNotFound) store) store := by
  refine obeys_bind_ok getBattleParticipants_ends ?_
  cases stored : store.participants roomId with
  | none => exact ⟨rfl, rfl⟩
  | some participants =>
    have noSide : participants.findSide userId = none := by
      simpa [Store.findParticipant, stored] using missing
    simp only [noSide]
    exact ⟨rfl, rfl⟩

def Store.consume (store : Store) (key : EffectKey) : Store :=
  { store with effects := Function.update store.effects key false }

theorem calculateDamage_ends (judgeResult : JudgeResult) (battleState : BattleStateData)
    (userId : UserId) :
    (calculateDamage judgeResult battleState userId).run.Obeys (working judged)
      (Ends (.ok (damageOf judgeResult battleState userId
          (store.effects (.doubleDamage battleState.room.id userId))))
        (store.consume (.doubleDamage battleState.room.id userId))) store := by
  have asked : (getEffect (.doubleDamage battleState.room.id userId)).run.Obeys (working judged)
      (Ends (.ok (store.effects (.doubleDamage battleState.room.id userId))) store) store :=
    issue_ends fun _ => rfl
  refine obeys_bind_ok asked ?_
  cases doubled : store.effects (.doubleDamage battleState.room.id userId) with
  | false =>
    have unchanged : store.consume (.doubleDamage battleState.room.id userId) = store := by
      rw [Store.consume, ← doubled, Function.update_eq_self]
    exact ⟨rfl, unchanged.symm⟩
  | true =>
    have deleted : (delEffect (.doubleDamage battleState.room.id userId)).run.Obeys
        (working judged) (Ends (.ok ())
          ((Cmd.delEffect (.doubleDamage battleState.room.id userId)).write store)) store :=
      issue_ends fun _ => rfl
    exact obeys_bind_ok deleted ⟨rfl, rfl⟩

end Rules

def samplePlayer (userId : UserId) : Participant := ⟨userId, userId, 1200, 100, 100, 0, false, none⟩

def sampleRoom (state : BattleState) : BattleRoom :=
  ⟨"room", "ann", "bob", "two-sum", state, none, none, 900000, 1⟩

def emptyStore : Store where
  rooms _ := none
  participants _ := none
  states _ := none
  userBattles _ := none
  damageLogs _ := []
  effects _ := false
  published := []

def noon (_ : ℕ) : Choice := ⟨43200000, false, "id", 0, none, []⟩

end CodeClash.Rooms
