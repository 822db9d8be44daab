import CodeClash.Battle.EndPaths
import CodeClash.Battle.Submission

/-!
# How a grace timeout ends a battle

What a run of `handleGraceTimeout` does to a room, seen from outside: the status that is stored and
the winners that are announced. A timeout for the room ends it if it is ACTIVE, and announces the
opponent as the winner as long as the database answers.
-/

namespace CodeClash.Battle

open Async Program

def winners (roomId : RoomId) (outbox : List (Recipient × Message)) : List UserId :=
  outbox.filterMap (announcedWinner roomId)

/-- Between the two stores the battle has ended and the winner has been announced. -/
structure EndsFor (roomId : RoomId) (winnerId : UserId) (before after : Store) : Prop where
  ended : ∃ state, after.battles roomId = some state ∧ state.status = .ended
  announced : winners roomId after.outbox = winnerId :: winners roomId before.outbox

structure SameRoom (roomId : RoomId) (before after : Store) : Prop where
  battle : after.battles roomId = before.battles roomId
  winners : winners roomId after.outbox = winners roomId before.outbox

theorem SameRoom.trans {roomId : RoomId} {before between after : Store}
    (first : SameRoom roomId before between) (second : SameRoom roomId between after) :
    SameRoom roomId before after :=
  ⟨second.battle.trans first.battle, second.winners.trans first.winners⟩

namespace EndsFor

variable {roomId : RoomId} {winnerId : UserId} {before between after : Store}

theorem sameRoom (ends : EndsFor roomId winnerId before between)
    (same : SameRoom roomId between after) : EndsFor roomId winnerId before after := by
  refine ⟨?_, same.winners.trans ends.announced⟩
  rw [same.battle]
  exact ends.ended

theorem inactive (ends : EndsFor roomId winnerId before after) (state : BattleState)
    (stored : after.battles roomId = some state) : state.status ≠ .active := by
  rcases ends.ended with ⟨final, storedFinal, ended⟩
  obtain rfl : final = state := Option.some.inj (storedFinal.symm.trans stored)
  rw [ended]
  exact Status.noConfusion

end EndsFor

theorem handle_winners (roomId : RoomId) (cmd : Cmd) (choice : Choice) (store : Store) :
    winners roomId (handle cmd choice store).2.outbox =
      (cmd.announces roomId).toList ++ winners roomId store.outbox := by
  cases cmd with
  | emit recipient message =>
    simp only [handle, winners, Cmd.announces, List.filterMap_cons]
    cases announcedWinner roomId (recipient, message) <;> rfl
  | setLock =>
    simp only [handle, Store.setLock]
    split <;> rfl
  | getLockValue =>
    simp only [handle, Store.getLockValue]
    split <;> rfl
  | evalUnlock =>
    simp only [handle, Store.evalUnlock]
    split
    · split <;> rfl
    · rfl
  | rate =>
    simp only [handle, Store.rate]
    split <;> rfl
  | createAchievement =>
    simp only [handle]
    split <;> rfl
  | clearInterval _ save => cases save <;> rfl
  | _ => rfl

theorem run_users {α : Type} {program : Prog α} {choices : ℕ → Choice} {store : Store}
    (userId : UserId) (known : (store.users userId).isSome = true) :
    ((program.run handle (fun _ store => store) choices store).2.users userId).isSome = true := by
  rcases Option.isSome_iff_exists.mp known with ⟨user, found⟩
  rcases run_grows program choices store userId user found with ⟨later, foundLater, _⟩
  rw [foundLater]
  rfl

section Elsewhere

variable {powTen : ℚ → ℚ} {roomId battleId : RoomId} {choices : ℕ → Choice} {store : Store}

/-- What a timeout of a user does: it works on the room, talks to the room and deletes the
record of the user. -/
structure Cmd.ForTimeout (roomId : RoomId) (userId : UserId) (cmd : Cmd) : Prop where
  within : cmd.Within roomId
  talks : ∀ recipient message, cmd = .emit recipient message → recipient = .room roomId
  deletes : ∀ user, cmd = .delGrace user → user = userId

theorem Cmd.Plain.forTimeout {cmd : Cmd} {userId : UserId} (plain : cmd.Plain) :
    cmd.ForTimeout roomId userId := by
  refine ⟨plain.quiet.within roomId, ?_, ?_⟩
  · rintro _ message rfl
    exact plain.elim
  · rintro _ rfl
    exact plain.elim

theorem permitsEnding_forTimeout (roomId : RoomId) (userId : UserId) :
    PermitsEnding (fun _ program => program.Uses (Cmd.ForTimeout roomId userId)) roomId where
  toComposes := uses_composes _
  plain cmd plain := uses_perform plain.forTimeout
  announces message := by
    refine uses_perform ⟨trivial, ?_, fun _ => Cmd.noConfusion⟩
    rintro _ _ ⟨⟩
    rfl
  rates effect := uses_perform ⟨rfl, fun _ _ => Cmd.noConfusion, fun _ => Cmd.noConfusion⟩

theorem handleGraceTimeout_uses (userId : UserId) :
    (handleGraceTimeout powTen userId battleId).Uses (Cmd.ForTimeout battleId userId) := by
  have deletes : Cmd.ForTimeout battleId userId (.delGrace userId) := by
    refine ⟨trivial, fun _ _ => Cmd.noConfusion, ?_⟩
    rintro _ ⟨⟩
    rfl
  apply uses_perform_bind ⟨rfl, fun _ _ => Cmd.noConfusion, fun _ => Cmd.noConfusion⟩
  intro _
  split
  · exact uses_perform deletes
  · split
    · apply uses_bind (endBattle_holds (permitsEnding_forTimeout battleId userId)
        (fun _ _ => uses_perform_bind (Cmd.Plain.forTimeout trivial) fun _ => uses_perform_bind
          ⟨rfl, fun _ _ => Cmd.noConfusion, fun _ => Cmd.noConfusion⟩ fun _ => trivial) _ _ _)
      intro _
      exact uses_perform deletes
    · exact uses_perform deletes

theorem Cmd.ForTimeout.elsewhere {userId : UserId} {cmd : Cmd}
    (forTimeout : cmd.ForTimeout battleId userId) (differs : battleId ≠ roomId) :
    cmd.stores roomId = none ∧ cmd.announces roomId = none := by
  rcases forTimeout with ⟨within, talks, _⟩
  cases cmd with
  | emit recipient message =>
    obtain rfl := talks recipient message rfl
    refine ⟨rfl, ?_⟩
    cases message <;> simp [Cmd.announces, announcedWinner, differs]
  | setBattle room =>
    obtain rfl : room = battleId := within
    exact ⟨if_neg differs, rfl⟩
  | clearInterval room save =>
    obtain rfl : room = battleId := within
    cases save with
    | none => exact ⟨rfl, rfl⟩
    | some => exact ⟨if_neg differs, rfl⟩
  | _ => exact ⟨rfl, rfl⟩

theorem handleGraceTimeout_elsewhere (differs : battleId ≠ roomId) (userId : UserId) :
    SameRoom roomId store ((handleGraceTimeout powTen userId battleId).run handle
      (fun _ store => store) choices store).2 := by
  apply (handleGraceTimeout_uses userId).run_invariant (SameRoom roomId store)
    (fun _ _ same => same)
  · intro _ forTimeout _ _ same
    rcases forTimeout.elsewhere differs with ⟨keeps, silent⟩
    refine ⟨?_, ?_⟩
    · rw [handle_battles, keeps]
      exact same.battle
    · rw [handle_winners, silent]
      exact same.winners
  · exact ⟨rfl, rfl⟩

end Elsewhere

section Runs

variable {powTen : ℚ → ℚ} {roomId : RoomId} {userId : UserId} {state : BattleState}
  {choices : ℕ → Choice} {store : Store}

theorem handleGraceTimeout_spec {setting : Setting} {view : SubmitView}
    (answers : ∀ n, (setting.choices n).fails = false) (stored : view.battle = some state)
    (active : state.status = .active) (named : state.opponentOf userId ≠ "")
    (row1 : setting.HasRow state.player1Id) (row2 : setting.HasRow state.player2Id) :
    (handleGraceTimeout powTen userId setting.submit.roomId).Obeys (undisturbed setting)
      (fun reached _ => ∃ ended, reached.battle = some ended ∧ ended.status = .ended ∧
        reached.announced = state.opponentOf userId :: view.announced) view := by
  have winner : (state.concede userId).winnerId (some (state.opponentOf userId)) =
      state.opponentOf userId := if_pos named
  have winnerRow : setting.HasRow (state.opponentOf userId) := by
    rw [BattleState.opponentOf]
    split
    · exact row2
    · exact row1
  have loserRow : setting.HasRow ((state.concede userId).loserId (state.opponentOf userId)) := by
    rw [BattleState.loserId, BattleState.concede]
    split <;> split <;> assumption
  apply obeys_perform_bind trivial
  intro found expected
  obtain rfl : found = some state := (expected rfl).trans stored
  simp only [active, if_true]
  apply obeys_bind.mpr
  apply endBattle_spec answers powTen winner rfl winnerRow loserRow
  intro _ now _ _
  rw [← Program.bind_done (request (.delGrace userId))]
  apply quiet_step (by trivial) rfl
  intro _ _
  exact ⟨((state.concede userId).withStatus .ended).stamped now, rfl, rfl, rfl⟩

theorem undisturbed_after_announced {setting : Setting} {view : SubmitView} (cmd : Cmd)
    (reply : cmd.Reply) : ((undisturbed setting).after view cmd reply).announced =
      (cmd.announces setting.submit.roomId).toList ++ view.announced := by
  cases cmd with
  | clearInterval room save =>
    cases save with
    | none => rfl
    | some =>
      simp only [undisturbed]
      split <;> rfl
  | rate =>
    cases reply with
    | error => rfl
    | ok =>
      simp only [undisturbed]
      split <;> rfl
  | _ =>
    simp only [undisturbed]
    first | rfl | split <;> rfl

theorem handleGraceTimeout_active (stored : store.battles roomId = some state)
    (active : state.status = .active) (named : state.opponentOf userId ≠ "")
    (known1 : (store.users state.player1Id).isSome = true)
    (known2 : (store.users state.player2Id).isSome = true)
    (answers : ∀ n, (choices n).fails = false) :
    EndsFor roomId (state.opponentOf userId) store
      ((handleGraceTimeout powTen userId roomId).run handle (fun _ store => store) choices
        store).2 := by
  let setting : Setting := .start ⟨"", 0, roomId, userId⟩ choices store
  have obeys : (handleGraceTimeout powTen userId roomId).Obeys (undisturbed setting) _
      (.start setting.submit store) :=
    handleGraceTimeout_spec answers stored active named (Option.isSome_iff_ne_none.mp known1)
      (Option.isSome_iff_ne_none.mp known2)
  let Seen (steps : ℕ) (current : Store) (view : SubmitView) : Prop :=
    setting.Agrees steps current view ∧
      winners roomId current.outbox = view.announced ++ winners roomId store.outbox
  have step (steps : ℕ) (cmd : Cmd) (current : Store) (view : SubmitView)
      (seen : Seen steps current view) (_ : (undisturbed setting).allows view cmd) :
      (undisturbed setting).expects view cmd (handle cmd (choices steps) current).1 ∧
        Seen (steps + 1) (handle cmd (choices steps) current).2
          ((undisturbed setting).after view cmd (handle cmd (choices steps) current).1) := by
    refine ⟨seen.1.expects cmd, seen.1.after cmd, ?_⟩
    rw [handle_winners, undisturbed_after_announced, seen.2, List.append_assoc]
    rfl
  rcases obeys.run (fun _ _ _ seen => seen) step ⟨Setting.agrees_start _ choices store, rfl⟩ with
    ⟨_, _, ⟨related, sameWinners⟩, ended, isStored, isEnded, announced⟩
  refine ⟨⟨ended, related.battle.trans isStored, isEnded⟩, ?_⟩
  rw [sameWinners, announced]
  rfl

theorem handleGraceTimeout_inactive
    (inactive : ∀ state, store.battles roomId = some state → state.status ≠ .active) :
    SameRoom roomId store ((handleGraceTimeout powTen userId roomId).run handle
      (fun _ store => store) choices store).2 := by
  cases stored : store.battles roomId with
  | none =>
    simp only [handleGraceTimeout, getBattleState, Program.perform_eq_issue, Program.issue_bind,
      Program.done_bind, Program.run, handle, stored]
    exact ⟨rfl, rfl⟩
  | some state =>
    simp only [handleGraceTimeout, getBattleState, Program.perform_eq_issue, Program.issue_bind,
      Program.done_bind, Program.run, handle, stored, inactive state stored, if_false]
    exact ⟨rfl, rfl⟩

end Runs

end CodeClash.Battle
