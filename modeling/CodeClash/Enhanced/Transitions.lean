import CodeClash.Enhanced.Battle
import Mathlib.Data.List.Chain

/-!
# The statuses of a battle

`updateBattleState` checks a new status against the table of transitions, with the status it has
read as the current one. If the last status stored for the room is the one that was read, at each
write, the statuses of every room follow the table.
-/

namespace CodeClash.Enhanced

open Async

def Next (current next : Status) : Prop :=
  next = current ∨ isValidStateTransition current next = true

def Status.IsTerminal (status : Status) : Prop := validTransitions status = []

theorem Next.eq_of_isTerminal {current next : Status} (follows : Next current next)
    (terminal : current.IsTerminal) : next = current := by
  rcases follows with same | valid
  · exact same
  · have none : validTransitions current = [] := terminal
    simp [isValidStateTransition, none] at valid

/-- Each status may follow the one before it, and nothing follows a terminal one. -/
structure FollowsTable (statuses : List Status) : Prop where
  successive : statuses.IsChain Next
  terminal : ∀ before status after, statuses = before ++ status :: after →
    status.IsTerminal → ∀ later ∈ after, later = status

theorem eq_of_isChain_of_isTerminal {status : Status} {after : List Status}
    (chain : (status :: after).IsChain Next) (terminal : status.IsTerminal) :
    ∀ later ∈ after, later = status := by
  induction after with
  | nil => simp
  | cons next _ ih =>
    rw [List.isChain_cons_cons] at chain
    rcases chain with ⟨follows, chain⟩
    have same := follows.eq_of_isTerminal terminal
    subst next
    intro later member
    rcases List.mem_cons.mp member with isNext | isLater
    · exact isNext
    · exact ih chain later isLater

theorem followsTable_of_isChain {statuses : List Status} (chain : statuses.IsChain Next) :
    FollowsTable statuses := by
  refine ⟨chain, ?_⟩
  rintro _ _ _ rfl terminal
  exact eq_of_isChain_of_isTerminal (List.isChain_append.mp chain).2.1 terminal

/-- A document that is stored has a status that may follow the one that was read. -/
def Cmd.Follows : Cmd → Prop
  | .setBattle _ currentState newState => Next currentState.status newState.status
  | _ => True

theorem apply_next {state : BattleState} {updates : Updates} (lastActivity : ℤ)
    (accepted : updates.refused state.status = none) :
    Next state.status (state.apply updates lastActivity).status := by
  cases asked : updates.status with
  | none => exact .inl (by simp [BattleState.apply, asked])
  | some =>
    refine .inr ?_
    simpa [Updates.refused, asked, Option.filter, BattleState.apply] using accepted

section Footprints

open Throwing

variable {roomId : RoomId}

theorem getNow_follows : getNow.run.Uses Cmd.Follows :=
  uses_ask (Program.uses_perform (by exact trivial))

theorem emit_follows (notice : Notice) : (emit roomId notice).run.Uses Cmd.Follows :=
  uses_ask (Program.uses_perform (by exact trivial))

theorem setTimeout_follows (timer : Timer) : (setTimeout timer).run.Uses Cmd.Follows :=
  uses_ask (Program.uses_perform (by exact trivial))

theorem getTime_follows (key : TimeKey) : (getTime key).run.Uses Cmd.Follows :=
  uses_attempt (Program.uses_perform (by exact trivial))

theorem setTime_follows (key : TimeKey) (seconds time : ℤ) :
    (setTime key seconds time).run.Uses Cmd.Follows :=
  uses_attempt (Program.uses_perform (by exact trivial))

theorem del_follows (keys : List Key) : (del keys).run.Uses Cmd.Follows :=
  uses_attempt (Program.uses_perform (by exact trivial))

theorem readBattle_follows : (readBattle roomId).Uses Cmd.Follows := by
  refine Program.uses_perform_bind (by exact trivial) fun reply => ?_
  split
  · trivial
  · trivial
  · trivial
  · split
    · trivial
    · exact Program.uses_perform_bind (by exact trivial) fun _ => trivial

theorem getBattleState_follows : (getBattleState roomId).run.Uses Cmd.Follows :=
  uses_ask readBattle_follows

theorem found_follows {next : BattleState → Prog Unit}
    (later : ∀ state, (next state).run.Uses Cmd.Follows) :
    (getBattleState roomId >>= fun found => match found with
      | none => return ()
      | some state => next state).run.Uses Cmd.Follows := by
  refine uses_bind getBattleState_follows fun found => ?_
  cases found with
  | none => trivial
  | some state => exact later state

theorem broadcastStateChange_follows (state : BattleState) :
    (broadcastStateChange roomId state).run.Uses Cmd.Follows := by
  refine uses_bind ?_ fun _ => emit_follows _
  unfold calculateTimeRemaining
  split
  · split
    · trivial
    · exact uses_bind getNow_follows fun _ => trivial
  · trivial

theorem updateBattleState_follows (updates : Updates) :
    (updateBattleState roomId updates).run.Uses Cmd.Follows := by
  refine uses_bind getBattleState_follows fun found => ?_
  cases found with
  | none => trivial
  | some currentState =>
    simp only
    cases accepted : updates.refused currentState.status with
    | some => trivial
    | none =>
      refine uses_bind getNow_follows fun now => ?_
      refine uses_bind (uses_attempt (Program.uses_perform (apply_next now accepted)))
        fun _ => ?_
      exact uses_bind (broadcastStateChange_follows _) fun _ => trivial

theorem startCountdown_follows : (startCountdown roomId).run.Uses Cmd.Follows := by
  refine found_follows fun battleState => ?_
  split
  · trivial
  · refine uses_bind getNow_follows fun _ => ?_
    refine uses_bind (updateBattleState_follows _) fun _ => ?_
    refine uses_bind getNow_follows fun _ => ?_
    exact uses_bind (emit_follows _) fun _ => setTimeout_follows _

theorem startBattle_follows : (startBattle roomId).run.Uses Cmd.Follows := by
  refine found_follows fun battleState => ?_
  refine uses_bind getNow_follows fun _ => ?_
  refine uses_bind (updateBattleState_follows _) fun _ => ?_
  refine uses_bind getNow_follows fun _ => ?_
  exact uses_bind (emit_follows _) fun _ => setTimeout_follows _

theorem countdownElapsed_follows : (countdownElapsed roomId).run.Uses Cmd.Follows := by
  refine found_follows fun currentState => ?_
  split
  · refine Program.uses_bind startBattle_follows fun outcome => ?_
    cases outcome with
    | ok => trivial
    | error => exact uses_bind (updateBattleState_follows _) fun _ => trivial
  · trivial

theorem handleCodeProgress_follows (socket : Socket) (code : String) (progress : ℚ) :
    (handleCodeProgress socket code progress).run.Uses Cmd.Follows := by
  unfold handleCodeProgress
  split
  · trivial
  · refine found_follows fun battleState => ?_
    split
    · trivial
    · refine uses_bind (getTime_follows _) fun lastUpdate => ?_
      refine uses_bind getNow_follows fun now => ?_
      split
      · trivial
      · refine uses_bind (setTime_follows _ _ _) fun _ => ?_
        exact uses_bind (updateBattleState_follows _) fun _ => emit_follows _

theorem handleDisconnect_follows (socket : Socket) :
    (handleDisconnect socket).run.Uses Cmd.Follows := by
  unfold handleDisconnect
  split
  · trivial
  · refine found_follows fun battleState => ?_
    refine uses_bind getNow_follows fun _ => ?_
    refine uses_bind (updateBattleState_follows _) fun _ => ?_
    refine uses_bind getNow_follows fun _ => ?_
    refine uses_bind (setTime_follows _ _ _) fun _ => ?_
    refine uses_bind (getTime_follows _) fun otherDisconnectTime => ?_
    split
    · refine uses_bind (updateBattleState_follows _) fun _ => ?_
      refine uses_bind (uses_all ?_) fun _ => trivial
      intro _ member
      rcases List.mem_pair.mp member with rfl | rfl <;> exact del_follows _
    · exact emit_follows _

theorem handleReconnection_follows (socket : Socket) :
    (handleReconnection socket roomId).run.Uses Cmd.Follows := by
  unfold handleReconnection
  split
  · trivial
  · refine uses_bind (del_follows _) fun _ => ?_
    refine found_follows fun battleState => ?_
    exact uses_bind (emit_follows _) fun _ => emit_follows _

theorem deletePatterns_follows (patterns : List Pattern) :
    (deletePatterns patterns).run.Uses Cmd.Follows := by
  induction patterns with
  | nil => trivial
  | cons _ _ ih =>
    refine uses_bind (uses_attempt (Program.uses_perform (by exact trivial))) fun keys => ?_
    split
    · exact uses_bind (del_follows keys) fun _ => ih
    · exact ih

theorem endBattle_follows (reason : EndReason) :
    (endBattle roomId reason).run.Uses Cmd.Follows := by
  refine found_follows fun battleState => ?_
  refine uses_bind getNow_follows fun _ => ?_
  refine uses_bind (updateBattleState_follows _) fun _ => ?_
  refine uses_bind (uses_ask (Program.uses_perform_bind (by exact trivial) fun _ => trivial))
    fun _ => ?_
  exact uses_bind (emit_follows _) fun _ => deletePatterns_follows _

theorem battleTimeout_follows : (battleTimeout roomId).run.Uses Cmd.Follows := by
  refine found_follows fun currentState => ?_
  split
  · exact endBattle_follows _
  · trivial

theorem handleJudge0Failure_follows (error : String) :
    (handleJudge0Failure roomId error).run.Uses Cmd.Follows := by
  refine found_follows fun _ => ?_
  exact uses_bind (updateBattleState_follows _) fun _ => emit_follows _

theorem program_follows (call : Call) : call.program.run.Uses Cmd.Follows := by
  cases call with
  | startCountdown => exact startCountdown_follows
  | startBattle => exact startBattle_follows
  | countdownElapsed => exact countdownElapsed_follows
  | battleTimeout => exact battleTimeout_follows
  | handleCodeProgress socket code progress => exact handleCodeProgress_follows socket code progress
  | handleDisconnect socket => exact handleDisconnect_follows socket
  | handleReconnection socket => exact handleReconnection_follows socket
  | endBattle _ reason => exact endBattle_follows reason
  | handleJudge0Failure _ error => exact handleJudge0Failure_follows error

end Footprints

/-- When a call stores a state, the last status that was stored for the room is the one that the
call has read. -/
def ReadLast (state : ServerState) (action : ServerAction) : Prop :=
  ∀ roomId currentState newState,
    state.issued action = some (.setBattle roomId currentState newState) →
      (state.store.stored roomId).getLast? = some currentState.status

def Store.InOrder (store : Store) : Prop := ∀ roomId, (store.stored roomId).IsChain Next

theorem foldl_delete_stored (keys : List Key) (store : Store) :
    (keys.foldl Store.delete store).stored = store.stored := by
  induction keys generalizing store with
  | nil => rfl
  | cons key _ ih =>
    rw [List.foldl_cons, ih]
    cases key <;> rfl

theorem handle_stored {cmd : Cmd}
    (noWrite : ∀ roomId currentState newState, cmd ≠ .setBattle roomId currentState newState)
    (choice : Choice) (store : Store) : (handle cmd choice store).2.stored = store.stored := by
  cases cmd with
  | setBattle roomId currentState newState =>
    exact absurd rfl (noWrite roomId currentState newState)
  | setTime =>
    simp only [handle]
    split <;> rfl
  | del keys =>
    simp only [handle]
    split
    · rfl
    · exact foldl_delete_stored keys store
  | _ => rfl

theorem accept_stored {call : Call} {store next : Store}
    (accepted : accept call store = some next) : next.stored = store.stored := by
  unfold accept at accepted
  split at accepted
  · cases accepted
    rfl
  · split at accepted
    · cases accepted
      rfl
    · cases accepted

theorem setBattle_inOrder {store : Store} {roomId : RoomId} {currentState newState : BattleState}
    (last : (store.stored roomId).getLast? = some currentState.status)
    (follows : Next currentState.status newState.status)
    (inOrder : store.InOrder) (now : ℤ) : (store.setBattle now roomId newState).InOrder := by
  intro other
  by_cases same : other = roomId
  · subst other
    simp only [Store.setBattle, Function.update_self]
    refine (inOrder roomId).append (List.isChain_singleton _) ?_
    simpa [last] using follows
  · simpa only [Store.setBattle, Function.update_of_ne same] using inOrder other

/-- In a run in which no call stores a state over one that it has not read, the statuses of every
room follow the table. -/
theorem statuses_follow_table {initial state : ServerState}
    (unstarted : ∀ id, initial.processes id = none) (begun : initial.store.InOrder)
    (reached : server.Reaches ReadLast initial state) (roomId : RoomId) :
    FollowsTable (state.store.stored roomId) := by
  have inOrder : state.store.InOrder := by
    refine reached.store_invariant unstarted
      (fun _ call => Program.uses_bind (program_follows call) fun _ => trivial) ?_ ?_ ?_ begun
    · intro _ _ _ accepted inOrder
      rwa [Store.InOrder, accept_stored accepted]
    · intro event
      exact event.elim
    · intro _ _ _ cmd met issued follows inOrder
      cases cmd with
      | setBattle roomId currentState newState =>
        simp only [server, handle]
        split
        · exact inOrder
        · exact setBattle_inOrder (met roomId currentState newState issued) follows inOrder _
      | _ =>
        rw [Store.InOrder, server, handle_stored (by simp)]
        exact inOrder
  exact followsTable_of_isChain (inOrder roomId)

def samplePlayer (userId : UserId) : Player := ⟨userId, userId, 1200, some 100, none, none, none⟩

def sampleState (status : Status) : BattleState where
  id := "battle"
  roomId := "room"
  player1Id := "ann"
  player2Id := "bob"
  status := status
  player1 := samplePlayer "ann"
  player2 := samplePlayer "bob"
  details := ⟨none, none, 0, some 1, some 900, none, none, none⟩

def sampleServer (status : Status) : ServerState where
  store :=
    { battles := fun roomId => if roomId = "room" then
        some ⟨(sampleState status).stringify, 1800000⟩ else none
      times := fun _ => none
      names := [.battle "room"]
      timers := []
      stored := fun roomId => if roomId = "room" then [status] else [] }
  processes _ := none

theorem sampleServer_inOrder (status : Status) : (sampleServer status).store.InOrder := by
  intro _
  simp only [sampleServer]
  split
  · exact List.isChain_singleton _
  · exact List.isChain_nil

def goOn (id count : ℕ) : List ServerAction := List.replicate count (.advance id ⟨1000, false⟩)

def typeAndWin : List ServerAction :=
  [.start 0 (.handleCodeProgress ⟨"ann", "room"⟩ "code" 50), .start 1 (.endBattle "room" .victory)]

/-- The call that passes the code on has read an active battle and stores it again after the
battle was completed. -/
theorem completed_battle_becomes_active :
    ∃ state, server.Reaches Server.anyStep (sampleServer .active) state ∧
      state.store.stored "room" = [.active, .completed, .active] := by
  apply Server.exists_reaches [0, 1] (fun _ _ => true)
    (typeAndWin ++ goOn 0 6 ++ goOn 1 5 ++ goOn 0 1)
  · intro _ _ _ _
    trivial
  · intro _ _
    rfl
  · decide +kernel

def storesLastRead (state : ServerState) (action : ServerAction) : Bool :=
  match state.issued action with
  | some (.setBattle roomId currentState _) =>
    (state.store.stored roomId).getLast? = some currentState.status
  | _ => true

theorem storesLastRead_sound {state : ServerState} {action : ServerAction}
    (checked : storesLastRead state action = true) : ReadLast state action := by
  intro _ _ _ issued
  simpa [storesLastRead, issued] using checked

theorem battle_stays_completed :
    ∃ state, server.Reaches ReadLast (sampleServer .active) state ∧
      state.store.stored "room" = [.active, .active, .completed] ∧
        FollowsTable (state.store.stored "room") := by
  apply Server.exists_reaches_and [0, 1] storesLastRead
    (typeAndWin ++ goOn 0 9 ++ goOn 1 14)
  · intro _ _ _ checked
    exact storesLastRead_sound checked
  · intro _ _
    rfl
  · decide +kernel
  · intro _ reached
    exact statuses_follow_table (fun _ => rfl) (sampleServer_inOrder _) reached "room"

end CodeClash.Enhanced
