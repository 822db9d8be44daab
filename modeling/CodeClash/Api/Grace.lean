import CodeClash.Api.Outcome

/-!
# The time to reconnect

The timer that `handleDisconnection` starts is never cancelled: when it fires, it looks at the flag
of the player and nothing else. A player who came back and disconnects again loses the battle to the
first timer.
-/

namespace CodeClash.Api.Events

open Async Function
open Judge (Side)

def Store.disconnected (store : Store) (roomId : RoomId) (side : Side) : Bool :=
  (store.fields roomId).disconnected side

def Outstanding (state : ServerState) (timer : Grace) : Prop :=
  timer ∈ state.store.graceTimers ∨
    ∃ id program, state.processes id = some ⟨.graceElapsed timer, program⟩ ∧ program ≠ .done ()

/-- The step resets the flag of a player: a reconnection, or the loss of the hash. -/
def Resets (state : ServerState) (action : ServerAction) (roomId : RoomId) (side : Side) : Prop :=
  state.issued action = some (.setDisconnected roomId side false) ∨
    (∃ room, state.issued action = some (.battle room (.delHash roomId))) ∨
    action = .happen (.expires roomId)

/-- A disconnection does not set the flag anew while a timer of the player is outstanding, and no
other step resets it while a callback runs. -/
structure Graceful (state : ServerState) (action : ServerAction) : Prop where
  sets : ∀ timer, state.issued action = some (.setDisconnected timer.roomId timer.side true) →
    Outstanding state timer → state.store.disconnected timer.roomId timer.side = true
  resets : ∀ id timer program, state.processes id = some ⟨.graceElapsed timer, program⟩ →
    (∀ choice, action ≠ .advance id choice) → Resets state action timer.roomId timer.side →
      program = .done ()

def Cmd.completes : Cmd → Bool
  | .battle _ (.completeMatch _ _) => true
  | _ => false

/-- The call is the callback of the timer and is about to record the end of the battle. -/
def EndedBy (state : ServerState) (id : ℕ) (timer : Grace) : Prop :=
  (state.processes id).any (fun process =>
    process.call = .graceElapsed timer && process.program.head?.any Cmd.completes) = true

instance (state : ServerState) (id : ℕ) (timer : Grace) : Decidable (EndedBy state id timer) :=
  inferInstanceAs (Decidable (_ = true))

section Commands

variable {roomId : RoomId} {side : Side} {store : Store} {choice : Choice} {cmd : Cmd}

def Cmd.flagAfter (roomId : RoomId) (side : Side) (flag : Bool) : Cmd → Bool
  | .setDisconnected room other value => if room = roomId ∧ other = side then value else flag
  | .battle _ (.delHash room) => if room = roomId then false else flag
  | _ => flag

variable {after : Store} {room : RoomId} {fields : Fields}

theorem disconnected_update (written : after.fields = update store.fields room fields) :
    after.disconnected roomId side =
      if room = roomId then fields.disconnected side else store.disconnected roomId side := by
  rw [Store.disconnected, written]
  by_cases same : roomId = room
  · rw [same, update_self, if_pos rfl]
  · rw [update_of_ne same, if_neg (Ne.symm same), Store.disconnected]

theorem disconnected_dropHash (room : RoomId) :
    (store.dropHash room).disconnected roomId side =
      if room = roomId then false else store.disconnected roomId side := by
  refine (disconnected_update rfl).trans ?_
  cases side <;> rfl

theorem disconnected_of_kept (written : after.fields = update store.fields room fields)
    (kept : fields.disconnected side = (store.fields room).disconnected side) :
    after.disconnected roomId side = store.disconnected roomId side := by
  rw [disconnected_update written, kept]
  split
  · rename_i same
    rw [same, Store.disconnected]
  · rfl

theorem disconnected_handle :
    (handle cmd choice store).2.disconnected roomId side =
      cmd.flagAfter roomId side (store.disconnected roomId side) := by
  cases cmd with
  | battle _ cmd =>
    cases cmd with
    | delHash deleted => exact disconnected_dropHash deleted
    | completeMatch =>
      simp only [handle, handleBattle, Api.handle]
      split <;> rfl
    | updateUser =>
      simp only [handle, handleBattle, Api.handle]
      split <;> rfl
    | _ => rfl
  | setHp => exact disconnected_of_kept rfl rfl
  | setDisconnected room other =>
    refine (disconnected_update rfl).trans ?_
    rw [Cmd.flagAfter, ite_and]
    by_cases same : room = roomId
    · subst same
      cases other <;> cases side <;> rfl
    · rw [if_neg same, if_neg same]
  | setShield =>
    refine disconnected_of_kept rfl ?_
    cases side <;> rfl
  | updateSpell =>
    simp only [handle]
    split <;> rfl
  | _ => rfl

theorem timers_handle :
    (handle cmd choice store).2.clock = store.clock ∧
      ∀ timer ∈ (handle cmd choice store).2.graceTimers,
        timer ∈ store.graceTimers ∨ timer.dueAt = store.clock + 30000 := by
  cases cmd with
  | startGrace =>
    refine ⟨rfl, fun timer member => ?_⟩
    rcases List.mem_append.mp member with old | new
    · exact .inl old
    · exact .inr (by rw [List.mem_singleton.mp new])
  | battle _ cmd => cases cmd <;> exact ⟨rfl, fun _ => .inl⟩
  | updateSpell =>
    simp only [handle]
    split <;> exact ⟨rfl, fun _ => .inl⟩
  | _ => exact ⟨rfl, fun _ => .inl⟩

theorem flagAfter_cases {flag : Bool} :
    cmd.flagAfter roomId side flag = flag ∨
      cmd.flagAfter roomId side flag = true ∧ cmd = .setDisconnected roomId side true ∨
      cmd.flagAfter roomId side flag = false ∧ (cmd = .setDisconnected roomId side false ∨
        ∃ room, cmd = .battle room (.delHash roomId)) := by
  cases cmd with
  | battle room cmd =>
    cases cmd with
    | delHash deleted =>
      by_cases same : deleted = roomId
      · subst same
        exact .inr (.inr ⟨if_pos rfl, .inr ⟨room, rfl⟩⟩)
      · exact .inl (if_neg same)
    | _ => exact .inl rfl
  | setDisconnected room other value =>
    by_cases same : room = roomId ∧ other = side
    · rcases same with ⟨rfl, rfl⟩
      cases value with
      | true => exact .inr (.inl ⟨if_pos ⟨rfl, rfl⟩, rfl⟩)
      | false => exact .inr (.inr ⟨if_pos ⟨rfl, rfl⟩, .inl rfl⟩)
    · exact .inl (if_neg same)
  | _ => exact .inl rfl

end Commands

section Earlier

variable {mid state next : ServerState} {action : ServerAction} {timer : Grace} {powTen : ℚ → ℚ}

/-- The flag of a player with an outstanding timer was set at the earlier moment as well, or the
timer was started since. -/
structure Since (mid state : ServerState) : Prop where
  clock : mid.store.clock ≤ state.store.clock
  flags : ∀ timer, Outstanding state timer →
    state.store.disconnected timer.roomId timer.side = true →
      mid.store.disconnected timer.roomId timer.side = true ∨
        mid.store.clock ≤ timer.dueAt - 30000

variable {store after : Store}

theorem accept_cases {call : Call} (accepted : accept call store = some after) :
    after.clock = store.clock ∧ after.fields = store.fields ∧
      after.graceTimers ⊆ store.graceTimers ∧
      ∀ timer, call = .graceElapsed timer →
        timer ∈ store.graceTimers ∧ timer.dueAt ≤ store.clock := by
  cases call with
  | graceElapsed =>
    rcases Option.ite_none_right_eq_some.mp accepted with ⟨due, ⟨⟩⟩
    refine ⟨rfl, rfl, fun _ => List.mem_of_mem_erase, ?_⟩
    rintro _ ⟨⟩
    exact due
  | timerTick =>
    rcases Option.ite_none_right_eq_some.mp accepted with ⟨_, ⟨⟩⟩
    exact ⟨rfl, rfl, List.Subset.refl _, by rintro _ ⟨⟩⟩
  | _ =>
    cases accepted
    exact ⟨rfl, rfl, List.Subset.refl _, by rintro _ ⟨⟩⟩

theorem happen_flags {event : Event} (happened : happen event store = some after) :
    store.clock ≤ after.clock ∧ after.graceTimers = store.graceTimers ∧
      ∀ roomId side, after.disconnected roomId side = store.disconnected roomId side ∨
        event = .expires roomId ∧ after.disconnected roomId side = false := by
  cases event with
  | passes =>
    cases happened
    exact ⟨Int.le_add_of_nonneg_right (Int.natCast_nonneg _), rfl, fun _ _ => .inl rfl⟩
  | expires =>
    cases happened
    refine ⟨le_rfl, rfl, fun roomId side => ?_⟩
    rw [disconnected_dropHash]
    split
    · rename_i same
      exact .inr ⟨by rw [same], rfl⟩
    · exact .inl rfl

theorem running_before {id other : ℕ} {process : Process signature Call}
    {program : Program signature Unit}
    (own : process.call = .graceElapsed timer → Outstanding state timer)
    (found : update state.processes id (some process) other =
      some ⟨.graceElapsed timer, program⟩) (running : program ≠ .done ()) :
    Outstanding state timer := by
  by_cases same : other = id
  · rw [same, update_self, Option.some.injEq] at found
    exact own (congrArg Process.call found)
  · rw [update_of_ne same] at found
    exact .inr ⟨other, program, found, running⟩

theorem outstanding_before (cases : (server powTen).StepCases state action next)
    (outstanding : Outstanding next timer) :
    Outstanding state timer ∨ timer.dueAt = state.store.clock + 30000 := by
  cases cases with
  | start _ _ _ _ accepted =>
    rcases accept_cases accepted with ⟨_, _, timers, due⟩
    rcases outstanding with pending | ⟨other, program, found, running⟩
    · exact .inl (.inl (timers pending))
    · exact .inl (running_before (fun isTimer => .inl (due timer isTimer).1) found running)
  | advance id choice _ cmd _ waiting =>
    rcases outstanding with pending | ⟨_, _, found, running⟩
    · exact ((@timers_handle state.store choice cmd).2 timer pending).imp_left .inl
    · refine .inl (running_before ?_ found running)
      rintro rfl
      exact .inr ⟨id, _, waiting, by rintro ⟨⟩⟩
  | happen _ _ happened =>
    rw [Outstanding, (happen_flags happened).2.1] at outstanding
    exact .inl outstanding

theorem disconnected_step (cases : (server powTen).StepCases state action next)
    (roomId : RoomId) (side : Side) :
    next.store.disconnected roomId side = state.store.disconnected roomId side ∨
      next.store.disconnected roomId side = true ∧
        state.issued action = some (.setDisconnected roomId side true) ∨
      next.store.disconnected roomId side = false ∧ Resets state action roomId side := by
  cases cases with
  | start _ _ _ _ accepted =>
    exact .inl (congrArg (fun fields => (fields roomId).disconnected side)
      (accept_cases accepted).2.1)
  | advance id choice _ cmd _ waiting =>
    have issued : state.issued (.advance id choice : ServerAction) = some cmd :=
      State.issued_advance waiting choice
    rcases @flagAfter_cases roomId side cmd (state.store.disconnected roomId side) with
      kept | ⟨isSet, rfl⟩ | ⟨reset, rfl | ⟨room, rfl⟩⟩
    · exact .inl (disconnected_handle.trans kept)
    · exact .inr (.inl ⟨disconnected_handle.trans isSet, issued⟩)
    · exact .inr (.inr ⟨disconnected_handle.trans reset, .inl issued⟩)
    · exact .inr (.inr ⟨disconnected_handle.trans reset, .inr (.inl ⟨room, issued⟩)⟩)
  | happen _ _ happened =>
    rcases (happen_flags happened).2.2 roomId side with kept | ⟨rfl, reset⟩
    · exact .inl kept
    · exact .inr (.inr ⟨reset, .inr (.inr rfl)⟩)

theorem clock_le_of_step (cases : (server powTen).StepCases state action next) :
    state.store.clock ≤ next.store.clock := by
  cases cases with
  | start _ _ _ _ accepted => exact (accept_cases accepted).1.ge
  | advance _ choice _ cmd =>
    exact (@timers_handle state.store choice cmd).1.ge
  | happen _ _ happened => exact (happen_flags happened).1

theorem Since.step (since : Since mid state) (graceful : Graceful state action)
    (cases : (server powTen).StepCases state action next) : Since mid next where
  clock := since.clock.trans (clock_le_of_step cases)
  flags timer outstanding set := by
    rcases outstanding_before cases outstanding with before | _
    · have wasSet : state.store.disconnected timer.roomId timer.side = true := by
        rcases disconnected_step cases timer.roomId timer.side with kept | ⟨_, issued⟩ | ⟨reset, _⟩
        · exact kept.symm.trans set
        · exact graceful.sets timer issued before
        · cases reset.symm.trans set
      exact since.flags timer before wasSet
    · right
      have clock := since.clock
      omega

theorem since_of_reaches (reached : (server powTen).Reaches Graceful mid state) : Since mid state :=
  reached.invariant ⟨le_rfl, fun _ _ set => .inl set⟩
    fun _ _ _ _ since graceful cases => since.step graceful cases

end Earlier

section Callbacks

variable {state next : ServerState} {action : ServerAction} {timer : Grace} {powTen : ℚ → ℚ}

/-- A callback completes the match only after it has found the flag, and deletes the hash only
after that. -/
def watching (timer : Grace) : Protocol signature Bool where
  allows found cmd := cmd.completes = true → found = true
  expects _ _ _ := True
  after found cmd reply :=
    match cmd, reply with
    | .hGetAll roomId, some fields =>
      if roomId = timer.roomId then fields.disconnected timer.side else found
    | .battle _ (.delHash _), _ => false
    | .setDisconnected _ _ _, _ => false
    | _, _ => found

theorem endBattle_watched (roomId : RoomId) (loserId : UserId) (reason : EndReason) :
    (within roomId (Api.endBattle powTen roomId loserId reason)).Obeys (watching timer)
      (fun _ _ => True) true := by
  refine ⟨fun _ => rfl, fun _ _ => ⟨fun _ => rfl, fun found _ => ?_⟩⟩
  rcases found with failure | _ | _
  · trivial
  · trivial
  · refine ⟨fun _ => rfl, fun _ _ => ⟨fun _ => rfl, fun _ _ => ⟨fun _ => rfl, fun _ _ =>
      ⟨fun _ => rfl, fun completed _ => ?_⟩⟩⟩⟩
    rcases completed with failure | _
    · trivial
    · refine ⟨fun _ => rfl, fun updated _ => ?_⟩
      rcases updated with failure | _
      · trivial
      · refine ⟨fun _ => rfl, fun updated _ => ?_⟩
        rcases updated with _ | _
        · trivial
        · exact ⟨fun _ => rfl, fun _ _ => ⟨fun _ => rfl, fun _ _ => trivial⟩⟩

theorem body_watched (id : ℕ) :
    ((server powTen).body id (.graceElapsed timer)).Obeys (watching timer) (fun _ _ => True)
      false := by
  refine Program.obeys_bind.mpr (Throwing.obeys_bind ⟨by rintro ⟨⟩, fun battleState _ => ?_⟩)
  cases battleState with
  | none => trivial
  | some fields =>
    change Program.Obeys _ _
      (ExceptT.run (if fields.disconnected timer.side = true then _ else _))
      (if timer.roomId = timer.roomId then fields.disconnected timer.side else false)
    rw [if_pos (rfl : timer.roomId = timer.roomId)]
    cases fields.disconnected timer.side with
    | true =>
      exact Program.obeys_bind.mpr ((endBattle_watched _ _ _).mono fun _ _ _ => trivial)
    | false => trivial

theorem found_after {cmd : Cmd} {choice : Choice} {store : Store} {found : Bool}
    (set : found = true → store.disconnected timer.roomId timer.side = true)
    (isFound : (watching timer).after found cmd (handle cmd choice store).1 = true) :
    (handle cmd choice store).2.disconnected timer.roomId timer.side = true := by
  rw [disconnected_handle]
  cases cmd with
  | hGetAll room =>
    cases kept : store.base.hashes room with
    | none =>
      simp only [handle, kept] at isFound
      exact set isFound
    | some =>
      simp only [handle, kept, Option.map_some, watching] at isFound
      split at isFound
      · rename_i same
        exact same ▸ isFound
      · exact set isFound
  | battle _ cmd =>
    cases cmd with
    | delHash => cases isFound
    | _ => exact set isFound
  | setDisconnected => cases isFound
  | _ => exact set isFound

/-- The callback of a timer is due, and if it has found the flag and goes on, the flag is set. -/
def WatchedBy (store : Store) (timer : Grace) (program : Program signature Unit) : Prop :=
  timer.dueAt ≤ store.clock ∧
    ∃ found, program.Obeys (watching timer) (fun _ _ => True) found ∧
      (found = true → store.disconnected timer.roomId timer.side = true)

def Watched (state : ServerState) : Prop :=
  ∀ id timer program, state.processes id = some ⟨.graceElapsed timer, program⟩ →
    WatchedBy state.store timer program

theorem Watched.other (watched : Watched state) (graceful : Graceful state action)
    (cases : (server powTen).StepCases state action next) {id : ℕ}
    {program : Program signature Unit}
    (running : state.processes id = some ⟨.graceElapsed timer, program⟩)
    (waits : ∀ choice, action ≠ .advance id choice) : WatchedBy next.store timer program := by
  rcases watched id timer program running with ⟨due, found, obeys, set⟩
  refine ⟨due.trans (clock_le_of_step cases), ?_⟩
  cases found with
  | false => exact ⟨false, obeys, by rintro ⟨⟩⟩
  | true =>
    rcases disconnected_step cases timer.roomId timer.side with
      kept | ⟨isSet, _⟩ | ⟨_, resets⟩
    · exact ⟨true, obeys, fun _ => kept.trans (set rfl)⟩
    · exact ⟨true, obeys, fun _ => isSet⟩
    · rw [graceful.resets id timer program running waits resets]
      exact ⟨false, trivial, by rintro ⟨⟩⟩

theorem Watched.step (watched : Watched state) (graceful : Graceful state action)
    (cases : (server powTen).StepCases state action next) : Watched next := by
  intro id timer _ running
  have step := cases
  cases cases with
  | start started _ _ _ accepted =>
    rcases accept_cases accepted with ⟨clock, _, _, due⟩
    by_cases same : id = started
    · subst same
      cases (update_self id _ state.processes).symm.trans running
      exact ⟨(due timer rfl).2.trans clock.ge, false, body_watched id, by rintro ⟨⟩⟩
    · exact watched.other graceful step ((update_of_ne same ..).symm.trans running)
        (by rintro _ ⟨⟩)
  | advance advanced _ _ _ _ waiting =>
    by_cases same : id = advanced
    · subst same
      cases (update_self id _ state.processes).symm.trans running
      rcases watched id timer _ waiting with ⟨due, _, ⟨_, later⟩, set⟩
      exact ⟨due.trans (clock_le_of_step step), _, later _ trivial, found_after set⟩
    · refine watched.other graceful step ((update_of_ne same ..).symm.trans running) ?_
      rintro _ ⟨⟩
      exact same rfl
  | happen =>
    exact watched.other graceful step running (by rintro _ ⟨⟩)

end Callbacks

/-- If no step disturbs the timers, the flag of a player who loses to one was set at every moment of
the thirty seconds before. -/
theorem grace_kept (powTen : ℚ → ℚ) {initial mid state : ServerState}
    (unstarted : ∀ id, initial.processes id = none)
    (before : (server powTen).Reaches Graceful initial mid)
    (later : (server powTen).Reaches Graceful mid state) {id : ℕ} {timer : Grace}
    (ended : EndedBy state id timer) (recent : state.store.clock - 30000 < mid.store.clock) :
    mid.store.disconnected timer.roomId timer.side = true := by
  have watched : Watched state := by
    refine (before.trans later).invariant ?_ fun _ _ _ _ watched => watched.step
    intro id timer program running
    rw [unstarted] at running
    cases running
  have since := since_of_reaches later
  rcases Option.any_eq_true _ _ |>.mp ended with ⟨⟨_, program⟩, running, checked⟩
  rcases Bool.and_eq_true_iff.mp checked with ⟨isCallback, completes⟩
  cases of_decide_eq_true isCallback
  cases program with
  | done => cases completes
  | issue =>
    rcases watched id timer _ running with ⟨_, _, ⟨allowed, _⟩, set⟩
    have outstanding : Outstanding state timer := .inr ⟨id, _, running, by rintro ⟨⟩⟩
    rcases since.flags timer outstanding (set (allowed completes)) with wasSet | _
    · exact wasSet
    · omega

def annsTimer : Grace := ⟨"room", .player1, "ann", 30000⟩

def disconnects (id : ℕ) : List ServerAction :=
  .start id (.handleDisconnection "ann") :: List.replicate 4 (.advance id ⟨false⟩)

def timerFires (id : ℕ) : List ServerAction :=
  .start id (.graceElapsed annsTimer) :: List.replicate 6 (.advance id ⟨false⟩)

/-- The first player comes back and disconnects again; the first timer ends the battle a second
later. -/
theorem second_disconnection_loses :
    ∃ mid state, (server fun _ => 1).Reaches Server.anyStep sampleServer mid ∧
      (server fun _ => 1).Reaches Server.anyStep mid state ∧
      (mid.store.clock = 29000 ∧ mid.store.disconnected "room" .player1 = false) ∧
      state.store.clock = 30000 ∧ EndedBy state 3 annsTimer :=
  Server.exists_reaches_twice [0, 1, 2, 3] (fun _ _ => true)
    (disconnects 0 ++ .happen (.passes 10000) :: .start 1 (.handleBattleConnection "ann") ::
      List.replicate 8 (.advance 1 ⟨false⟩) ++ [.happen (.passes 19000)])
    (fun _ _ _ _ => trivial) (fun _ _ => rfl)
    (disconnects 2 ++ .happen (.passes 1000) :: timerFires 3) (by decide +kernel)

def Call.isCallback : Call → Bool
  | .graceElapsed _ => true
  | _ => false

/-- A check for `Graceful`: flags are set before there are timers and never reset. -/
def setsFirst (ids : List ℕ) (state : ServerState) (action : ServerAction) : Bool :=
  match state.issued action, action with
  | some (.setDisconnected _ _ value), _ => value && state.store.graceTimers.isEmpty &&
      ids.all fun id => (state.processes id).all fun process => !process.call.isCallback
  | some (.battle _ (.delHash _)), _ => false
  | _, .happen (.expires _) => false
  | _, _ => true

theorem graceful_of_setsFirst {ids : List ℕ} {state : ServerState} {action : ServerAction}
    (only : state.Only ids) (checked : setsFirst ids state action = true) :
    Graceful state action where
  sets timer issued outstanding := by
    simp only [setsFirst, issued, Bool.and_eq_true] at checked
    rcases checked with ⟨⟨_, noTimers⟩, noCallbacks⟩
    rcases outstanding with pending | ⟨id, program, running, _⟩
    · rw [List.isEmpty_iff.mp noTimers] at pending
      cases pending
    · have listed : id ∈ ids := by
        by_contra unlisted
        cases (only id unlisted).symm.trans running
      have isNone := List.all_eq_true.mp noCallbacks id listed
      rw [running] at isNone
      cases isNone
  resets id timer program running waits resets := by
    rcases resets with issued | ⟨_, issued⟩ | rfl
    · simp only [setsFirst, issued] at checked
      cases checked
    · simp only [setsFirst, issued] at checked
      cases checked
    · cases checked

theorem lasting_disconnection_loses :
    ∃ mid state, (server fun _ => 1).Reaches Graceful sampleServer mid ∧
      (server fun _ => 1).Reaches Graceful mid state ∧ EndedBy state 1 annsTimer ∧
      mid.store.clock = 1 ∧ mid.store.disconnected "room" .player1 = true := by
  rcases Server.exists_reaches_twice [0, 1] (setsFirst [0, 1])
    (disconnects 0 ++ [.happen (.passes 1)]) (fun _ _ => graceful_of_setsFirst) (fun _ _ => rfl)
    (.happen (.passes 29999) :: timerFires 1)
    (by decide +kernel : (((server fun _ => 1).steps [0, 1] (setsFirst [0, 1]) sampleServer
      (disconnects 0 ++ [.happen (.passes 1)])).any fun mid => decide (mid.store.clock = 1) &&
        ((server fun _ => 1).steps [0, 1] (setsFirst [0, 1]) mid
          (.happen (.passes 29999) :: timerFires 1)).any fun state =>
            state.store.clock = 30000 ∧ EndedBy state 1 annsTimer) = true)
    with ⟨mid, state, before, later, early, clock, ended⟩
  refine ⟨mid, state, before, later, ended, early, ?_⟩
  exact grace_kept _ (fun _ => rfl) before later ended (by omega)

end CodeClash.Api.Events
