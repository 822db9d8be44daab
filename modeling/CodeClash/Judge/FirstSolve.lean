import CodeClash.Judge.Ledger

/-!
# The first solution of a room

`checkFirstSolve` reads the mark of a room and, if there is none, writes it and grants the bonus. As
long as no call writes a mark that is there already, at most one call gets it within the hour for
which the mark lives.
-/

namespace CodeClash.Judge

open Async Program

/-- A mark is only written for a solution that passes all tests. -/
def Cmd.Solved : Cmd → Prop
  | .setFirstSolve _ _ solution => solution.passed = solution.total
  | _ => True

section Solved

variable {α : Type} {roomId : RoomId} {userId : UserId}

theorem solved_of_incidental {program : Prog α} (incidental : program.Uses Cmd.Incidental) :
    program.Uses Cmd.Solved := by
  refine uses_mono incidental fun cmd isIncidental => ?_
  cases cmd <;> trivial

theorem checkFirstSolve_solved (solution : ExecutionResult) :
    (checkFirstSolve roomId userId solution).Uses Cmd.Solved := by
  rw [checkFirstSolve]
  split
  · trivial
  · rename_i passed
    apply uses_perform_bind (by exact trivial)
    intro _
    split
    · trivial
    · exact uses_perform_bind (not_not.mp passed) fun _ => trivial

theorem updateBattleState_solved (battleDamage : BattleDamageResult) :
    (updateBattleState roomId userId battleDamage).Uses Cmd.Solved :=
  ⟨trivial, fun _ => ⟨trivial, fun _ => ⟨trivial, fun _ => ⟨trivial, fun _ => trivial⟩⟩⟩⟩

theorem recordDamage_solved (execution : ExecutionRequest) (battleDamage : BattleDamageResult) :
    (recordDamage execution battleDamage).Uses Cmd.Solved := by
  apply uses_bind
  · split
    · exact solved_of_incidental (updatePuzzleBenchmark_incidental _ _ _)
    · trivial
  intro _
  apply uses_bind (solved_of_incidental (storeSubmission_incidental _ _ _))
  intro _
  apply uses_bind (updateBattleState_solved _)
  intro _
  exact solved_of_incidental (emitBattleDamage_incidental _)

theorem assessExecution_solved (execution : ExecutionRequest) (executionResult : ExecutionResult)
    (elapsedSeconds timeLimitSeconds : ℚ) :
    (assessExecution execution executionResult elapsedSeconds timeLimitSeconds).Uses
      Cmd.Solved := by
  apply uses_bind (solved_of_incidental (getPuzzleBenchmark_incidental _ _))
  intro _
  apply uses_bind (checkFirstSolve_solved _)
  intro _
  apply uses_bind (solved_of_incidental getOpponentHp_incidental)
  intro _
  exact uses_bind (recordDamage_solved _ _) fun _ => trivial

theorem executePuzzle_solved (execution : ExecutionRequest) (puzzle : Puzzle) :
    (executePuzzle execution puzzle).Uses Cmd.Solved := by
  apply uses_perform_bind (by exact trivial)
  intro _
  apply uses_bind (solved_of_incidental (startTimeOf_incidental _))
  intro _
  apply uses_perform_bind (by exact trivial)
  intro _
  apply uses_bind (solved_of_incidental (judge0Client_incidental _))
  intro _
  exact assessExecution_solved _ _ _ _

theorem executeCode_solved (securityErrors : String → String → List String)
    (execution : ExecutionRequest) :
    (executeCode securityErrors execution).Uses Cmd.Solved := by
  rw [executeCode]
  split
  · trivial
  apply uses_perform_bind (by exact trivial)
  intro _
  split
  · exact uses_perform_bind (by exact trivial) fun _ => trivial
  apply uses_perform_bind (by exact trivial)
  intro _
  split
  · trivial
  · trivial
  · split
    · trivial
    · exact uses_bind (executePuzzle_solved _ _) fun _ => trivial

end Solved

/-- The clock reads less than an hour after `start`. -/
def WithinHour (start : ℤ) (_state : ServerState) (action : ServerAction) : Prop :=
  ∀ id choice, action = .advance id choice → start ≤ choice.now ∧ choice.now < start + 3600000

/-- A call that is about to mark the room finds it unmarked still. -/
def Unmarked (roomId : RoomId) (state : ServerState) (action : ServerAction) : Prop :=
  ∀ id choice, action = .advance id choice → ∀ userId solution,
    state.issued action = some (.setFirstSolve roomId userId solution) →
      state.store.firstSolves.get choice.now roomId = none

def Event.isFor (roomId : RoomId) : Event → Bool
  | .firstSolved solvedRoom _ _ => solvedRoom = roomId

def Store.firstSolveCount (store : Store) (roomId : RoomId) : ℕ :=
  store.log.countP (Event.isFor roomId)

structure Marked (start : ℤ) (roomId : RoomId) (store : Store) : Prop where
  atMostOne : store.firstSolveCount roomId ≤ 1
  passed : ∀ userId solution, .firstSolved roomId userId solution ∈ store.log →
    solution.passed = solution.total
  present : store.firstSolveCount roomId ≠ 0 →
    ∃ entry, store.firstSolves roomId = some entry ∧ start + 3600000 ≤ entry.expiresAt

section Uniqueness

variable {securityErrors : String → String → List String} {start : ℤ} {roomId : RoomId}
  {store : Store} {choice : Choice}

theorem handle_firstSolves {cmd : Cmd}
    (other : ∀ roomId userId solution, cmd ≠ .setFirstSolve roomId userId solution) :
    (handle cmd choice store).2.firstSolves = store.firstSolves ∧
      (handle cmd choice store).2.log = store.log := by
  cases cmd with
  | setFirstSolve roomId userId solution => exact absurd rfl (other roomId userId solution)
  | createBenchmark =>
    simp only [handle, Store.putBenchmark]
    split <;> exact ⟨rfl, rfl⟩
  | updateBenchmark =>
    simp only [handle, Store.putBenchmark]
    split <;> exact ⟨rfl, rfl⟩
  | _ => exact ⟨rfl, rfl⟩

theorem Marked.congr {next : Store} (marked : Marked start roomId store)
    (firstSolves : next.firstSolves roomId = store.firstSolves roomId)
    (log : next.log.filter (Event.isFor roomId) = store.log.filter (Event.isFor roomId)) :
    Marked start roomId next := by
  have count : next.firstSolveCount roomId = store.firstSolveCount roomId := by
    simp only [Store.firstSolveCount, List.countP_eq_length_filter, log]
  refine ⟨count ▸ marked.atMostOne, ?_, ?_⟩
  · intro userId solution member
    have filtered : .firstSolved roomId userId solution ∈ next.log.filter (Event.isFor roomId) :=
      List.mem_filter.mpr ⟨member, decide_eq_true rfl⟩
    rw [log] at filtered
    exact marked.passed _ _ (List.mem_of_mem_filter filtered)
  · rw [count, firstSolves]
    exact marked.present

theorem Marked.count_eq_zero (marked : Marked start roomId store)
    (soon : choice.now < start + 3600000)
    (absent : store.firstSolves.get choice.now roomId = none) :
    store.firstSolveCount roomId = 0 := by
  by_contra solved
  rcases marked.present solved with ⟨entry, found, _⟩
  have expired := Keys.Expiring.get_eq_none_iff.mp absent entry found
  omega

theorem Marked.mark (marked : Marked start roomId store) {userId : UserId}
    {solution : ExecutionResult} (passed : solution.passed = solution.total)
    (late : start ≤ choice.now) (unsolved : store.firstSolveCount roomId = 0) :
    Marked start roomId (handle (.setFirstSolve roomId userId solution) choice store).2 := by
  have count : (handle (.setFirstSolve roomId userId solution) choice store).2.firstSolveCount
      roomId = 1 := by
    rw [Store.firstSolveCount] at unsolved ⊢
    simp [handle, Event.isFor, unsolved]
  refine ⟨count.le, ?_, fun _ => ⟨_, Keys.Expiring.setEx_self _ _, by simpa using late⟩⟩
  intro _ _ member
  simp only [handle, List.mem_cons, Event.firstSolved.injEq, true_and] at member
  rcases member with ⟨rfl, rfl⟩ | earlier
  · exact passed
  · exact marked.passed _ _ earlier

/--
Any number of calls run within an hour and interleave at every command. As long as every call
that marks the room finds it unmarked still, at most one call is granted the bonus of the room,
and only for a solution that passes all tests.
-/
theorem firstSolve_unique {initial state : ServerState}
    (unstarted : ∀ id, initial.processes id = none) (unlogged : initial.store.log = [])
    (reached : (server securityErrors).Reaches
      (fun state action => WithinHour start state action ∧ Unmarked roomId state action)
      initial state) :
    state.store.firstSolveCount roomId ≤ 1 ∧
      ∀ userId solution, .firstSolved roomId userId solution ∈ state.store.log →
        solution.passed = solution.total := by
  have bodies : ∀ id execution, ((server securityErrors).body id execution).Uses Cmd.Solved :=
    fun _ execution => uses_bind (executeCode_solved _ execution) fun _ => trivial
  have marked : Marked start roomId state.store := by
    refine reached.store_invariant unstarted bodies ?_ ?_ ?_ ?_
    · intro _ store next accepted marked
      cases accepted
      exact marked
    · intro event _ _ happened marked
      cases event <;> cases happened <;> exact marked.congr rfl rfl
    · intro state id choice cmd guarded issued solved marked
      rcases guarded with ⟨withinHour, unmarked⟩
      by_cases marks : ∃ markedRoom userId solution, cmd = .setFirstSolve markedRoom userId solution
      · rcases marks with ⟨markedRoom, userId, solution, rfl⟩
        by_cases same : markedRoom = roomId
        · subst markedRoom
          rcases withinHour id choice rfl with ⟨late, soon⟩
          exact marked.mark solved late
            (marked.count_eq_zero soon (unmarked id choice rfl userId solution issued))
        · refine marked.congr (Keys.Expiring.setEx_of_ne (Ne.symm same) _ _) ?_
          simp [server, handle, Event.isFor, same]
      · have kept := @handle_firstSolves state.store choice cmd
          fun markedRoom userId solution marked => marks ⟨markedRoom, userId, solution, marked⟩
        exact marked.congr (congrFun kept.1 roomId) (congrArg _ kept.2)
    · refine ⟨?_, ?_, ?_⟩ <;> simp [Store.firstSolveCount, unlogged]
  exact ⟨marked.atMostOne, marked.passed⟩

def bothRead : List ServerAction :=
  let call (id : ℕ) (userId : UserId) : List ServerAction :=
    .start id (sampleSolution userId 0).execution :: List.replicate 12 (.advance id (solvedAt 0))
  call 0 "ann" ++ call 1 "bob"

def withinHour (start : ℤ) (_state : ServerState) : ServerAction → Bool
  | .advance _ choice => start ≤ choice.now && choice.now < start + 3600000
  | _ => true

variable {state : ServerState} {action : ServerAction}

theorem withinHour_sound {start : ℤ}
    (checked : withinHour start state action = true) : WithinHour start state action := by
  rintro _ _ rfl
  simpa [withinHour] using checked

def unmarked (roomId : RoomId) (state : ServerState) (action : ServerAction) : Bool :=
  match action, state.issued action with
  | .advance _ choice, some (.setFirstSolve _ _ _) =>
    state.store.firstSolves.get choice.now roomId = none
  | _, _ => true

theorem unmarked_sound {roomId : RoomId}
    (checked : unmarked roomId state action = true) : Unmarked roomId state action := by
  rintro _ _ rfl _ _ issued
  simpa [unmarked, issued] using checked

/-- Both players solve the puzzle and read the mark before either of them writes it. -/
theorem both_players_solve_first :
    ∃ state, (server fun _ _ => []).Reaches (WithinHour 0) freshServer state ∧
      ¬state.store.firstSolveCount "room" ≤ 1 := by
  apply Server.exists_reaches [0, 1] (withinHour 0)
    (bothRead ++ [.advance 0 (solvedAt 0), .advance 1 (solvedAt 0)])
  · intro _ _ _ checked
    exact withinHour_sound checked
  · intro _ _
    rfl
  · decide +kernel

/-- When one of them has written the mark before the other reads it, only the first is granted
the bonus. -/
theorem second_player_solves_later :
    ∃ state, (server fun _ _ => []).Reaches
        (fun state action => WithinHour 0 state action ∧ Unmarked "room" state action)
        freshServer state ∧
      (Server.finished [0, 1] state = true ∧ state.store.firstSolveCount "room" = 1) ∧
      state.store.firstSolveCount "room" ≤ 1 := by
  apply Server.exists_reaches_and [0, 1]
    (fun state action => withinHour 0 state action && unmarked "room" state action)
    (.start 0 (sampleSolution "ann" 0).execution :: .start 1 (sampleSolution "bob" 0).execution ::
      List.replicate 21 (.advance 0 (solvedAt 0)) ++ List.replicate 20 (.advance 1 (solvedAt 0)))
  · intro state _ _ checked
    rw [Bool.and_eq_true] at checked
    exact ⟨withinHour_sound checked.1, unmarked_sound checked.2⟩
  · intro _ _
    rfl
  · decide +kernel
  · intro _ reached
    exact (firstSolve_unique (fun _ => rfl) rfl reached).1

end Uniqueness

end CodeClash.Judge
