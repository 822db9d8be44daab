import CodeClash.Battle.Following

/-!
# Every call keeps to its protocol in every run

In every reachable state each call is in some phase of the protocol of a room, and whatever is
stored or held of a room has two different players.
-/

namespace CodeClash.Battle

open Async Function

def BattleState.Proper (state : BattleState) : Prop := state.player1Id ≠ state.player2Id

def RoomPhase.Proper : RoomPhase → Prop
  | holding (some copy) => copy.Proper
  | settling state _ => state.Proper
  | _ => True

/-- Every call keeps to the protocol of the room from some phase on, and every copy of
the room has two different players. -/
structure Tracked (roomId : RoomId) (state : ServerState) : Prop where
  calls : ∀ id process, state.processes id = some process →
    ∃ phase, Follows roomId process.call phase process.program ∧ phase.Proper
  stored : ∀ battle, state.store.battles roomId = some battle → battle.Proper
  saved : ∀ saved ∈ saves roomId state.store.log, saved.1.Proper

section Runs

variable {powTen : ℚ → ℚ} {users : UserId → Option User} {roomId : RoomId}
  {guard : ServerState → ServerAction → Prop} {state next : ServerState} {action : ServerAction}

variable {call : Call} {phase : RoomPhase} {cmd : Cmd} {id : ℕ}

theorem RoomPhase.MayStore.proper
    {saved : BattleState × Option Strike} (may : phase.MayStore roomId call saved)
    (proper : phase.Proper) : saved.1.Proper := by
  rcases may.copy with ⟨_, rfl, derived⟩
  simp only [BattleState.Proper, derived.player1, derived.player2]
  exact proper

theorem RoomPhase.Proper.after {reply : cmd.Reply}
    (proper : phase.Proper) (allowed : (following roomId call).allows phase cmd)
    (readProper : ∀ battle : BattleState, cmd = .getBattle roomId → HEq reply (some battle) →
      battle.Proper) :
    ((following roomId call).after phase cmd reply).Proper := by
  rcases allowed with ⟨stores, _⟩
  simp only [following, phaseAfter]
  split
  · rename_i state strike saved
    have savedProper := (stores _ saved).proper proper
    simp only [RoomPhase.stored]
    split <;> exact savedProper
  · cases phase <;> exact proper
  · cases cmd with
    | getBattle room =>
      by_cases same : room = roomId
      · subst room
        simp only [if_true]
        cases reply with
        | none => trivial
        | some battle => exact readProper battle rfl HEq.rfl
      · simpa [same] using proper
    | _ => exact proper

theorem tracked_start {store : Store} (tracked : Tracked roomId state)
    (accepted : accept call state.store = some store) :
    Tracked roomId
      ⟨store, update state.processes id (some ⟨call, body powTen id call⟩)⟩ := by
  have calls (starting : (call.startingPhase roomId).Proper) (other : ℕ)
      (process : Process signature Call)
      (found : update state.processes id (some ⟨call, body powTen id call⟩) other =
        some process) :
      ∃ phase, Follows roomId process.call phase process.program ∧ phase.Proper := by
    apply Server.forall_update _ _ found
    · exact ⟨_, body_follows powTen id call, starting⟩
    · intro other process _ known
      exact tracked.calls other process known
  cases accept_cases roomId accepted with
  | created player1Id player2Id problem now matchId different unused =>
    have opening : (openingState player1Id player2Id problem now matchId).Proper := different
    refine ⟨calls ?_, ?_, ?_⟩
    · simp only [Call.startingPhase, if_true]
      exact opening
    · intro battle found
      simp only [Store.save, update_self, Option.some.injEq] at found
      subst battle
      exact opening
    · intro saved present
      rw [saves_save, unused, List.mem_singleton] at present
      subst saved
      exact opening
  | other _ _ notCreate sameBattle sameSaves =>
    refine ⟨calls ?_, ?_, ?_⟩
    · rw [startingPhase_eq_unread notCreate]
      trivial
    · simp only [sameBattle]
      exact tracked.stored
    · simp only [sameSaves]
      exact tracked.saved

theorem tracked_advance {choice : Choice}
    {rest : cmd.Reply → Prog Unit} (tracked : Tracked roomId state)
    (waiting : state.processes id = some ⟨call, .issue cmd rest⟩) :
    Tracked roomId ⟨(handle cmd choice state.store).2, update state.processes id
      (some ⟨call, rest (handle cmd choice state.store).1⟩)⟩ := by
  rcases tracked.calls id _ waiting with ⟨_, ⟨allowed, later⟩, proper⟩
  have savedProper {saved : BattleState × Option Strike}
      (stores : cmd.stores roomId = some saved) : saved.1.Proper :=
    (allowed.1 saved stores).proper proper
  refine ⟨?_, ?_, ?_⟩
  · refine Server.forall_updated ?_ tracked.calls
    refine ⟨_, later _ trivial, proper.after allowed ?_⟩
    intro battle _ reply_eq
    subst cmd
    exact tracked.stored battle (eq_of_heq reply_eq)
  · intro battle found
    rw [handle_battles] at found
    cases stores : cmd.stores roomId with
    | none =>
      rw [stores] at found
      exact tracked.stored battle found
    | some =>
      rw [stores] at found
      simp only [Option.some.injEq] at found
      subst battle
      exact savedProper stores
  · intro saved present
    rw [handle_saves] at present
    rcases List.mem_append.mp present with new | old
    · exact savedProper (Option.mem_toList.mp new)
    · exact tracked.saved saved old

theorem reaches_tracked (roomId : RoomId)
    (reached : (server powTen).Reaches guard (freshServer users) state) :
    Tracked roomId state := by
  apply reached.invariant
  · refine ⟨?_, ?_, ?_⟩
    · intro id _ found
      cases found
    · intro battle found
      cases found
    · intro _ present
      cases present
  · intro _ _ _ _ tracked _ cases
    cases cases with
    | start _ _ _ _ accepted => exact tracked_start tracked accepted
    | advance _ _ _ _ _ waiting => exact tracked_advance tracked waiting
    | happen _ _ happened =>
      rcases happen_cases roomId happened with ⟨battle, sameLog, _⟩
      refine ⟨tracked.calls, ?_, ?_⟩
      · intro stored found
        rcases battle with removed | kept
        · rw [removed] at found
          cases found
        · rw [kept] at found
          exact tracked.stored stored found
      · rw [sameLog]
        exact tracked.saved

end Runs

/-- What belongs to the room is as before, but a battle may have expired. -/
structure Unchanged (roomId : RoomId) (before after : Store) : Prop where
  battle : after.battles roomId = none ∨ after.battles roomId = before.battles roomId
  saves : saves roomId after.log = saves roomId before.log
  ratings : ratings roomId after.log = ratings roomId before.log
  interval : interval roomId after = interval roomId before

/-- The step is not one of a call for the room. -/
def elsewhere (roomId : RoomId) (state : ServerState) : ServerAction → Bool
  | .start _ call => call.roomId ≠ roomId
  | .advance id _ => (state.processes id).all fun process => process.call.roomId ≠ roomId
  | .happen _ => true

def CallsWithin (state : ServerState) : Prop :=
  ∀ id process, state.processes id = some process →
    process.program.Uses (Cmd.Within process.call.roomId)

section Apart

variable {powTen : ℚ → ℚ} {users : UserId → Option User} {roomId : RoomId}
  {state next : ServerState} {action : ServerAction} {first middle last : Store}

theorem Unchanged.trans (unchanged : Unchanged roomId first middle)
    (later : Unchanged roomId middle last) : Unchanged roomId first last := by
  refine ⟨?_, later.saves.trans unchanged.saves, later.ratings.trans unchanged.ratings,
    later.interval.trans unchanged.interval⟩
  rcases later.battle with removed | kept
  · exact Or.inl removed
  · rw [kept]
    exact unchanged.battle

theorem handle_unchanged {cmd : Cmd} {room : RoomId} (within : cmd.Within room)
    (other : room ≠ roomId) (choice : Choice) (store : Store) :
    Unchanged roomId store (handle cmd choice store).2 := by
  have neutral := within.neutral other
  refine ⟨Or.inr ?_, ?_, ?_, ?_⟩
  · rw [handle_battles, neutral.storesNothing]
  · rw [handle_saves, neutral.storesNothing]
    rfl
  · rcases handle_ratings roomId cmd choice store with same | ⟨_, rates, _⟩
    · exact same
    · rw [neutral.ratesNothing] at rates
      cases rates
  · rw [handle_interval]
    cases cmd <;> simp_all [Cmd.Within, Cmd.intervalAfter]

theorem callsWithin_step (within : CallsWithin state)
    (cases : (server powTen).StepCases state action next) : CallsWithin next := by
  cases cases with
  | start id call => exact Server.forall_updated (body_within powTen id call) within
  | advance id _ _ _ _ waiting => exact Server.forall_updated ((within id _ waiting).2 _) within
  | happen => exact within

theorem unchanged_step (within : CallsWithin state) (met : elsewhere roomId state action = true)
    (cases : (server powTen).StepCases state action next) :
    Unchanged roomId state.store next.store := by
  cases cases with
  | start _ _ _ _ accepted =>
    cases accept_cases roomId accepted with
    | created => exact absurd rfl (of_decide_eq_true met)
    | other _ _ _ battle saves ratings interval => exact ⟨Or.inr battle, saves, ratings, interval⟩
  | advance id _ _ _ _ waiting =>
    rw [elsewhere, waiting] at met
    exact handle_unchanged (within id _ waiting).1 (of_decide_eq_true met) _ _
  | happen _ _ happened =>
    rcases happen_cases roomId happened with ⟨battle, sameLog, sameInterval⟩
    exact ⟨battle, by rw [sameLog], by rw [sameLog], sameInterval⟩

/-- However the calls for other rooms run between each other's steps, they leave a room as it is:
its battle, unless the environment removes it, what was saved and rated, and its interval. -/
theorem rooms_stay_apart
    (reached : (server powTen).Reaches Server.anyStep (freshServer users) state)
    (later : (server powTen).Reaches (elsewhere roomId · ·) state next) :
    Unchanged roomId state.store next.store := by
  have within : CallsWithin state := by
    refine reached.invariant ?_ fun _ _ _ _ within _ cases => callsWithin_step within cases
    intro _ _ found
    cases found
  have both : CallsWithin next ∧ Unchanged roomId state.store next.store := by
    apply later.invariant
    · exact ⟨within, Or.inr rfl, rfl, rfl, rfl⟩
    · rintro _ _ _ _ ⟨within, unchanged⟩ met cases
      exact ⟨callsWithin_step within cases, unchanged.trans (unchanged_step within met cases)⟩
  exact both.2

end Apart

theorem second_match_leaves_first :
    ∃ state next : ServerState, (state.store.battles "r").map BattleState.status = some .active ∧
      (next.store.battles "q").isSome ∧ Unchanged "r" state.store next.store := by
  rcases @Server.exists_reaches_only _ _ _ _ _ (server fun _ => 1) Server.anyStep
    (freshServer fun _ => none) [0, 1] (fun _ _ => true) startMatch
    (fun state => (state.store.battles "r").map BattleState.status = some .active ∧
      ((server fun _ => 1).steps [0, 1] (elsewhere "r") state
        [.start 1 (.createMatch "q" "c" "d" sampleProblem 0 none)]).any
          (fun next => decide (next.store.battles "q").isSome) = true) _ (fun _ _ _ _ => trivial)
    (fun _ _ => rfl) (by decide +kernel) with ⟨state, reached, only, active, continued⟩
  rcases Server.exists_reaches [0, 1] (elsewhere "r") _ (fun _ _ _ met => met) only continued with
    ⟨next, later, created⟩
  exact ⟨state, next, active, created, rooms_stay_apart reached later⟩

end CodeClash.Battle
