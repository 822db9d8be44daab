import CodeClash.Battle.Ended

/-!
# The interval of a battle

`startBattle` sets an interval whose callback clears it for good when it finds the room missing or
not ACTIVE, and a submission that is being judged makes the room JUDGING for a while. A battle keeps
its interval in every run in which each callback finds it ACTIVE, or closed with nobody left to
reopen it.
-/

namespace CodeClash.Battle

open Async Program Function Server

/-- If the room is ACTIVE or JUDGING and has an interval, the interval is running. -/
def TimerRuns (roomId : RoomId) (store : Store) : Prop :=
  ∀ battle ∈ store.battles roomId, battle.status = .active ∨ battle.status = .judging →
    interval roomId store ≠ some false

instance (roomId : RoomId) (store : Store) : Decidable (TimerRuns roomId store) :=
  inferInstanceAs (Decidable (∀ battle ∈ store.battles roomId, _ → _))

/-- A callback of the interval reads an ACTIVE battle, or a closed one that no other call can
reopen; nor can one that is stored as timed out be reopened. -/
structure TicksSafely (roomId : RoomId) (state : ServerState) (action : ServerAction) :
    Prop where
  finds : ∀ id choice program, action = .advance id choice →
    state.processes id = some ⟨.timerTick roomId, program⟩ →
    program.head? = some (.getBattle roomId) →
      (∃ battle, state.store.battles roomId = some battle ∧ battle.status = .active) ∨
        Closed (state.store.battles roomId) ∧ NoOtherReopens roomId state id
  timesOut : ∀ id choice ended, action = .advance id choice →
    state.issued action = some (.clearInterval roomId (some ended)) →
      NoOtherReopens roomId state id

def Cmd.NoClear (roomId : RoomId) (cmd : Cmd) : Prop :=
  ∀ save, cmd ≠ .clearInterval roomId save

inductive Sight where
  | active
  | inactive

/-- The interval is cleared after the sight of a battle that is not ACTIVE, or together
with the end of the battle. -/
def clearing (roomId : RoomId) : Protocol signature Sight where
  allows sight cmd :=
    (cmd = .clearInterval roomId none → sight = .inactive) ∧
      ∀ saved, cmd = .clearInterval roomId (some saved) → saved.status = .ended
  expects _ _ _ := True
  after sight cmd reply :=
    match cmd, reply with
    | .getBattle room, found =>
      if room = roomId then
        if found.any fun battle => battle.status = .active then .active else .inactive
      else sight
    | _, _ => sight

section Calls

variable {roomId : RoomId} {cmd : Cmd}

theorem Cmd.Quiet.noClear (quiet : cmd.Quiet) : cmd.NoClear roomId := by
  cases cmd <;> simp_all [Cmd.Quiet, Cmd.NoClear]

theorem Cmd.Locking.noClear {userId : UserId} (locking : cmd.Locking userId) :
    cmd.NoClear roomId := by
  cases cmd <;> simp_all [Cmd.Locking, Cmd.NoClear]

theorem Cmd.Within.noClear {room : RoomId} (within : cmd.Within room)
    (other : room ≠ roomId) : cmd.NoClear roomId := by
  cases cmd <;> simp_all [Cmd.Within, Cmd.NoClear]

theorem body_noClear (powTen : ℚ → ℚ) (self : ℕ) {call : Call}
    (notTick : call ≠ .timerTick roomId) :
    (body powTen self call).Uses (Cmd.NoClear roomId) := by
  by_cases same : call.roomId = roomId
  · apply body_uses
    · exact
        { quiet := fun _ => Cmd.Quiet.noClear
          stores := fun _ _ _ => by simp
          rates := fun _ _ => by simp
          reads := fun _ => by simp
          sets := fun _ _ => by simp }
    · intro _ _ _ locking
      exact locking.noClear
    · intro _ _
      subst call
      exact absurd (congrArg Call.timerTick same) notTick
  · exact uses_mono (body_within powTen self call) fun _ within => within.noClear same

variable {sight : Sight}

theorem clearing_after_other (noRead : cmd ≠ .getBattle roomId)
    (reply : cmd.Reply) : (clearing roomId).after sight cmd reply = sight := by
  cases cmd with
  | getBattle room =>
    have other : room ≠ roomId := by
      intro same
      exact noRead (congrArg Cmd.getBattle same)
    simp [clearing, other]
  | _ => rfl

theorem clearing_obeys_of_quiet {α : Type} {post : Sight → α → Prop} {program : Prog α}
    (quiet : program.Uses Cmd.Quiet) (final : ∀ value, post sight value) :
    program.Obeys (clearing roomId) post sight := by
  apply obeys_of_uses _ _ quiet final
  · intro cmd quiet
    exact ⟨fun clears => absurd clears (quiet.noClear _),
      fun _ clears => absurd clears (quiet.noClear _)⟩
  · intro _ quiet reply
    exact clearing_after_other (quiet.neutral).noRead reply

theorem timerTick_clears (sight : Sight) :
    (timerTick roomId).Obeys (clearing roomId) (fun _ _ => True) sight := by
  apply obeys_perform_bind
  · exact ⟨by simp, by simp⟩
  intro found _
  have after_eq : (clearing roomId).after sight (.getBattle roomId) found =
      if found.any fun battle => battle.status = .active then .active else .inactive := by
    simp [clearing]
  rw [after_eq]
  cases found with
  | none => exact ⟨⟨fun _ => rfl, by simp⟩, fun _ _ => trivial⟩
  | some =>
    simp only
    split
    · rename_i inactive
      refine ⟨⟨fun _ => by simp [inactive], by simp⟩, fun _ _ => trivial⟩
    · apply obeys_bind.mpr
      apply clearing_obeys_of_quiet (uses_perform (by trivial))
      intro _
      apply obeys_bind.mpr
      apply clearing_obeys_of_quiet (uses_perform (by trivial))
      intro _
      apply obeys_bind.mpr
      apply clearing_obeys_of_quiet
      · split
        · exact uses_perform trivial
        · trivial
      intro _
      split
      · apply obeys_perform_bind
        · refine ⟨by simp, ?_⟩
          intro _ clears
          cases clears
          rfl
        · intro _ _
          exact clearing_obeys_of_quiet (uses_perform trivial) fun _ => trivial
      · trivial

end Calls

/-- The call never clears the interval, or it is a callback of the interval that has
only seen the battle ACTIVE unless the room is sealed. -/
def ClearsSealed (roomId : RoomId) (state : ServerState) (process : Process signature Call) :
    Prop :=
  process.program.Uses (Cmd.NoClear roomId) ∨
    process.call = .timerTick roomId ∧ interval roomId state.store ≠ none ∧
      ∃ sight, process.program.Obeys (clearing roomId) (fun _ _ => True) sight ∧
        (sight = .inactive → Sealed roomId state)

structure TimerInvariant (roomId : RoomId) (state : ServerState) : Prop where
  stopped : interval roomId state.store = some false → Sealed roomId state
  calls : ∀ id process, state.processes id = some process → ClearsSealed roomId state process

section Runs

variable {powTen : ℚ → ℚ} {users : UserId → Option User} {roomId : RoomId}
  {state next : ServerState} {action : ServerAction}

theorem ClearsSealed.mono {process : Process signature Call}
    (clears : ClearsSealed roomId state process)
    (timed : interval roomId state.store ≠ none → interval roomId next.store ≠ none)
    (staysSealed : Sealed roomId state → Sealed roomId next) :
    ClearsSealed roomId next process := by
  rcases clears with never | ⟨isTick, wasTimed, sight, obeys, seals⟩
  · exact Or.inl never
  · exact Or.inr ⟨isTick, timed wasTimed, sight, obeys, fun inactive =>
      staysSealed (seals inactive)⟩

variable {call : Call} {store : Store} {cmd : Cmd} {id : ℕ} {choice : Choice}

variable {after : Store} {rest : cmd.Reply → Prog Unit}

theorem interval_accept (accepted : accept call store = some after) :
    interval roomId after = interval roomId store := by
  cases accept_cases roomId accepted with
  | created => rfl
  | other _ _ _ _ _ _ sameInterval =>
    exact sameInterval

theorem interval_of_tick (accepted : accept (.timerTick roomId) store = some after) :
    interval roomId store ≠ none := by
  intro untimed
  simp only [interval, Option.map_eq_none_iff] at untimed
  simp [accept, untimed] at accepted

theorem intervalAfter_eq_false {running : Option Bool}
    (stopped : cmd.intervalAfter roomId running = some false) :
    (∃ save, cmd = .clearInterval roomId save) ∨ running = some false := by
  cases cmd with
  | setInterval =>
    simp only [Cmd.intervalAfter] at stopped
    split at stopped
    · cases stopped
    · exact Or.inr stopped
  | clearInterval _ save =>
    simp only [Cmd.intervalAfter] at stopped
    split at stopped
    · rename_i same
      exact Or.inl ⟨save, by rw [same]⟩
    · exact Or.inr stopped
  | _ => exact Or.inr stopped

theorem timerInvariant_start
    (invariant : TimerInvariant roomId state) (accepted : accept call state.store = some store) :
    TimerInvariant roomId
      ⟨store, update state.processes id (some ⟨call, body powTen id call⟩)⟩ := by
  have same : interval roomId store = interval roomId state.store := interval_accept accepted
  have staysSealed (sealed_ : Sealed roomId state) : Sealed roomId
      ⟨store, update state.processes id (some ⟨call, body powTen id call⟩)⟩ :=
    sealed_start sealed_ accepted
  refine ⟨?_, ?_⟩
  · simp only [same]
    intro stopped
    exact staysSealed (invariant.stopped stopped)
  · intro other process found
    apply forall_update _ _ found
    · by_cases isTick : call = .timerTick roomId
      · subst call
        right
        refine ⟨rfl, ?_, .active, timerTick_clears .active, ?_⟩
        · simp only [same]
          exact interval_of_tick accepted
        · intro inactive
          cases inactive
      · exact Or.inl (body_noClear powTen id isTick)
    · intro other process _ known
      apply (invariant.calls other process known).mono
      · intro timed
        rw [same]
        exact timed
      · exact staysSealed

theorem sealed_of_closed_read
    {rest : Option BattleState → Prog Unit} (tracked : Tracked roomId state)
    (waiting : state.processes id = some ⟨call, .issue (.getBattle roomId) rest⟩)
    (timed : interval roomId state.store ≠ none) (closed : Closed (state.store.battles roomId))
    (alone : NoOtherReopens roomId state id) :
    Sealed roomId ⟨(handle (.getBattle roomId) choice state.store).2,
      update state.processes id
        (some ⟨call, rest (handle (.getBattle roomId) choice state.store).1⟩)⟩ := by
  refine ⟨Or.inr timed, closed, ?_⟩
  intro _ _ found
  apply forall_update _ _ found
  · rcases tracked.calls id _ waiting with ⟨_, ⟨_, later⟩, _⟩
    apply Follows.not_mayReopen (later _ trivial)
    rw [following_after_read]
    exact closed
  · exact alone

theorem clearsSealed_advance (tracked : Tracked roomId state)
    (invariant : TimerInvariant roomId state)
    (safely : TicksSafely roomId state (.advance id choice))
    (waiting : state.processes id = some ⟨call, .issue cmd rest⟩) :
    ClearsSealed roomId ⟨(handle cmd choice state.store).2, update state.processes id
      (some ⟨call, rest (handle cmd choice state.store).1⟩)⟩
      ⟨call, rest (handle cmd choice state.store).1⟩ := by
  rcases invariant.calls id _ waiting with ⟨_, never⟩ | ⟨isTick, timed, _, ⟨_, later⟩, seals⟩
  · exact Or.inl (never _)
  change call = .timerTick roomId at isTick
  subst call
  right
  refine ⟨rfl, ?_, _, later (handle cmd choice state.store).1 trivial, ?_⟩
  · simp only [handle_interval]
    exact intervalAfter_ne_none cmd timed
  by_cases reads : cmd = .getBattle roomId
  · subst cmd
    intro inactive
    rcases safely.finds id choice _ rfl waiting rfl with ⟨_, found, active⟩ | ⟨closed, alone⟩
    · simp [clearing, handle, found, active] at inactive
    · exact sealed_of_closed_read tracked waiting timed closed alone
  · intro inactive
    apply sealed_advance tracked _ waiting
    apply seals
    rw [← inactive, clearing_after_other reads]

theorem timerInvariant_advance (tracked : Tracked roomId state)
    (invariant : TimerInvariant roomId state)
    (safely : TicksSafely roomId state (.advance id choice))
    (waiting : state.processes id = some ⟨call, .issue cmd rest⟩) :
    TimerInvariant roomId ⟨(handle cmd choice state.store).2, update state.processes id
      (some ⟨call, rest (handle cmd choice state.store).1⟩)⟩ := by
  have staysSealed (sealed_ : Sealed roomId state) :
      Sealed roomId ⟨(handle cmd choice state.store).2, update state.processes id
        (some ⟨call, rest (handle cmd choice state.store).1⟩)⟩ :=
    sealed_advance tracked sealed_ waiting
  refine ⟨?_, ?_⟩
  · simp only [handle_interval]
    intro stopped
    rcases intervalAfter_eq_false stopped with ⟨save, rfl⟩ | before
    · rcases invariant.calls id _ waiting with ⟨never, _⟩ | ⟨_, _, _, ⟨allowed, _⟩, seals⟩
      · exact absurd rfl (never save)
      cases save with
      | none => exact staysSealed (seals (allowed.1 rfl))
      | some saved =>
        have issued : state.issued (.advance id choice : ServerAction) =
            some (.clearInterval roomId (some saved)) := by
          simp [State.issued, waiting, Program.head?]
        apply sealed_of_ends tracked waiting
        · exact ⟨(saved, none), by simp [Cmd.stores], allowed.2 saved rfl⟩
        · exact safely.timesOut id choice saved rfl issued
    · exact staysSealed (invariant.stopped before)
  · intro other process found
    apply forall_update _ _ found
    · exact clearsSealed_advance tracked invariant safely waiting
    · intro other process _ known
      apply (invariant.calls other process known).mono
      · simp only [handle_interval]
        exact intervalAfter_ne_none cmd
      · exact staysSealed

theorem timerInvariant_step (tracked : Tracked roomId state)
    (invariant : TimerInvariant roomId state) (safely : TicksSafely roomId state action)
    (cases : (server powTen).StepCases state action next) : TimerInvariant roomId next := by
  cases cases with
  | start _ _ _ _ accepted => exact timerInvariant_start invariant accepted
  | advance _ _ _ _ _ waiting =>
    exact timerInvariant_advance tracked invariant safely waiting
  | happen event store happened =>
    rcases happen_cases roomId happened with ⟨_, _, sameInterval⟩
    have staysSealed (sealed_ : Sealed roomId state) :
        Sealed roomId ⟨store, state.processes⟩ :=
      sealed_step tracked sealed_ (.happen event store happened)
    refine ⟨?_, ?_⟩
    · simp only [sameInterval]
      intro stopped
      exact staysSealed (invariant.stopped stopped)
    · intro other process known
      apply (invariant.calls other process known).mono
      · intro timed
        rw [sameInterval]
        exact timed
      · exact staysSealed

/--
In every run in which the callbacks of the interval find the battle ACTIVE or closed
for good, and timeouts are stored when nobody can reopen the room, a started battle
that is ACTIVE or JUDGING has its interval running.
-/
theorem timer_runs
    (reached : (server powTen).Reaches (TicksSafely roomId) (freshServer users) state) :
    TimerRuns roomId state.store := by
  have invariant : TimerInvariant roomId state := by
    apply reached.invariant
    · refine ⟨?_, ?_⟩
      · intro stopped
        cases stopped
      · intro _ _ found
        cases found
    · intro _ _ _ before invariant safely cases
      exact timerInvariant_step (reaches_tracked roomId before) invariant safely cases
  intro battle found started stopped
  have closed := (invariant.stopped stopped).closed
  rw [Option.mem_def] at found
  rw [found] at closed
  change battle.status = .ended at closed
  rcases started with active | judging
  · rw [active] at closed
    cases closed
  · rw [judging] at closed
    cases closed

end Runs

/--
A callback of the interval finds the battle JUDGING and clears the interval. The
battle goes on without a timer.
-/
theorem tick_while_judging_stops_timer :
    ∃ state, (server fun _ => 1).Reaches anyStep (freshServer fun _ => none) state ∧
      ¬TimerRuns "r" state.store := by
  apply exists_reaches [0, 1, 2] (fun _ _ => true)
    (startMatch ++
      .start 1 (submission "a") :: List.replicate 5 (.advance 1 default) ++
      .start 2 (.timerTick "r") :: List.replicate 2 (.advance 2 default))
  · intro _ _ _ _
    trivial
  · intro _ _
    rfl
  · decide

def findsActive (roomId : RoomId) (state : ServerState) (action : ServerAction) : Bool :=
  match state.issued action with
  | some (.getBattle _) => (state.store.battles roomId).any fun battle => battle.status = .active
  | _ => true

theorem ticksSafely_of_sequential {roomId : RoomId} {ids : List ℕ} (state : ServerState)
    (action : ServerAction) (only : state.Only ids)
    (checked : (state.sequential ids action && findsActive roomId state action) = true) :
    TicksSafely roomId state action := by
  rcases Bool.and_eq_true_iff.mp checked with ⟨sequential, finds⟩
  refine ⟨?_, ?_⟩
  · intro id choice _ action_eq found head
    subst action
    have issued : state.issued (.advance id choice : ServerAction) = some (.getBattle roomId) := by
      simpa [State.issued, found] using head
    left
    simpa [findsActive, issued, Option.any_eq_true] using finds
  · intro _ _ _ _ _ _ _ differs known
    subst action
    rw [MayReopen, sequential_done only sequential differs known]
    intro reaches
    exact reaches

theorem tick_between_submissions_keeps_timer :
    ∃ state, (server fun _ => 1).Reaches (TicksSafely "r") (freshServer fun _ => none) state ∧
      interval "r" state.store = some true ∧ TimerRuns "r" state.store := by
  apply exists_reaches_and [0, 1]
    (fun state action => state.sequential [0, 1] action && findsActive "r" state action)
    (startMatch ++ .start 1 (.timerTick "r") :: List.replicate 3 (.advance 1 default))
  · exact ticksSafely_of_sequential
  · intro _ _
    rfl
  · decide
  · intro _ reached
    exact timer_runs reached

end CodeClash.Battle
