import CodeClash.Battle.Tracking

/-!
# Ended battles

What can reopen an ended room is a call that read it before the end, or the timers of `createMatch`,
which write back the state they started from. If, whenever some call stores ENDED, no other call can
still store another status before reading the room again, then ENDED is final.
-/

namespace CodeClash.Battle

open Async Function Server

def Closed : Option BattleState → Prop
  | none => True
  | some state => state.status = .ended

def HasEnded (roomId : RoomId) (log : List Event) : Prop :=
  ∃ saved ∈ saves roomId log, saved.1.status = .ended

instance (roomId : RoomId) (log : List Event) : Decidable (HasEnded roomId log) :=
  inferInstanceAs (Decidable (∃ saved ∈ saves roomId log, saved.1.status = .ended))

/-- No state stored after an ENDED one has another status. The log is newest first. -/
def StaysEnded (roomId : RoomId) (log : List Event) : Prop :=
  (saves roomId log).Pairwise fun later earlier =>
    earlier.1.status = .ended → later.1.status = .ended

instance (roomId : RoomId) (log : List Event) : Decidable (StaysEnded roomId log) :=
  inferInstanceAs (Decidable ((saves roomId log).Pairwise fun later earlier =>
    earlier.1.status = .ended → later.1.status = .ended))

namespace Cmd

def Ends (roomId : RoomId) (cmd : Cmd) : Prop :=
  ∃ saved, cmd.stores roomId = some saved ∧ saved.1.status = .ended

def Reopens (roomId : RoomId) (cmd : Cmd) : Prop :=
  ∃ saved, cmd.stores roomId = some saved ∧ saved.1.status ≠ .ended

end Cmd

def MayReopen (roomId : RoomId) (program : Prog Unit) : Prop :=
  program.Reaches (Cmd.Reads roomId) (Cmd.Reopens roomId)

def NoOtherReopens (roomId : RoomId) (state : ServerState) (id : ℕ) : Prop :=
  ∀ other process, other ≠ id → state.processes other = some process →
    ¬MayReopen roomId process.program

/-- If the step stores ENDED in the room, no other call can still reopen it. -/
def EndsUndisturbed (roomId : RoomId) (state : ServerState) (action : ServerAction) : Prop :=
  ∀ id choice cmd, action = .advance id choice → state.issued action = some cmd →
    cmd.Ends roomId → NoOtherReopens roomId state id

/-- A call in this phase holds no copy of a battle that has not ended. -/
def RoomPhase.Shut : RoomPhase → Prop
  | unread => True
  | holding copy => Closed copy
  | settling _ _ => True

section Calls

variable {roomId : RoomId} {call : Call} {phase : RoomPhase}

theorem RoomPhase.Shut.stores_ended {saved : BattleState × Option Strike} (shut : phase.Shut)
    (may : phase.MayStore roomId call saved) : saved.1.status = .ended := by
  rcases may.copy with ⟨_, rfl, derived⟩
  exact derived.staysEnded shut

theorem RoomPhase.Shut.after {cmd : Cmd} (shut : phase.Shut)
    (allowed : (following roomId call).allows phase cmd) (noRead : cmd ≠ .getBattle roomId)
    (reply : cmd.Reply) : ((following roomId call).after phase cmd reply).Shut := by
  rcases allowed with ⟨stores, _⟩
  simp only [following, phaseAfter]
  split
  · rename_i state strike saved
    have ended := shut.stores_ended (stores _ saved)
    simp only [RoomPhase.stored]
    rw [if_pos ended]
    trivial
  · rename_i effect saved rated
    cases phase with
    | settling => trivial
    | unread => exact shut
    | holding => exact shut
  · cases cmd <;> simp_all

theorem Follows.not_mayReopen {program : Prog Unit} (follows : Follows roomId call phase program)
    (shut : phase.Shut) : ¬MayReopen roomId program := by
  apply Program.Obeys.not_reaches _ _ _ follows shut
  · intro _ _ _
    trivial
  · rintro phase cmd shut ⟨stores, _⟩ ⟨saved, saves, reopened⟩
    exact reopened (shut.stores_ended (stores saved saves))
  · intro _ _ reply shut allowed goesOn
    exact shut.after allowed goesOn reply

end Calls

/-- The room has been used and is closed, and nobody holds an open copy of it. -/
structure Sealed (roomId : RoomId) (state : ServerState) : Prop where
  used : saves roomId state.store.log ≠ [] ∨ interval roomId state.store ≠ none
  closed : Closed (state.store.battles roomId)
  noneReopens : ∀ id process, state.processes id = some process →
    ¬MayReopen roomId process.program

section Sealing

variable {powTen : ℚ → ℚ} {roomId : RoomId} {state next : ServerState} {action : ServerAction}
  {id : ℕ} {call : Call} {cmd : Cmd}

variable {rest : cmd.Reply → Prog Unit} {choice : Choice}

theorem Sealed.stores_ended {saved : BattleState × Option Strike} (sealed_ : Sealed roomId state)
    (waiting : state.processes id = some ⟨call, .issue cmd rest⟩)
    (stores : cmd.stores roomId = some saved) : saved.1.status = .ended := by
  by_contra open_
  have never := sealed_.noneReopens id _ waiting
  exact (Program.not_reaches_issue never).1 ⟨saved, stores, open_⟩

theorem intervalAfter_ne_none {running : Option Bool} (cmd : Cmd) (some_ : running ≠ none) :
    cmd.intervalAfter roomId running ≠ none := by
  cases cmd with
  | setInterval =>
    simp only [Cmd.intervalAfter]
    split <;> simp_all
  | clearInterval =>
    simp only [Cmd.intervalAfter]
    split <;> simp_all
  | _ => exact some_

theorem sealed_start {store : Store} (sealed_ : Sealed roomId state)
    (accepted : accept call state.store = some store) :
    Sealed roomId
      ⟨store, update state.processes id (some ⟨call, body powTen id call⟩)⟩ := by
  cases accept_cases roomId accepted with
  | created _ _ _ _ _ _ unused untimed =>
    rcases sealed_.used with stored | timed
    · exact absurd unused stored
    · exact absurd untimed timed
  | other call _ notCreate sameBattle sameSaves _ sameInterval =>
    refine ⟨?_, ?_, ?_⟩
    · simp only [sameSaves, sameInterval]
      exact sealed_.used
    · simp only [sameBattle]
      exact sealed_.closed
    · refine forall_updated ?_ sealed_.noneReopens
      apply (body_follows powTen id call).not_mayReopen
      rw [startingPhase_eq_unread notCreate]
      trivial

theorem sealed_advance (tracked : Tracked roomId state) (sealed_ : Sealed roomId state)
    (waiting : state.processes id = some ⟨call, .issue cmd rest⟩) :
    Sealed roomId ⟨(handle cmd choice state.store).2, update state.processes id
      (some ⟨call, rest (handle cmd choice state.store).1⟩)⟩ := by
  refine ⟨?_, ?_, ?_⟩
  · rcases sealed_.used with stored | timed
    · left
      rw [handle_saves]
      exact List.append_ne_nil_of_right_ne_nil _ stored
    · right
      rw [handle_interval]
      exact intervalAfter_ne_none cmd timed
  · rw [handle_battles]
    cases stores : cmd.stores roomId with
    | none => exact sealed_.closed
    | some => exact sealed_.stores_ended waiting stores
  · refine forall_updated ?_ sealed_.noneReopens
    by_cases reads : cmd = .getBattle roomId
    · subst cmd
      rcases tracked.calls id _ waiting with ⟨_, ⟨_, later⟩, _⟩
      apply Follows.not_mayReopen (later _ trivial)
      rw [following_after_read]
      exact sealed_.closed
    · exact (Program.not_reaches_issue (sealed_.noneReopens id _ waiting)).2 reads _

theorem sealed_step (tracked : Tracked roomId state) (sealed_ : Sealed roomId state)
    (cases : (server powTen).StepCases state action next) : Sealed roomId next := by
  cases cases with
  | start _ _ _ _ accepted => exact sealed_start sealed_ accepted
  | advance _ _ _ _ _ waiting => exact sealed_advance tracked sealed_ waiting
  | happen _ _ happened =>
    rcases happen_cases roomId happened with ⟨battle, sameLog, sameInterval⟩
    refine ⟨?_, ?_, sealed_.noneReopens⟩
    · rw [sameLog, sameInterval]
      exact sealed_.used
    · rcases battle with removed | kept
      · rw [removed]
        trivial
      · rw [kept]
        exact sealed_.closed

theorem sealed_of_ends (tracked : Tracked roomId state)
    (waiting : state.processes id = some ⟨call, .issue cmd rest⟩) (ends : cmd.Ends roomId)
    (alone : NoOtherReopens roomId state id) :
    Sealed roomId ⟨(handle cmd choice state.store).2, update state.processes id
      (some ⟨call, rest (handle cmd choice state.store).1⟩)⟩ := by
  rcases ends with ⟨_, stores, ended⟩
  refine ⟨Or.inl ?_, ?_, ?_⟩
  · rw [handle_saves, stores]
    exact List.cons_ne_nil _ _
  · rw [handle_battles, stores]
    exact ended
  · intro _ _ found
    apply forall_update _ _ found
    · rcases tracked.calls id _ waiting with ⟨_, ⟨_, later⟩, _⟩
      apply Follows.not_mayReopen (later _ trivial)
      rw [following_after_store stores, RoomPhase.stored, if_pos ended]
      trivial
    · exact alone

end Sealing

section Runs

variable {powTen : ℚ → ℚ} {users : UserId → Option User} {roomId : RoomId}
  {state next : ServerState} {action : ServerAction}

structure EndedInvariant (roomId : RoomId) (state : ServerState) : Prop where
  sealed : HasEnded roomId state.store.log → Sealed roomId state
  stays : StaysEnded roomId state.store.log

variable {store : Store} {call : Call}

variable {cmd : Cmd} {choice : Choice} {after : Store}

theorem hasEnded_handle :
    HasEnded roomId (handle cmd choice store).2.log ↔
      cmd.Ends roomId ∨ HasEnded roomId store.log := by
  simp only [HasEnded, Cmd.Ends, handle_saves, List.mem_append, Option.mem_toList, or_and_right,
    exists_or]

theorem hasEnded_accept
    (accepted : accept call store = some after) (ended : HasEnded roomId after.log) :
    HasEnded roomId store.log := by
  cases accept_cases roomId accepted with
  | created _ _ _ _ _ _ unused =>
    rcases ended with ⟨saved, present, status⟩
    rw [saves_save, unused, List.mem_singleton] at present
    subst saved
    cases status
  | other _ _ _ _ sameSaves =>
    simpa only [HasEnded, sameSaves] using ended

theorem staysEnded_accept
    (accepted : accept call store = some after) (stays : StaysEnded roomId store.log) :
    StaysEnded roomId after.log := by
  cases accept_cases roomId accepted with
  | created _ _ _ _ _ _ unused =>
    rw [StaysEnded, saves_save, unused]
    exact List.pairwise_singleton _ _
  | other _ _ _ _ sameSaves =>
    simpa only [StaysEnded, sameSaves] using stays

theorem endedInvariant_advance {id : ℕ}
    {rest : cmd.Reply → Prog Unit} (tracked : Tracked roomId state)
    (invariant : EndedInvariant roomId state)
    (undisturbed : EndsUndisturbed roomId state (.advance id choice))
    (waiting : state.processes id = some ⟨call, .issue cmd rest⟩) :
    EndedInvariant roomId ⟨(handle cmd choice state.store).2, update state.processes id
      (some ⟨call, rest (handle cmd choice state.store).1⟩)⟩ := by
  have issued : state.issued (.advance id choice : ServerAction) = some cmd := by
    simp [State.issued, waiting, Program.head?]
  refine ⟨?_, ?_⟩
  · intro ended
    by_cases ends : cmd.Ends roomId
    · exact sealed_of_ends tracked waiting ends (undisturbed id choice cmd rfl issued ends)
    · have before := (hasEnded_handle.mp ended).resolve_left ends
      exact sealed_advance tracked (invariant.sealed before) waiting
  · simp only [StaysEnded, handle_saves]
    apply List.pairwise_append.mpr
    refine ⟨?_, invariant.stays, ?_⟩
    · cases cmd.stores roomId <;> simp
    · intro _ present earlier stored ended
      exact (invariant.sealed ⟨earlier, stored, ended⟩).stores_ended waiting
        (Option.mem_toList.mp present)

theorem endedInvariant_step (tracked : Tracked roomId state)
    (invariant : EndedInvariant roomId state) (undisturbed : EndsUndisturbed roomId state action)
    (cases : (server powTen).StepCases state action next) : EndedInvariant roomId next := by
  cases cases with
  | start _ _ _ _ accepted =>
    refine ⟨?_, staysEnded_accept accepted invariant.stays⟩
    intro ended
    exact sealed_start (invariant.sealed (hasEnded_accept accepted ended)) accepted
  | advance _ _ _ _ _ waiting =>
    exact endedInvariant_advance tracked invariant undisturbed waiting
  | happen event store happened =>
    rcases happen_cases roomId happened with ⟨_, sameLog, _⟩
    refine ⟨?_, ?_⟩
    · intro ended
      rw [sameLog] at ended
      exact sealed_step tracked (invariant.sealed ended) (.happen event store happened)
    · rw [sameLog]
      exact invariant.stays

theorem reaches_endedInvariant
    (reached : (server powTen).Reaches (EndsUndisturbed roomId) (freshServer users) state) :
    EndedInvariant roomId state := by
  apply reached.invariant
  · refine ⟨?_, List.Pairwise.nil⟩
    rintro ⟨_, present, _⟩
    cases present
  · intro _ _ _ before invariant undisturbed cases
    exact endedInvariant_step (reaches_tracked roomId before) invariant undisturbed cases

/--
In every run in which nobody holds an open copy of the room when its end is stored,
ENDED is final: whatever the interleaving, no later write stores another status.
-/
theorem ended_is_final
    (reached : (server powTen).Reaches (EndsUndisturbed roomId) (freshServer users) state) :
    StaysEnded roomId state.store.log :=
  (reaches_endedInvariant reached).stays

end Runs

theorem endsUndisturbed_of_sequential {roomId : RoomId} {ids : List ℕ} (state : ServerState)
    (action : ServerAction) (only : state.Only ids)
    (sequential : state.sequential ids action = true) :
    EndsUndisturbed roomId state action := by
  intro _ _ _ _ _ _ _ _ differs found
  subst action
  rw [MayReopen, sequential_done only sequential differs found]
  intro reaches
  exact reaches

/--
A player forfeits while the countdown of `createMatch` is still pending: the room is
stored as ENDED, and the first timer then stores COUNTDOWN.
-/
theorem forfeit_before_countdown_reopens :
    ∃ state, (server fun _ => 1).Reaches anyStep (freshServer fun _ => none) state ∧
      ¬StaysEnded "r" state.store.log := by
  apply exists_reaches [0, 1] (fun _ _ => true)
    [.start 0 (.createMatch "r" "a" "b" sampleProblem 0 none), .start 1 (.forfeit "r" "a"),
      .advance 1 default, .advance 1 default, .advance 1 default, .advance 0 default]
  · intro _ _ _ _
    trivial
  · intro _ _
    rfl
  · decide

def forfeitAfterStart : List ServerAction :=
  startMatch ++ .start 1 (.forfeit "r" "a") :: List.replicate 3 (.advance 1 default)

theorem forfeit_after_start_is_final :
    ∃ state, (server fun _ => 1).Reaches (EndsUndisturbed "r") (freshServer fun _ => none) state ∧
      HasEnded "r" state.store.log ∧ StaysEnded "r" state.store.log := by
  apply exists_reaches_and [0, 1] (State.sequential [0, 1]) forfeitAfterStart
  · exact endsUndisturbed_of_sequential
  · intro _ _
    rfl
  · decide
  · intro _ reached
    exact ended_is_final reached

end CodeClash.Battle
