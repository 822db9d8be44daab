import CodeClash.Async.History
import CodeClash.Battle.Footprint
import Mathlib.Algebra.Group.Prod
import Mathlib.Data.Int.ConditionallyCompleteOrder

/-!
# Rating bookkeeping

Any number of `endBattle` executions run between each other's database calls, on battles that may
share players. Each computes its changes from rows that may be out of date. As every update is an
increment, nothing is lost. Updates are assumed to succeed; other calls may be rejected.
-/

namespace CodeClash.Battle

open Async Program

def expectedScore (powTen : ℚ → ℚ) (winnerElo loserElo : ℤ) : ℚ :=
  1 / (1 + powTen ((loserElo - winnerElo : ℤ) / 400))

theorem kFactor_bounds (games : ℕ) :
    (0 : ℚ) < (if games < 30 then 40 else if games < 100 then 32 else 24) ∧
      (if games < 30 then 40 else if games < 100 then 32 else 24 : ℚ) ≤ 40 := by
  split
  · norm_num
  · split <;> norm_num

theorem calculateEloChange_bounds {powTen : ℚ → ℚ} {winnerElo loserElo : ℤ}
    (winnerGames loserGames : ℕ) (positive : 0 < expectedScore powTen winnerElo loserElo)
    (lessThanOne : expectedScore powTen winnerElo loserElo < 1) :
    (calculateEloChange powTen winnerElo loserElo winnerGames loserGames).1 ∈ Set.Icc 1 40 ∧
      (calculateEloChange powTen winnerElo loserElo winnerGames loserGames).2 ∈
        Set.Icc (-40) (-1) := by
  rcases kFactor_bounds winnerGames with ⟨_, _⟩
  rcases kFactor_bounds loserGames with ⟨_, _⟩
  simp only [calculateEloChange]
  rw [← expectedScore]
  generalize expectedScore powTen winnerElo loserElo = expected at *
  generalize (if winnerGames < 30 then 40 else if winnerGames < 100 then 32 else 24 : ℚ) =
    winnerK at *
  generalize (if loserGames < 30 then 40 else if loserGames < 100 then 32 else 24 : ℚ) =
    loserK at *
  have winnerChange : round (winnerK * (1 - expected)) ≤ 40 := by
    have bounded : winnerK * (1 - expected) < 40 := by nlinarith
    have rounded : round (winnerK * (1 - expected)) < 41 := by
      rw [round, Int.floor_lt]
      push_cast
      linarith
    omega
  have loserChange : -40 ≤ round (loserK * (0 - (1 - expected))) := by
    have bounded : -40 < loserK * (0 - (1 - expected)) := by nlinarith
    rw [round, Int.le_floor]
    push_cast
    linarith
  simp only [Set.mem_Icc]
  omega

structure Ending where
  roomId : RoomId
  state : BattleState
  overrideWinnerId : Option UserId
deriving DecidableEq

namespace Ending

def winnerId (ending : Ending) : UserId := ending.state.winnerId ending.overrideWinnerId

def loserId (ending : Ending) : UserId := ending.state.loserId ending.winnerId

end Ending

def endings (powTen : ℚ → ℚ) : Server signature Store Ending Choice Environment where
  handle := handle
  accept _ store := some store
  body _ ending := endBattle powTen ending.roomId ending.state ending.overrideWinnerId
  happen := happen

def UpdatesSucceed (state : State signature Store Ending)
    (action : Action Ending Choice Environment) : Prop :=
  ∀ id choice roomId effect, action = .advance id choice →
    state.issued action = some (.rate roomId effect) →
      (state.store.rate choice.fails roomId effect).1 = .ok ()

/--
The changes of winner and loser that an execution computes, from its transcript: the
heartbeat and the stored end, then the lookups of the two players in either order.
-/
def changes (powTen : ℚ → ℚ) : List (Answer signature) → Option (ℤ × ℤ)
  | ⟨.now, _⟩ :: ⟨.setBattle _ _ _, _⟩ :: ⟨.order, firstFirst⟩ :: ⟨.findUser _, .ok first⟩ ::
      ⟨.findUser _, .ok second⟩ :: _ =>
        let winner := if firstFirst then first else second
        let loser := if firstFirst then second else first
        some (calculateEloChange powTen (eloOrDefault winner) (eloOrDefault loser)
          (winsOrZero winner) (winsOrZero loser))
  | _ => none

abbrev History := List (Record signature Ending)

def wonChanges (powTen : ℚ → ℚ) (userId : UserId) (history : History) : List ℤ :=
  (startedCalls history).filterMap fun entry =>
    if entry.2.winnerId = userId then
      (changes powTen (transcript entry.1 history)).map Prod.fst
    else none

def lostChanges (powTen : ℚ → ℚ) (userId : UserId) (history : History) : List ℤ :=
  (startedCalls history).filterMap fun entry =>
    if entry.2.loserId = userId then
      (changes powTen (transcript entry.1 history)).map Prod.snd
    else none

def User.standing (user : User) : ℤ × ℕ × ℕ := (user.elo, user.wins, user.losses)

def RatingEffect.gain : RatingEffect → ℤ × ℕ × ℕ
  | .won _ eloChange => (eloChange, 1, 0)
  | .lost _ eloChange => (eloChange, 0, 1)
  | .streakIncremented _ | .streakReset _ => 0

theorem standing_apply (effect : RatingEffect) (user : User) :
    (effect.apply user).standing = user.standing + effect.gain := by
  cases effect <;> simp [RatingEffect.apply, User.standing, RatingEffect.gain]

def tally (userId : UserId) : Answer signature → ℤ × ℕ × ℕ
  | ⟨.rate _ effect, .ok _⟩ => if effect.userId = userId then effect.gain else 0
  | _ => 0

variable {store : Store}

theorem handle_standing {userId : UserId} {before : User} (cmd : Cmd)
    (choice : Choice) (row : store.users userId = some before) :
    ∃ after, (handle cmd choice store).2.users userId = some after ∧
      after.standing = before.standing + tally userId ⟨cmd, (handle cmd choice store).1⟩ := by
  have unchanged (off : cmd.OffRooms) (none : tally userId ⟨cmd, (handle cmd choice store).1⟩ = 0) :
      ∃ after, (handle cmd choice store).2.users userId = some after ∧
        after.standing = before.standing + tally userId ⟨cmd, (handle cmd choice store).1⟩ := by
    refine ⟨before, ?_, by simp [none]⟩
    rw [(handle_sameRooms off).users, row]
  cases cmd with
  | rate _ effect =>
    simp only [handle, Store.rate]
    cases choice.fails with
    | true => exact ⟨before, row, by simp [tally]⟩
    | false =>
      cases found : store.users effect.userId with
      | none => exact ⟨before, row, by simp [tally]⟩
      | some user =>
        by_cases same : effect.userId = userId
        · subst userId
          rw [found, Option.some.injEq] at row
          subst row
          refine ⟨effect.apply user, by simp, ?_⟩
          simp [tally, standing_apply]
        · refine ⟨before, ?_, by simp [tally, same]⟩
          simp [Function.update_of_ne (Ne.symm same), row]
  | setBattle => exact ⟨before, row, by simp [tally]⟩
  | setInterval => exact ⟨before, row, by simp [tally]⟩
  | clearInterval _ save =>
    cases save <;> exact ⟨before, row, by simp [tally]⟩
  | _ => exact unchanged (by trivial) (by simp [tally])

theorem happen_users {event : Environment} {after : Store}
    (happened : happen event store = some after) : after.users = store.users := by
  cases event with
  | battleDeleted =>
    simp only [happen] at happened
    split at happened
    · cases happened
    · simp only [Option.some.injEq] at happened
      subst after
      rfl
  | _ =>
    simp only [happen, Option.some.injEq] at happened
    subst after
    rfl

def Ending.share (ending : Ending) (userId : UserId) : Option (ℤ × ℤ) → ℤ × ℕ × ℕ
  | none => 0
  | some (winnerChange, loserChange) =>
    (if ending.winnerId = userId then (winnerChange, 1, 0) else 0) +
      if ending.loserId = userId then (loserChange, 0, 1) else 0

def updateSucceeds (cmd : Cmd) (reply : cmd.Reply) : Prop :=
  match cmd, reply with
  | .rate _ _, updated => updated = .ok ()
  | _, _ => True

/-- The updates of an execution that is done add its share, and it has computed changes unless a
lookup was rejected. -/
structure Accounts (powTen : ℚ → ℚ) (ending : Ending) (past : List (Answer signature)) :
    Prop where
  sum : ∀ userId, (past.map (tally userId)).sum = ending.share userId (changes powTen past)
  computed : (∀ userId failure, ⟨.findUser userId, .error failure⟩ ∉ past) →
    changes powTen past ≠ none

structure Written (powTen : ℚ → ℚ) (ending : Ending) (past : List (Answer signature)) :
    Prop where
  sum : ∀ userId more, (past.map (tally userId)).sum =
    ending.share userId (changes powTen (past ++ more))
  computed : ∀ more, changes powTen (past ++ more) ≠ none

section Executions

variable {α : Type} {powTen : ℚ → ℚ} {ending : Ending} {past : List (Answer signature)}

theorem Written.accounts (written : Written powTen ending past) : Accounts powTen ending past := by
  refine ⟨fun userId => ?_, fun _ => ?_⟩
  · have sum := written.sum userId []
    rwa [List.append_nil] at sum
  · have computed := written.computed []
    rwa [List.append_nil] at computed

def Cmd.Harmless (cmd : Cmd) : Prop := ∀ userId reply, tally userId ⟨cmd, reply⟩ = 0

variable {cmd : Cmd} {post : List (Answer signature) → α → Prop} {now : ℤ} {stored : BattleState}
  {strike : Option Strike} {reply : Unit}

theorem Cmd.Quiet.harmless (quiet : cmd.Quiet) : cmd.Harmless := by
  intro _ _
  cases cmd <;> first | rfl | exact absurd quiet not_false

theorem streakIncremented_harmless (roomId : RoomId) (userId : UserId) :
    (Cmd.rate roomId (.streakIncremented userId)).Harmless := by
  intro _ reply
  cases reply <;> simp [tally, RatingEffect.gain]

theorem streakReset_harmless (roomId : RoomId) (userId : UserId) :
    (Cmd.rate roomId (.streakReset userId)).Harmless := by
  intro _ reply
  cases reply <;> simp [tally, RatingEffect.gain]

theorem Written.append (written : Written powTen ending past) (harmless : cmd.Harmless)
    (reply : cmd.Reply) : Written powTen ending (past ++ [⟨cmd, reply⟩]) := by
  refine ⟨fun userId more => ?_, fun more => ?_⟩
  · simp [harmless userId reply, written.sum userId (⟨cmd, reply⟩ :: more)]
  · simp [written.computed]

theorem written_step
    {next : cmd.Reply → Prog α} (written : Written powTen ending past) (harmless : cmd.Harmless)
    (later : ∀ reply past, updateSucceeds cmd reply → Written powTen ending past →
      (next reply).Obeys (recording updateSucceeds) post past) :
    (request cmd >>= next).Obeys (recording updateSucceeds) post past := by
  apply obeys_perform_bind trivial
  intro reply expected
  exact later reply _ expected (written.append harmless reply)

theorem written_quiet {program : Prog α}
    (written : Written powTen ending past) (quiet : program.Uses Cmd.Quiet)
    (final : ∀ past value, Written powTen ending past → post past value) :
    program.Obeys (recording updateSucceeds) post past := by
  induction program generalizing past with
  | done value => exact final past value written
  | issue _ _ ih =>
    rcases quiet with ⟨quietFirst, quietLater⟩
    refine ⟨trivial, ?_⟩
    intro reply _
    exact ih reply (written.append quietFirst.harmless reply) (quietLater reply)

theorem updateBattleStats_writes {winnerChange loserChange : ℤ}
    (computed : ∀ more, changes powTen (past ++ more) = some (winnerChange, loserChange))
    (untouched : ∀ userId, (past.map (tally userId)).sum = 0) :
    (updateBattleStats ending.roomId ending.winnerId ending.loserId winnerChange
      loserChange).Obeys (recording updateSucceeds)
        (fun past _ => Written powTen ending past) past := by
  refine ⟨trivial, ?_⟩
  intro order _
  cases order <;>
  · refine ⟨trivial, ?_⟩
    rintro _ rfl
    refine ⟨trivial, ?_⟩
    rintro _ rfl
    refine ⟨fun userId more => ?_, fun more => ?_⟩
    · by_cases won : ending.winnerId = userId <;> by_cases lost : ending.loserId = userId <;>
        simp [recording, computed, Ending.share, untouched, tally, RatingEffect.gain,
          RatingEffect.userId, won, lost, add_comm]
    · simp [recording, computed]

theorem streaks_written {post : List (Answer signature) → Except Failure Unit → Prop}
    {next : Except Failure Unit → Prog (Except Failure Unit)} {effect : RatingEffect}
    (written : Written powTen ending past)
    (harmless : (Cmd.rate ending.roomId effect).Harmless)
    (later : ∀ past, Written powTen ending past →
      (next (.ok ())).Obeys (recording updateSucceeds) post past) :
    (request (.rate ending.roomId effect) >>= next).Obeys (recording updateSucceeds) post
      past := by
  apply written_step written harmless
  rintro _ past rfl writtenNext
  exact later past writtenNext

/-- The transcript shows the rows of both players, and no update yet. -/
structure Computes (powTen : ℚ → ℚ) (winner loser : Option User)
    (past : List (Answer signature)) : Prop where
  computed : ∀ more, changes powTen (past ++ more) = some (calculateEloChange powTen
    (eloOrDefault winner) (eloOrDefault loser) (winsOrZero winner) (winsOrZero loser))
  untouched : ∀ userId, (past.map (tally userId)).sum = 0

theorem accounts_of_rejected {userId : UserId} {failure : Failure}
    (present : ⟨.findUser userId, .error failure⟩ ∈ past) (uncomputed : changes powTen past = none)
    (untouched : ∀ userId, (past.map (tally userId)).sum = 0) : Accounts powTen ending past := by
  refine ⟨fun userId => ?_, fun never => absurd present (never userId failure)⟩
  rw [untouched, uncomputed]
  rfl

theorem lookup_computes
    {post : List (Answer signature) → Except Failure (Option User × Option User) → Prop}
    (rejected : ∀ past failure, Accounts powTen ending past → post past (.error failure))
    (found : ∀ past winner loser, Computes powTen winner loser past →
      post past (.ok (winner, loser))) :
    (promiseAll (getUserById ending.winnerId) (getUserById ending.loserId)).Obeys
      (recording updateSucceeds) post
      [⟨.now, now⟩, ⟨.setBattle ending.roomId stored strike, reply⟩] := by
  refine ⟨trivial, ?_⟩
  intro order _
  cases order <;>
  · refine ⟨trivial, ?_⟩
    intro first _
    refine ⟨trivial, ?_⟩
    intro second _
    rcases first with ⟨⟨⟩⟩ | first <;> rcases second with ⟨⟨⟩⟩ | _
    · apply rejected
      apply accounts_of_rejected (List.mem_append_right _ (List.mem_singleton.mpr rfl))
      · simp [recording, changes]
      · simp [recording, tally]
    · apply rejected
      apply accounts_of_rejected
        (List.mem_append_left _ (List.mem_append_right _ (List.mem_singleton.mpr rfl)))
      · simp [recording, changes]
      · simp [recording, tally]
    · apply rejected
      apply accounts_of_rejected (List.mem_append_right _ (List.mem_singleton.mpr rfl))
      · simp [recording, changes]
      · simp [recording, tally]
    · apply found
      exact ⟨by simp [recording, changes], by simp [recording, tally]⟩

theorem settleBattle_accounts {state : BattleState} :
    (settleBattle powTen ending.roomId state ending.winnerId ending.loserId).Obeys
      (recording updateSucceeds) (fun past _ => Accounts powTen ending past)
      [⟨.now, now⟩, ⟨.setBattle ending.roomId stored strike, reply⟩] := by
  apply obeys_bind.mpr
  apply lookup_computes
  · intro past failure accounts
    exact accounts
  intro past _ _ computes
  apply obeys_bind.mpr
  apply (updateBattleStats_writes computes.computed computes.untouched).mono
  intro past updated written
  cases updated with
  | error => exact written.accounts
  | ok => ?_
  apply written_step written (Cmd.Quiet.harmless (by trivial))
  intro _ past _ written
  apply written_step written (Cmd.Quiet.harmless (by trivial))
  intro winnerUser past _ written
  cases winnerUser with
  | error => exact written.accounts
  | ok => ?_
  apply obeys_bind.mpr
  apply written_quiet written (quiet_of_plain (checkAndGrant_plain _ _))
  intro past granted written
  cases granted with
  | error => exact written.accounts
  | ok => ?_
  apply streaks_written written (streakIncremented_harmless _ _)
  intro past written
  apply streaks_written written (streakReset_harmless _ _)
  intro past written
  apply written_step written (Cmd.Quiet.harmless (by trivial))
  intro _ past _ written
  apply written_step written (Cmd.Quiet.harmless (by trivial))
  intro _ _ _ written
  exact written.accounts

theorem endBattle_accounts :
    (endBattle powTen ending.roomId ending.state ending.overrideWinnerId).Obeys
      (recording updateSucceeds) (fun past _ => Accounts powTen ending past) [] := by
  apply obeys_bind.mpr
  refine ⟨trivial, ?_⟩
  intro _ _
  refine ⟨trivial, ?_⟩
  intro _ _
  change (settleBattle powTen ending.roomId _ ending.winnerId ending.loserId >>= fun _ =>
    pure ()).Obeys _ _ _
  apply obeys_bind.mpr
  exact settleBattle_accounts

end Executions

section Runs

variable {powTen : ℚ → ℚ} {store : Store} {history : History}
  {state : State signature Store Ending}

theorem standing_sum {userId : UserId} {before : User}
    (runs : (endings powTen).Runs UpdatesSucceed ⟨store, fun _ => none⟩ history state)
    (row : store.users userId = some before) :
    ∃ after, state.store.users userId = some after ∧
      after.standing = before.standing + ((answers history).map (tally userId)).sum := by
  induction runs with
  | refl => exact ⟨before, row, by simp [answers]⟩
  | start _ _ _ accepted ih =>
    rcases ih with ⟨after, found, standing⟩
    cases accepted
    exact ⟨after, found, by simp [standing]⟩
  | @advance _ _ _ choice _ cmd _ _ _ _ ih =>
    rcases ih with ⟨_, found, standing⟩
    rcases handle_standing cmd choice found with ⟨after, foundAfter, added⟩
    refine ⟨after, foundAfter, ?_⟩
    rw [added, standing, answers_answered, List.map_append, List.sum_append, ← add_assoc]
    simp [endings]
  | happen _ _ happened ih =>
    rcases ih with ⟨after, found, standing⟩
    refine ⟨after, ?_, standing⟩
    rw [happen_users happened, found]

variable {id : ℕ}

theorem issued_succeeds {state : State signature Store Ending} {choice : Choice}
    {cmd : Cmd} (met : UpdatesSucceed state (.advance id choice))
    (issued : state.issued (.advance id choice : Action Ending Choice Environment) = some cmd) :
    updateSucceeds cmd (handle cmd choice state.store).1 := by
  cases cmd with
  | rate roomId effect => exact met id choice roomId effect rfl issued
  | _ => trivial

theorem accounts_of_done {ending : Ending}
    (runs : (endings powTen).Runs UpdatesSucceed ⟨store, fun _ => none⟩ history state)
    (finished : ∀ id process, state.processes id = some process → process.program = .done ())
    (started : (id, ending) ∈ startedCalls history) :
    Accounts powTen ending (transcript id history) := by
  rcases runs.started_process started with ⟨program, found⟩
  have isDone : program = .done () := finished id _ found
  subst isDone
  exact runs.follows (fun _ => rfl) (fun _ _ => endBattle_accounts)
    (fun _ _ _ _ met issued => issued_succeeds met issued) _ _ found

theorem sum_shares (userId : UserId) (calls : List (ℕ × Ending))
    (computed : ℕ → Option (ℤ × ℤ)) :
    (calls.map fun entry => entry.2.share userId (computed entry.1)).sum =
      ((calls.filterMap fun entry => if entry.2.winnerId = userId then
          (computed entry.1).map Prod.fst else none).sum +
        (calls.filterMap fun entry => if entry.2.loserId = userId then
          (computed entry.1).map Prod.snd else none).sum,
      (calls.filterMap fun entry => if entry.2.winnerId = userId then
          (computed entry.1).map Prod.fst else none).length,
      (calls.filterMap fun entry => if entry.2.loserId = userId then
          (computed entry.1).map Prod.snd else none).length) := by
  induction calls with
  | nil => rfl
  | cons entry _ ih =>
    rw [List.map_cons, List.sum_cons, ih]
    cases outcome : computed entry.1 with
    | none => simp [outcome, Ending.share]
    | some =>
      by_cases won : entry.2.winnerId = userId <;>
        by_cases lost : entry.2.loserId = userId <;>
          simp [outcome, Ending.share, won, lost] <;> omega

/--
Any number of executions of `endBattle`, in any interleaving, whose updates all succeed.
When they are done, every row has its initial rating plus the changes computed by the
executions its user won and lost, one more win for each of the first and one more loss for
each of the second. An execution computes changes unless a lookup of its players is
rejected, and they are between 1 and 40 points wherever the expected score is properly
between 0 and 1.
-/
theorem ratings_add_up
    (runs : (endings powTen).Runs UpdatesSucceed ⟨store, fun _ => none⟩ history state)
    (finished : ∀ id process, state.processes id = some process → process.program = .done ()) :
    (∀ userId before, store.users userId = some before →
      ∃ after, state.store.users userId = some after ∧
        after.elo = before.elo + (wonChanges powTen userId history).sum +
          (lostChanges powTen userId history).sum ∧
        after.wins = before.wins + (wonChanges powTen userId history).length ∧
        after.losses = before.losses + (lostChanges powTen userId history).length) ∧
    (∀ id ending, (id, ending) ∈ startedCalls history →
      (∀ userId failure, ⟨.findUser userId, .error failure⟩ ∉ transcript id history) →
        changes powTen (transcript id history) ≠ none) ∧
    ∀ winnerElo loserElo winnerGames loserGames,
      0 < expectedScore powTen winnerElo loserElo →
        expectedScore powTen winnerElo loserElo < 1 →
          (calculateEloChange powTen winnerElo loserElo winnerGames loserGames).1 ∈
              Set.Icc 1 40 ∧
            (calculateEloChange powTen winnerElo loserElo winnerGames loserGames).2 ∈
              Set.Icc (-40) (-1) := by
  refine ⟨?_, ?_, ?_⟩
  · intro userId _ row
    rcases standing_sum runs row with ⟨after, found, standing⟩
    have shares : ((startedCalls history).map fun entry =>
        ((transcript entry.1 history).map (tally userId)).sum) =
          (startedCalls history).map fun entry =>
            entry.2.share userId (changes powTen (transcript entry.1 history)) := by
      apply List.map_congr_left
      intro _ started
      exact (accounts_of_done runs finished started).sum userId
    rw [runs.sum_answers (fun _ => rfl), shares, sum_shares userId _ fun id =>
      changes powTen (transcript id history)] at standing
    simp only [User.standing, Prod.mk_add_mk, Prod.mk.injEq] at standing
    rcases standing with ⟨elo, wins, losses⟩
    refine ⟨after, found, ?_, wins, losses⟩
    rw [elo, add_assoc]
    rfl
  · intro _ _ started answered
    exact (accounts_of_done runs finished started).computed answered
  · intro _ _ winnerGames loserGames positive lessThanOne
    exact calculateEloChange_bounds winnerGames loserGames positive lessThanOne

end Runs

def updatesSucceed (state : State signature Store Ending)
    (action : Action Ending Choice Environment) : Bool :=
  match action, state.issued action with
  | .advance _ choice, some (.rate _ effect) =>
    !choice.fails && (state.store.users effect.userId).isSome
  | _, _ => true

theorem updatesSucceed_sound {ids : List ℕ} (state : State signature Store Ending)
    (action : Action Ending Choice Environment) (_only : state.Only ids)
    (checked : updatesSucceed state action = true) : UpdatesSucceed state action := by
  rintro _ _ _ _ rfl issued
  simp only [updatesSucceed, issued, Bool.and_eq_true, Bool.not_eq_true',
    Option.isSome_iff_exists] at checked
  rcases checked with ⟨succeeds, _, row⟩
  simp [Store.rate, succeeds, row]

/-- Player `a` wins one battle and loses another, and both executions read the rows before
either writes. -/
def winAndLoss : List (Action Ending Choice Environment) :=
  .start 0 ⟨"r", activeBattle 500 0, none⟩ :: .start 1 ⟨"q", activeBattle 0 500, none⟩ ::
    (List.replicate 5 (.advance 0 default) ++ List.replicate 16 (.advance 1 default) ++
      List.replicate 11 (.advance 0 default))

theorem win_and_loss_add_up :
    ∃ history state, (endings fun _ => 1).Runs UpdatesSucceed
        ⟨(freshServer newcomer).store, fun _ => none⟩ history state ∧
      wonChanges (fun _ => 1) "a" history = [20] ∧ lostChanges (fun _ => 1) "a" history = [-20] ∧
        ∃ after, state.store.users "a" = some after ∧ after.elo = 1000 + 20 + -20 ∧
          after.wins = 0 + 1 ∧ after.losses = 0 + 1 := by
  have run : ∃ history state, (endings fun _ => 1).Runs UpdatesSucceed
      ⟨(freshServer newcomer).store, fun _ => none⟩ history state ∧
        (∀ id process, state.processes id = some process → process.program = .done ()) ∧
          (wonChanges (fun _ => 1) "a" history = [20] ∧
            lostChanges (fun _ => 1) "a" history = [-20]) := by
    apply Server.exists_runs [0, 1] updatesSucceed winAndLoss
    · exact updatesSucceed_sound
    · intro _ _
      rfl
    · decide +kernel
  rcases run with ⟨history, state, runs, finished, won, lost⟩
  rcases (ratings_add_up runs finished).1 "a" ⟨"a", 1000, 0, 0, 0⟩ rfl with
    ⟨after, found, elo, wins, losses⟩
  rw [won, lost] at elo
  rw [won] at wins
  rw [lost] at losses
  exact ⟨history, state, runs, won, lost, after, found, elo, wins, losses⟩

end CodeClash.Battle
