import CodeClash.Async.History
import CodeClash.Rating.Arithmetic
import Mathlib.Algebra.Order.Group.Multiset

/-!
# Ratings that get lost

`updateEloAfterBattle` reads the ratings of the players, computes the new ratings and writes them.
An update by another call between the read and the write is lost. As long as every call writes a
rating that it has read last, the changes that two calls report add up.
-/

namespace CodeClash.Rating

open Async Throwing

abbrev History := List (Record signature Call)

def ratingChanges (userId : UserId) : Answer signature → List ℤ
  | ⟨.updateUser other update, .ok _⟩ =>
    if other = userId then (update.rating?.map RatingUpdate.change).toList else []
  | _ => []

def changesIn (userId : UserId) (past : List (Answer signature)) : List ℤ :=
  past.flatMap (ratingChanges userId)

def reportedResult : Answer signature → Option EloUpdateResult
  | ⟨.respond (.battle (.ok result)), _⟩ => some result
  | _ => none

def results (past : List (Answer signature)) : List EloUpdateResult :=
  past.filterMap reportedResult

def EloUpdateResult.changes (result : EloUpdateResult) (userId : UserId) : List ℤ :=
  (if result.winnerId = userId then [result.winnerEloChange] else []) ++
    if result.loserId = userId then [result.loserEloChange] else []

/-- A step that writes a rating of the user has read the rating that the user has. -/
def Current (userId : UserId) (state : ServerState) (action : ServerAction) : Prop :=
  ∀ update rating user, state.issued action = some (.updateUser userId update) →
    update.rating? = some rating → state.store.users.find userId = some user →
      rating.oldElo = user.elo

/-- No result has been reported, and these are the changes made so far. -/
structure Accounted (made : UserId → List ℤ) (past : List (Answer signature)) : Prop where
  changes : ∀ userId, changesIn userId past = made userId
  unreported : results past = []

structure Reports (battleResult : BattleResult) (past : List (Answer signature))
    (result : EloUpdateResult) : Prop where
  changes : ∀ userId, changesIn userId past = result.changes userId
  winnerId : result.winnerId = battleResult.winnerId
  loserId : result.loserId = battleResult.loserId
  winnerBound : -32 ≤ result.winnerEloChange
  loserBound : -32 ≤ result.loserEloChange

abbrev transcribing : Protocol signature (List (Answer signature)) := recording fun _ _ => True

section Calls

variable {powTen : ℚ → ℚ} {made : UserId → List ℤ} {past : List (Answer signature)}

theorem Accounted.append (accounted : Accounted made past) (answer : Answer signature)
    (unreported : reportedResult answer = none) :
    Accounted (fun userId => made userId ++ ratingChanges userId answer) (past ++ [answer]) := by
  refine ⟨?_, ?_⟩
  · intro userId
    simp only [changesIn, List.flatMap_append, List.flatMap_singleton]
    exact congrArg (· ++ _) (accounted.changes userId)
  · have before : past.filterMap reportedResult = [] := accounted.unreported
    simp [results, before, unreported]

theorem Accounted.quiet (accounted : Accounted made past) {cmd : Cmd}
    (keeps : cmd.KeepsRatings) (reply : cmd.Reply) : Accounted made (past ++ [⟨cmd, reply⟩]) := by
  have unreported : reportedResult ⟨cmd, reply⟩ = none := by
    cases cmd with
    | respond => exact keeps.elim
    | _ => rfl
  have unchanged (userId : UserId) : ratingChanges userId ⟨cmd, reply⟩ = [] := by
    cases cmd with
    | updateUser _ update =>
      have unrated : update.rating? = none := keeps
      cases reply <;> simp [ratingChanges, unrated]
    | _ => rfl
  have appended := accounted.append _ unreported
  simp only [unchanged, List.append_nil] at appended
  exact appended

theorem accounted_of_keeps {α : Type} {program : Prog α}
    (keeps : program.run.Uses Cmd.KeepsRatings) (accounted : Accounted made past) :
    program.run.Obeys transcribing (fun reached _ => Accounted made reached) past := by
  refine keeps.obeys_invariant (fun _ _ _ _ => trivial) ?_ accounted
  intro _ _ reply accounted keepsRatings _
  exact accounted.quiet keepsRatings reply

theorem calculateExpectedScore_mem (positive : ∀ x, 0 < powTen x) (playerElo opponentElo : ℤ) :
    0 ≤ calculateExpectedScore powTen playerElo opponentElo ∧
      calculateExpectedScore powTen playerElo opponentElo ≤ 1 := by
  have power := positive ((opponentElo - playerElo : ℤ) / 400)
  rw [calculateExpectedScore]
  constructor
  · exact div_nonneg zero_le_one (by linarith)
  · exact (div_le_one (by linarith)).mpr (by linarith)

def Ends (battleResult : BattleResult) (past : List (Answer signature)) :
    Except EloError EloUpdateResult → Prop
  | .ok result => results past = [] ∧ Reports battleResult past result
  | .error _ => results past = []

variable {battleResult : BattleResult}

theorem recordBattle_accounted {winner loser : RatingUpdate}
    (accounted : Accounted (fun _ => []) past) :
    (recordBattle battleResult winner loser).run.Obeys transcribing
      (Throwing.Continues (fun reached _ => Accounted
          (fun userId => (if battleResult.winnerId = userId then [winner.change] else []) ++
            if battleResult.loserId = userId then [loser.change] else []) reached)
        fun reached (_ : Except EloError Unit) => results reached = []) past := by
  refine ⟨trivial, ?_⟩
  intro reply _
  have first := accounted.append
    ⟨.updateUser battleResult.winnerId (.win winner), reply⟩ rfl
  cases reply with
  | error => exact first.unreported
  | ok =>
    refine ⟨trivial, ?_⟩
    intro reply _
    have second := first.append
      ⟨.updateUser battleResult.loserId (.loss loser), reply⟩ rfl
    cases reply with
    | error => exact second.unreported
    | ok =>
      refine obeys_bind
        ((accounted_of_keeps recordBattleCompletion_keepsRatings second).mono ?_)
      intro _ outcome accounted
      cases outcome with
      | error => exact accounted.unreported
      | ok =>
        refine (accounted_of_keeps recordBattleCompletion_keepsRatings accounted).mono ?_
        intro _ outcome accounted
        cases outcome with
        | error => exact accounted.unreported
        | ok => exact accounted

theorem rateBattle_ends (positive : ∀ x, 0 < powTen x) (accounted : Accounted (fun _ => []) past) :
    (rateBattle powTen battleResult).run.Obeys transcribing (Ends battleResult) past := by
  refine ⟨trivial, ?_⟩
  intro foundWinner _
  have first := @Accounted.quiet _ _ accounted (.findUser battleResult.winnerId) trivial foundWinner
  cases foundWinner with
  | error => exact first.unreported
  | ok foundWinner =>
    refine ⟨trivial, ?_⟩
    intro foundLoser _
    have second := @Accounted.quiet _ _ first (.findUser battleResult.loserId) trivial foundLoser
    cases foundLoser with
    | error => exact second.unreported
    | ok foundLoser =>
      cases foundWinner with
      | none => exact second.unreported
      | some winner =>
        cases foundLoser with
        | none => exact second.unreported
        | some loser =>
          refine obeys_bind ((recordBattle_accounted second).mono ?_)
          intro _ outcome ended
          cases outcome with
          | error => exact ended
          | ok =>
            have win := calculateExpectedScore_mem positive winner.elo loser.elo
            have loss := calculateExpectedScore_mem positive loser.elo winner.elo
            refine ⟨ended.unreported, ended.changes, rfl, rfl, ?_, ?_⟩
            · exact (eloChange_le zero_le_one le_rfl win.1 win.2).1
            · exact (eloChange_le le_rfl zero_le_one loss.1 loss.2).1

theorem updateEloAfterBattle_ends (positive : ∀ x, 0 < powTen x) (battleResult : BattleResult) :
    (updateEloAfterBattle powTen battleResult).run.Obeys transcribing (Ends battleResult) [] := by
  have start : Accounted (fun _ => []) [] := ⟨fun _ => rfl, rfl⟩
  refine obeys_bind ((accounted_of_keeps canBattle_keepsRatings start).mono ?_)
  intro _ outcome accounted
  cases outcome with
  | error => exact accounted.unreported
  | ok =>
    refine obeys_bind ((accounted_of_keeps canBattle_keepsRatings accounted).mono ?_)
    intro _ outcome accounted
    cases outcome with
    | error => exact accounted.unreported
    | ok =>
      simp only [Throwing.Continues]
      split
      · exact accounted.unreported
      · exact rateBattle_ends positive accounted

/-- The transcript of a battle call that is done reports the changes it has made. -/
def ReportsChanges (call : Call) (past : List (Answer signature)) (_ : Unit) : Prop :=
  ∀ battleResult result, call = .battle battleResult → result ∈ results past →
    Reports battleResult past result

theorem body_reports (positive : ∀ x, 0 < powTen x) (call : Call) :
    (body powTen call).Obeys transcribing (ReportsChanges call) [] := by
  cases call with
  | battle battleResult =>
    refine Program.obeys_bind.mpr ((updateEloAfterBattle_ends positive battleResult).mono ?_)
    intro past outcome ended
    refine ⟨trivial, ?_⟩
    rintro _ _ _ result ⟨rfl⟩ member
    have unreported : results past = [] := by
      cases outcome with
      | ok => exact ended.1
      | error => exact ended
    rw [results] at unreported
    simp only [recording, results, List.filterMap_append, unreported] at member
    cases outcome with
    | error => cases member
    | ok =>
      cases List.mem_singleton.mp member
      refine ⟨?_, ended.2.winnerId, ended.2.loserId, ended.2.winnerBound, ended.2.loserBound⟩
      intro userId
      rw [← ended.2.changes userId]
      simp [recording, changesIn, ratingChanges]
  | draw =>
    exact Program.obeys_of_forall (fun _ _ => trivial) (fun _ _ _ _ => nofun) _ _
  | decay => exact Program.obeys_of_forall (fun _ _ => trivial) (fun _ _ _ _ => nofun) _ _

end Calls

section Runs

variable {powTen : ℚ → ℚ} {users : Keys.Table UserId User} {userId : UserId}
  {history : History} {state : ServerState}

def applyChanges (elo : ℤ) (changes : List ℤ) : ℤ :=
  changes.foldl (fun elo change => applyMinimumElo (elo + change)) elo

theorem applyChanges_eq_add_sum {elo : ℤ} {changes : List ℤ}
    (bounded : ∀ change ∈ changes, -32 ≤ change) (high : 800 + 32 * (changes.length : ℤ) ≤ elo) :
    applyChanges elo changes = elo + changes.sum := by
  induction changes generalizing elo with
  | nil => simp [applyChanges]
  | cons change _ ih =>
    have bound := bounded change List.mem_cons_self
    rw [List.length_cons] at high
    push_cast at high
    have uncut : applyMinimumElo (elo + change) = elo + change :=
      max_eq_left (by rw [getMinimumElo]; omega)
    rw [List.sum_cons, ← add_assoc,
      ← ih (fun other member => bounded other (List.mem_cons_of_mem _ member)) (by omega)]
    simp only [applyChanges, List.foldl_cons, uncut]

theorem handle_elo {cmd : Cmd} {choice : Choice} {store : Store} {user : User}
    (found : store.users.find userId = some user)
    (computed : cmd.Computed)
    (current : ∀ update rating, cmd = .updateUser userId update → update.rating? = some rating →
      rating.oldElo = user.elo) :
    ∃ after, (handle cmd choice store).2.users.find userId = some after ∧
      after.elo = applyChanges user.elo
        (ratingChanges userId ⟨cmd, (handle cmd choice store).1⟩) := by
  cases cmd with
  | updateUser other update =>
    rw [handle]
    split
    · exact ⟨user, found, rfl⟩
    · by_cases same : other = userId
      · subst other
        refine ⟨update.write user, by simp [found], ?_⟩
        cases isRated : update.rating? with
        | none => cases update <;> simp_all [ratingChanges, applyChanges, UserUpdate.rating?,
            UserUpdate.write]
        | some rating =>
          have read := current update rating rfl isRated
          have newElo := (computed rating isRated).newElo
          cases update <;> cases isRated <;>
            simp [ratingChanges, applyChanges, UserUpdate.rating?, UserUpdate.write,
              RatingUpdate.write, newElo, ← read]
      · refine ⟨user, ?_, by simp [ratingChanges, same, applyChanges]⟩
        exact (Keys.Table.find_modify_of_ne (Ne.symm same) _).trans found
  | _ => exact ⟨user, found, rfl⟩

theorem runs_elo {initial : User} (found : users.find userId = some initial)
    (runs : (server powTen).Runs (Current userId) (freshServer users) history state) :
    (∀ id process, state.processes id = some process → process.program.Uses Cmd.Computed) ∧
    ∃ user, state.store.users.find userId = some user ∧
      user.elo = applyChanges initial.elo (changesIn userId (answers history)) := by
  induction runs with
  | refl => exact ⟨nofun, initial, found, rfl⟩
  | @start _ _ _ call _ _ _ _ accepted ih =>
    cases accepted
    rw [answers_started]
    exact ⟨Server.forall_updated (body_computed call) ih.1, ih.2⟩
  | @advance _ state id choice _ cmd _ _ met waiting ih =>
    rcases ih with ⟨processes, user, foundNow, elo⟩
    rcases processes id _ waiting with ⟨computed, later⟩
    have issued : state.issued (.advance id choice : ServerAction) = some cmd :=
      State.issued_advance waiting choice
    have current : ∀ update rating, cmd = .updateUser userId update →
        update.rating? = some rating → rating.oldElo = user.elo := by
      rintro update rating rfl isRated
      exact met update rating user issued isRated foundNow
    rcases @handle_elo userId cmd choice state.store user foundNow computed current with
      ⟨after, foundAfter, changed⟩
    refine ⟨Server.forall_updated (later _) processes, after, foundAfter, ?_⟩
    rw [changed, elo, answers_answered, changesIn, changesIn, List.flatMap_append,
      List.flatMap_singleton]
    exact List.foldl_append.symm
  | @happen _ _ event => exact event.elim

theorem coe_changesIn (past : List (Answer signature)) :
    (past.map fun answer => (ratingChanges userId answer : Multiset ℤ)).sum =
      (changesIn userId past : Multiset ℤ) := by
  induction past with
  | nil => rfl
  | cons _ _ ih =>
    rw [List.map_cons, List.sum_cons, ih, Multiset.coe_add]
    rfl

theorem changes_perm (runs : (server powTen).Runs (Current userId) (freshServer users) history
    state) :
    (changesIn userId (answers history) : Multiset ℤ) =
      ((startedCalls history).map fun entry =>
        (changesIn userId (transcript entry.1 history) : Multiset ℤ)).sum := by
  rw [← coe_changesIn, runs.sum_answers (fun _ => rfl)]
  simp only [coe_changesIn]

variable {battleResult : BattleResult} {result : EloUpdateResult}

theorem reports_of_done (positive : ∀ x, 0 < powTen x) {id : ℕ}
    (runs : (server powTen).Runs (Current userId) (freshServer users) history state)
    (finished : ∀ id process, state.processes id = some process → process.program = .done ())
    (started : (id, .battle battleResult) ∈ startedCalls history)
    (reported : result ∈ results (transcript id history)) :
    Reports battleResult (transcript id history) result := by
  rcases runs.started_process started with ⟨program, found⟩
  have isDone : program = .done () := finished id _ found
  subst isDone
  exact runs.follows (fun _ => rfl) (fun _ call => body_reports positive call)
    (fun _ _ _ _ _ _ => trivial) _ _ found battleResult result rfl reported

theorem Reports.changes_bound {past : List (Answer signature)}
    (reports : Reports battleResult past result)
    (distinct : battleResult.winnerId ≠ battleResult.loserId) (userId : UserId) :
    (result.changes userId).length ≤ 1 ∧ ∀ change ∈ result.changes userId, -32 ≤ change := by
  rw [EloUpdateResult.changes, reports.winnerId, reports.loserId]
  have winnerBound := reports.winnerBound
  have loserBound := reports.loserBound
  by_cases wins : battleResult.winnerId = userId
  · have differs : battleResult.loserId ≠ userId := fun loses => distinct (wins.trans loses.symm)
    simp [wins, differs, winnerBound]
  · by_cases loses : battleResult.loserId = userId <;> simp [wins, loses, loserBound]

/--
Two battle calls run in any interleaving and succeed. If every rating of the user that is
written was computed from the rating that the user has, the final rating is the initial one
plus the changes that the two calls report.
-/
theorem ratings_not_lost (positive : ∀ x, 0 < powTen x) {initial : User}
    (found : users.find userId = some initial) (high : 864 ≤ initial.elo)
    (runs : (server powTen).Runs (Current userId) (freshServer users) history state)
    (finished : ∀ id process, state.processes id = some process → process.program = .done ())
    {firstId secondId : ℕ} {first second : BattleResult}
    (calls : startedCalls history = [(firstId, .battle first), (secondId, .battle second)])
    (firstDistinct : first.winnerId ≠ first.loserId)
    (secondDistinct : second.winnerId ≠ second.loserId)
    {firstResult secondResult : EloUpdateResult}
    (firstReported : firstResult ∈ results (transcript firstId history))
    (secondReported : secondResult ∈ results (transcript secondId history)) :
    (state.store.users.find userId).map User.elo =
      some (initial.elo + (firstResult.changes userId).sum +
        (secondResult.changes userId).sum) := by
  have firstStarted : (firstId, .battle first) ∈ startedCalls history := by simp [calls]
  have secondStarted : (secondId, .battle second) ∈ startedCalls history := by simp [calls]
  have firstReports := reports_of_done positive runs finished firstStarted firstReported
  have secondReports := reports_of_done positive runs finished secondStarted secondReported
  have total := changes_perm runs
  simp only [calls, List.map_cons, List.map_nil, List.sum_cons, List.sum_nil, add_zero,
    firstReports.changes, secondReports.changes, Multiset.coe_add, Multiset.coe_eq_coe] at total
  rcases firstReports.changes_bound firstDistinct userId with ⟨_, firstBound⟩
  rcases secondReports.changes_bound secondDistinct userId with ⟨_, secondBound⟩
  rcases runs_elo found runs with ⟨_, _, foundUser, elo⟩
  have length := total.length_eq
  rw [List.length_append] at length
  rw [foundUser, Option.map_some, elo, applyChanges_eq_add_sum, total.sum_eq, List.sum_append,
    add_assoc]
  · intro change member
    rcases List.mem_append.mp (total.mem_iff.mp member) with isFirst | isSecond
    · exact firstBound change isFirst
    · exact secondBound change isSecond
  · omega

end Runs

def sampleResult (loserId : UserId) : EloUpdateResult :=
  ⟨"ann", loserId, 1200, 1200, 1216, 1184, 16, -16, 32, 1 / 2, 1⟩

def readBoth : List ServerAction :=
  .start 0 (.battle ⟨"ann", "bob"⟩) :: .start 1 (.battle ⟨"ann", "cleo"⟩) ::
    (List.replicate 10 (.advance 0 (answerAt 0)) ++ List.replicate 10 (.advance 1 (answerAt 0)))

/-- The winner of two battles gets the points of one. -/
theorem second_win_is_lost :
    ∃ history state, (server fun _ => 1).Runs Server.anyStep (freshServer sampleUsers) history
        state ∧
      (∀ id process, state.processes id = some process → process.program = .done ()) ∧
      startedCalls history = [(0, .battle ⟨"ann", "bob"⟩), (1, .battle ⟨"ann", "cleo"⟩)] ∧
      sampleResult "bob" ∈ results (transcript 0 history) ∧
      sampleResult "cleo" ∈ results (transcript 1 history) ∧
        (state.store.users.find "ann").map User.elo ≠
          some (1200 + ((sampleResult "bob").changes "ann").sum +
            ((sampleResult "cleo").changes "ann").sum) := by
  apply Server.exists_runs [0, 1] (fun _ _ => true)
    (readBoth ++ List.replicate 11 (.advance 0 (answerAt 0)) ++
      List.replicate 11 (.advance 1 (answerAt 0)))
  · intro _ _ _ _
    trivial
  · intro _ _
    rfl
  · decide +kernel

def writesCurrent (userId : UserId) (state : ServerState) (action : ServerAction) : Bool :=
  match state.issued action with
  | some (.updateUser other update) =>
    other ≠ userId || (update.rating?).all fun rating =>
      (state.store.users.find userId).all fun user => rating.oldElo = user.elo
  | _ => true

theorem writesCurrent_sound {userId : UserId} {state : ServerState} {action : ServerAction}
    (checked : writesCurrent userId state action = true) : Current userId state action := by
  intro _ _ _ issued isRated found
  simpa [writesCurrent, issued, isRated, found] using checked

theorem two_wins_add_up :
    ∃ history state, (server fun _ => 1).Runs (Current "ann") (freshServer sampleUsers) history
        state ∧
      (state.store.users.find "ann").map User.elo = some (1200 + 16 + 16) := by
  have run : ∃ history state, (server fun _ => 1).Runs (Current "ann")
      (freshServer sampleUsers) history state ∧
        (∀ id process, state.processes id = some process → process.program = .done ()) ∧
          (startedCalls history = [(0, .battle ⟨"ann", "bob"⟩), (1, .battle ⟨"ann", "cleo"⟩)] ∧
            results (transcript 0 history) = [sampleResult "bob"] ∧
              results (transcript 1 history) =
                [⟨"ann", "cleo", 1216, 1200, 1232, 1184, 16, -16, 32, 1 / 2, 1⟩]) := by
    apply Server.exists_runs [0, 1] (writesCurrent "ann")
      (.start 0 (.battle ⟨"ann", "bob"⟩) :: List.replicate 21 (.advance 0 (answerAt 0)) ++
        .start 1 (.battle ⟨"ann", "cleo"⟩) :: List.replicate 21 (.advance 1 (answerAt 0)))
    · intro _ _ _ checked
      exact writesCurrent_sound checked
    · intro _ _
      rfl
    · decide +kernel
  rcases run with ⟨history, state, runs, finished, calls, first, second⟩
  refine ⟨history, state, runs, ?_⟩
  have firstReported : sampleResult "bob" ∈ results (transcript 0 history) := by simp [first]
  have secondReported := second ▸ List.mem_cons_self
  rw [@ratings_not_lost _ _ "ann" _ _ (fun _ => one_pos) (sampleUser 1200) rfl (by decide) runs
    finished _ _ _ _ calls (by decide) (by decide) _ _ firstReported secondReported]
  decide +kernel

end CodeClash.Rating
