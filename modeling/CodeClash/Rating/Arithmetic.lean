import CodeClash.Rating.Tracking
import Mathlib.Tactic.Linarith

/-!
# The arithmetic of ratings

What a battle or a draw does to the ratings of the two players, for any expected scores that add up
to one. Halves are rounded up, so the two changes add up to zero or to one. Ratings are cut off at
the minimum. A call that succeeds writes exactly these ratings.
-/

namespace CodeClash.Rating

open Async Throwing

structure Ratings where
  elo : ℤ
  seasonalElo : ℤ
deriving DecidableEq, Repr

def User.ratings (user : User) : Ratings := ⟨user.elo, user.seasonalElo⟩

def Ratings.rated (ratings : Ratings) (actualScore expectedScore : ℚ) : Ratings where
  elo := applyMinimumElo (ratings.elo + eloChange actualScore expectedScore)
  seasonalElo := applyMinimumElo (ratings.seasonalElo + eloChange actualScore expectedScore)

def Ratings.AtLeast (ratings : Ratings) (bound : ℤ) : Prop :=
  bound ≤ ratings.elo ∧ bound ≤ ratings.seasonalElo

/-- What the ratings of two players satisfy before and after a game. -/
structure Balanced (first second newFirst newSecond : Ratings) : Prop where
  minimum : newFirst.AtLeast 800 ∧ newSecond.AtLeast 800
  elo : first.elo + second.elo ≤ newFirst.elo + newSecond.elo
  seasonalElo :
    first.seasonalElo + second.seasonalElo ≤ newFirst.seasonalElo + newSecond.seasonalElo
  growth : first.AtLeast 832 → second.AtLeast 832 →
    newFirst.elo + newSecond.elo ≤ first.elo + second.elo + 1 ∧
      newFirst.seasonalElo + newSecond.seasonalElo ≤ first.seasonalElo + second.seasonalElo + 1

/-- The winner does not lose, and the loser does not gain, except up to the minimum. -/
structure Rewards (winner loser newWinner newLoser : Ratings) : Prop where
  winnerElo : winner.elo ≤ newWinner.elo
  winnerSeasonalElo : winner.seasonalElo ≤ newWinner.seasonalElo
  loserElo : 800 ≤ loser.elo → newLoser.elo ≤ loser.elo
  loserSeasonalElo : 800 ≤ loser.seasonalElo → newLoser.seasonalElo ≤ loser.seasonalElo

section Changes

variable {actual expected otherActual otherExpected : ℚ}

theorem eloChange_bounds (actual expected : ℚ) :
    (eloChange actual expected : ℚ) - 1 / 2 ≤ K_FACTOR * (actual - expected) ∧
      K_FACTOR * (actual - expected) < eloChange actual expected + 1 / 2 :=
  round_eq_iff.mp rfl

theorem eloChange_add (actuals : actual + otherActual = 1)
    (expecteds : expected + otherExpected = 1) :
    0 ≤ eloChange actual expected + eloChange otherActual otherExpected ∧
      eloChange actual expected + eloChange otherActual otherExpected ≤ 1 := by
  rcases eloChange_bounds actual expected with ⟨_, _⟩
  rcases eloChange_bounds otherActual otherExpected with ⟨_, _⟩
  have opposite :
      K_FACTOR * (actual - expected) + K_FACTOR * (otherActual - otherExpected) = 0 := by
    rw [← mul_add]
    have zero : actual - expected + (otherActual - otherExpected) = 0 := by linarith
    rw [zero, mul_zero]
  generalize eloChange actual expected = change at *
  generalize eloChange otherActual otherExpected = otherChange at *
  constructor
  · have positive : (-1 : ℚ) < (change + otherChange : ℤ) := by
      push_cast
      linarith
    have cast : -1 < change + otherChange := by exact_mod_cast positive
    omega
  · have bounded : ((change + otherChange : ℤ) : ℚ) ≤ 1 := by
      push_cast
      linarith
    exact_mod_cast bounded

theorem eloChange_mem {low high : ℤ} (lower : (low : ℚ) ≤ K_FACTOR * (actual - expected))
    (upper : K_FACTOR * (actual - expected) ≤ high) :
    low ≤ eloChange actual expected ∧ eloChange actual expected ≤ high := by
  rcases eloChange_bounds actual expected with ⟨_, _⟩
  constructor
  · have close : (low : ℚ) < (eloChange actual expected + 1 : ℤ) := by
      push_cast
      linarith
    have cast : low < eloChange actual expected + 1 := by exact_mod_cast close
    omega
  · have close : ((eloChange actual expected : ℤ) : ℚ) < (high + 1 : ℤ) := by
      push_cast
      linarith
    have cast : eloChange actual expected < high + 1 := by exact_mod_cast close
    omega

theorem eloChange_le (actualNonneg : 0 ≤ actual) (actualLe : actual ≤ 1) (nonneg : 0 ≤ expected)
    (le : expected ≤ 1) :
    -32 ≤ eloChange actual expected ∧ eloChange actual expected ≤ 32 := by
  apply eloChange_mem <;> rw [K_FACTOR] <;> push_cast <;> linarith

theorem eloChange_win (le : expected ≤ 1) (nonneg : 0 ≤ expected) :
    0 ≤ eloChange 1 expected := by
  refine (@eloChange_mem 1 expected 0 32 ?_ ?_).1 <;> rw [K_FACTOR] <;> push_cast <;> linarith

theorem eloChange_loss (le : expected ≤ 1) (nonneg : 0 ≤ expected) :
    eloChange 0 expected ≤ 0 := by
  refine (@eloChange_mem 0 expected (-32) 0 ?_ ?_).2 <;> rw [K_FACTOR] <;> push_cast <;> linarith

end Changes

section Players

variable {expected : ℚ} {first second : Ratings}

theorem rated_balanced {actual otherActual otherExpected : ℚ} (actualNonneg : 0 ≤ actual)
    (otherActualNonneg : 0 ≤ otherActual) (actuals : actual + otherActual = 1)
    (nonneg : 0 ≤ expected) (otherNonneg : 0 ≤ otherExpected)
    (expecteds : expected + otherExpected = 1) :
    Balanced first second (first.rated actual expected)
      (second.rated otherActual otherExpected) := by
  have sum := eloChange_add actuals expecteds
  have change := eloChange_le actualNonneg (by linarith) nonneg (by linarith)
  have otherChange := eloChange_le otherActualNonneg (by linarith) otherNonneg (by linarith)
  constructor <;>
    simp only [Ratings.AtLeast, Ratings.rated, applyMinimumElo, getMinimumElo] <;> omega

theorem rated_rewards (nonneg : 0 ≤ expected) (le : expected ≤ 1) :
    Rewards first second (first.rated 1 expected) (second.rated 0 (1 - expected)) := by
  have win := eloChange_win le nonneg
  have loss : eloChange 0 (1 - expected) ≤ 0 := eloChange_loss (by linarith) (by linarith)
  constructor <;> simp only [Ratings.rated, applyMinimumElo, getMinimumElo] <;> omega

end Players

def Store.ratings (store : Store) (userId : UserId) : Option Ratings :=
  (store.users.find userId).map User.ratings

def RatingUpdate.ratings (rating : RatingUpdate) : Ratings :=
  ⟨rating.newElo, rating.newSeasonalElo⟩

def unrestricted (_store : Store) (_cmd : Cmd) : Prop := True

section Writes

variable (powTen : ℚ → ℚ) {store : Store} {userId : UserId} {winnerId loserId : UserId}

variable {update : UserUpdate} {α : Type} {first second winner loser : Ratings}

theorem ratings_updated_of_none (unrated : update.rating? = none) :
    (store.updated userId update).ratings = store.ratings := by
  funext other
  by_cases same : other = userId
  · subst other
    simp only [Store.ratings, find_updated_self, Option.map_map]
    congr 1
    funext user
    cases update <;> simp_all [UserUpdate.rating?, UserUpdate.write, User.ratings]
  · simp only [Store.ratings, find_updated_of_ne store same]

theorem ratings_updated_of_some {rating : RatingUpdate} {user : User}
    (found : store.users.find userId = some user) (isRated : update.rating? = some rating) :
    (store.updated userId update).ratings =
      Function.update store.ratings userId (some rating.ratings) := by
  funext other
  by_cases same : other = userId
  · subst other
    simp only [Store.ratings, find_updated_self, found, Function.update_self, Option.map_some,
      Option.some.injEq]
    cases update <;> cases isRated <;> rfl
  · simp only [Store.ratings, find_updated_of_ne store same, Function.update_of_ne same]

theorem keeps_ratings {program : Prog α} (keeps : program.run.Uses Cmd.KeepsRatings) :
    program.run.Obeys (tracking unrestricted) (fun reached _ => reached.ratings = store.ratings)
      store := by
  refine keeps.obeys_invariant (fun _ _ _ _ => trivial) ?_ rfl
  intro _ cmd reply same keepsRatings _
  cases cmd with
  | updateUser =>
    cases reply with
    | error => exact same
    | ok => exact (ratings_updated_of_none keepsRatings).trans same
  | _ => exact same

/-- What a call has written to the ratings of two players when it succeeds. -/
def Writes {α : Type} (firstId secondId : UserId) (first second : Ratings) (reached : Store)
    (outcome : Except EloError α) : Prop :=
  ∀ value, outcome = .ok value →
    reached.ratings firstId = some first ∧ reached.ratings secondId = some second

theorem writes_error {error : EloError} :
    Writes winnerId loserId first second store (.error error : Except EloError α) := nofun

theorem recordBattle_writes (distinct : winnerId ≠ loserId) (winner loser : RatingUpdate) :
    (recordBattle ⟨winnerId, loserId⟩ winner loser).run.Obeys (tracking unrestricted)
      (Writes winnerId loserId winner.ratings loser.ratings) store := by
  refine obeys_updateUser trivial writes_error ?_
  intro _ foundWinner
  refine obeys_updateUser trivial writes_error ?_
  intro _ foundLoser
  refine obeys_bind ((keeps_ratings recordBattleCompletion_keepsRatings).mono ?_)
  intro _ outcome same
  cases outcome with
  | error => exact writes_error
  | ok =>
    refine (keeps_ratings recordBattleCompletion_keepsRatings).mono ?_
    intro _ _ sameLast _ _
    rw [sameLast, same, ratings_updated_of_some foundLoser rfl,
      ratings_updated_of_some foundWinner rfl]
    refine ⟨?_, Function.update_self _ _ _⟩
    rw [Function.update_of_ne distinct, Function.update_self]

/-- The ratings that the two players have after a game with the given scores. -/
abbrev WritesRated {α : Type} (powTen : ℚ → ℚ) (firstId secondId : UserId) (actual other : ℚ)
    (first second : Ratings) : Store → Except EloError α → Prop :=
  Writes firstId secondId
    (first.rated actual (calculateExpectedScore powTen first.elo second.elo))
    (second.rated other (calculateExpectedScore powTen second.elo first.elo))

theorem rateBattle_writes (distinct : winnerId ≠ loserId)
    (winnerRatings : store.ratings winnerId = some winner)
    (loserRatings : store.ratings loserId = some loser) :
    (rateBattle powTen ⟨winnerId, loserId⟩).run.Obeys (tracking unrestricted)
      (WritesRated powTen winnerId loserId 1 0 winner loser) store := by
  rcases Option.map_eq_some_iff.mp winnerRatings with ⟨_, foundWinner, rfl⟩
  rcases Option.map_eq_some_iff.mp loserRatings with ⟨_, foundLoser, rfl⟩
  refine obeys_findUser trivial writes_error (obeys_findUser trivial writes_error ?_)
  simp only [foundWinner, foundLoser]
  refine obeys_bind ((recordBattle_writes distinct _ _).mono ?_)
  intro _ outcome written
  cases outcome with
  | error => exact writes_error
  | ok =>
    intro _ _
    exact written () rfl

theorem updateEloAfterBattle_writes (distinct : winnerId ≠ loserId)
    (winnerRatings : store.ratings winnerId = some winner)
    (loserRatings : store.ratings loserId = some loser) :
    (updateEloAfterBattle powTen ⟨winnerId, loserId⟩).run.Obeys (tracking unrestricted)
      (WritesRated powTen winnerId loserId 1 0 winner loser) store := by
  refine obeys_bind ((keeps_ratings canBattle_keepsRatings).mono ?_)
  intro _ outcome sameFirst
  cases outcome with
  | error => exact writes_error
  | ok =>
    refine obeys_bind ((keeps_ratings canBattle_keepsRatings).mono ?_)
    intro _ outcome sameSecond
    cases outcome with
    | error => exact writes_error
    | ok =>
      simp only [Throwing.Continues]
      split
      · exact writes_error
      · apply rateBattle_writes powTen distinct <;> rw [sameSecond, sameFirst] <;> assumption

theorem updateEloAfterDraw_writes {firstId secondId : UserId}
    (distinct : firstId ≠ secondId) (firstRatings : store.ratings firstId = some first)
    (secondRatings : store.ratings secondId = some second) :
    (updateEloAfterDraw powTen firstId secondId).run.Obeys (tracking unrestricted)
      (WritesRated powTen firstId secondId (1 / 2) (1 / 2) first second) store := by
  rcases Option.map_eq_some_iff.mp firstRatings with ⟨_, foundFirst, rfl⟩
  rcases Option.map_eq_some_iff.mp secondRatings with ⟨_, foundSecond, rfl⟩
  refine obeys_findUser trivial writes_error (obeys_findUser trivial writes_error ?_)
  simp only [foundFirst, foundSecond]
  refine obeys_updateUser trivial writes_error ?_
  intro _ foundFirst
  refine obeys_updateUser trivial writes_error ?_
  intro _ foundSecond _ _
  rw [ratings_updated_of_some foundSecond rfl, ratings_updated_of_some foundFirst rfl]
  refine ⟨?_, Function.update_self _ _ _⟩
  rw [Function.update_of_ne distinct]
  exact Function.update_self _ _ _

end Writes

def runAlone {α : Type} (program : Prog α) (choices : ℕ → Choice) (store : Store) :
    Except EloError α × Store :=
  program.run.run handle (fun _ store => store) choices store

theorem runAlone_of_obeys {α : Type} {program : Prog α} {store : Store}
    {post : Store → Except EloError α → Prop}
    (obeys : program.run.Obeys (tracking unrestricted) post store) (choices : ℕ → Choice) :
    post (runAlone program choices store).2 (runAlone program choices store).1 := by
  have obeysAll : program.run.Obeys (tracking unrestricted) post (id store) := obeys
  exact obeysAll.run_alone fun _ cmd store _ => handle_tracking cmd _ store

/--
For all ratings and all expected scores that add up to one, battles and draws keep the ratings of
the two players balanced, and battles reward the winner. A call that runs alone and succeeds
writes exactly these ratings.
-/
theorem rating_arithmetic {expected : ℚ} (pos : 0 < expected) (lt : expected < 1)
    (first second : Ratings) :
    (Balanced first second (first.rated 1 expected) (second.rated 0 (1 - expected)) ∧
      Rewards first second (first.rated 1 expected) (second.rated 0 (1 - expected))) ∧
    Balanced first second (first.rated (1 / 2) expected) (second.rated (1 / 2) (1 - expected)) ∧
    ∀ powTen firstId secondId choices store, firstId ≠ secondId →
      calculateExpectedScore powTen first.elo second.elo = expected →
      calculateExpectedScore powTen second.elo first.elo = 1 - expected →
      store.ratings firstId = some first → store.ratings secondId = some second →
        (∀ result after, runAlone (updateEloAfterBattle powTen ⟨firstId, secondId⟩) choices store =
            (.ok result, after) →
          after.ratings firstId = some (first.rated 1 expected) ∧
            after.ratings secondId = some (second.rated 0 (1 - expected))) ∧
        ∀ result after, runAlone (updateEloAfterDraw powTen firstId secondId) choices store =
            (.ok result, after) →
          after.ratings firstId = some (first.rated (1 / 2) expected) ∧
            after.ratings secondId = some (second.rated (1 / 2) (1 - expected)) := by
  have nonneg : 0 ≤ 1 - expected := by linarith
  refine ⟨⟨?_, rated_rewards pos.le lt.le⟩, ?_, ?_⟩
  · exact rated_balanced (by norm_num) le_rfl (by norm_num) pos.le nonneg (by ring)
  · exact rated_balanced (by norm_num) (by norm_num) (by norm_num) pos.le nonneg (by ring)
  · intro powTen _ _ choices _ distinct score otherScore firstRatings secondRatings
    constructor
    · intro result after ran
      have written := runAlone_of_obeys
        (updateEloAfterBattle_writes powTen distinct firstRatings secondRatings) choices
      rw [ran, WritesRated, score, otherScore] at written
      exact written result rfl
    · intro result _ ran
      have written := runAlone_of_obeys
        (updateEloAfterDraw_writes powTen distinct firstRatings secondRatings) choices
      rw [ran, WritesRated, score, otherScore] at written
      exact written result rfl

section Answers

variable {α : Type} {userId : UserId} {user : User} {choices : ℕ → Choice} {store : Store}

theorem runAlone_findUser {next : Option User → Prog α} :
    runAlone (findUser userId >>= next) choices store =
      if (choices 0).fails then (.error .database, store)
      else runAlone (next (store.users.find userId)) (fun n => choices (n + 1)) store := by
  change @Program.run signature _ _ _ handle _ choices (.issue (.findUser userId) _) store = _
  simp only [Program.run, handle, answer]
  split <;> rfl

theorem runAlone_updateUser {update : UserUpdate} {next : Unit → Prog α}
    (found : store.users.find userId = some user) :
    runAlone (updateUser userId update >>= next) choices store =
      if (choices 0).fails then (.error .database, store)
      else runAlone (next ()) (fun n => choices (n + 1)) (store.updated userId update) := by
  have answered : handle (.updateUser userId update) (choices 0) store =
      if (choices 0).fails then (.error .rejected, store)
      else (.ok (), store.updated userId update) := by
    simp [handle, found, Store.updated]
  change @Program.run signature _ _ _ handle _ choices
    (.issue (.updateUser userId update) _) store = _
  simp only [Program.run, answered]
  split <;> rfl

/-- A draw between two users with a row succeeds when the database answers. -/
theorem updateEloAfterDraw_succeeds (powTen : ℚ → ℚ) {firstId secondId : UserId}
    {first second : User} (foundFirst : store.users.find firstId = some first)
    (foundSecond : store.users.find secondId = some second)
    (answers : ∀ n, (choices n).fails = false) :
    ∃ results, (runAlone (updateEloAfterDraw powTen firstId secondId) choices store).1 =
      .ok results := by
  have stillFound (update : UserUpdate) :
      ∃ user, (store.updated firstId update).users.find secondId = some user := by
    by_cases same : secondId = firstId
    · rw [same, find_updated_self, foundFirst]
      exact ⟨_, rfl⟩
    · rw [find_updated_of_ne store same]
      exact ⟨second, foundSecond⟩
  simp only [updateEloAfterDraw, runAlone_findUser, foundFirst, foundSecond,
    runAlone_updateUser foundFirst, answers, Bool.false_eq_true, if_false]
  rcases stillFound _ with ⟨_, found⟩
  rw [runAlone_updateUser found, answers]
  exact ⟨_, rfl⟩

end Answers

/-- The powers of ten that the expected scores of players 400 points apart need. -/
def samplePowTen (exponent : ℚ) : ℚ := if exponent = 1 then 10 else 1 / 10

def unevenStore : Store := ⟨sampleUsers.modify "bob" fun _ => sampleUser 1600, []⟩

theorem underdog_wins_and_draws :
    (runAlone (updateEloAfterBattle samplePowTen ⟨"ann", "bob"⟩) (fun _ => answerAt 0)
        unevenStore).2.ratings "ann" = some ⟨1229, 1229⟩ ∧
      Balanced ⟨1200, 1200⟩ ⟨1600, 1600⟩ ⟨1229, 1229⟩ ⟨1571, 1571⟩ ∧
      (runAlone (updateEloAfterDraw samplePowTen "ann" "bob") (fun _ => answerAt 0)
        unevenStore).2.ratings "ann" = some ⟨1213, 1213⟩ ∧
      Balanced ⟨1200, 1200⟩ ⟨1600, 1600⟩ ⟨1213, 1213⟩ ⟨1587, 1587⟩ := by
  rcases @rating_arithmetic (1 / 11) (by norm_num) (by norm_num) ⟨1200, 1200⟩ ⟨1600, 1600⟩ with
    ⟨⟨balancedBattle, _⟩, balancedDraw, calls⟩
  have won : (⟨1200, 1200⟩ : Ratings).rated 1 (1 / 11) = ⟨1229, 1229⟩ := by decide +kernel
  have lost : (⟨1600, 1600⟩ : Ratings).rated 0 (1 - 1 / 11) = ⟨1571, 1571⟩ := by decide +kernel
  have drew : (⟨1200, 1200⟩ : Ratings).rated (1 / 2) (1 / 11) = ⟨1213, 1213⟩ := by
    decide +kernel
  have drewToo : (⟨1600, 1600⟩ : Ratings).rated (1 / 2) (1 - 1 / 11) = ⟨1587, 1587⟩ := by
    decide +kernel
  rw [won, lost] at balancedBattle
  rw [drew, drewToo] at balancedDraw
  rcases calls samplePowTen "ann" "bob" (fun _ => answerAt 0) unevenStore (by decide)
    (by decide +kernel) (by decide +kernel) rfl rfl with ⟨writtenBattle, writtenDraw⟩
  refine ⟨?_, balancedBattle, ?_, balancedDraw⟩
  · have succeeds : (runAlone (updateEloAfterBattle samplePowTen ⟨"ann", "bob"⟩)
        (fun _ => answerAt 0) unevenStore).1 =
          .ok ⟨"ann", "bob", 1200, 1600, 1229, 1571, 29, -29, 32, 1 / 11, 1⟩ := by
      decide +kernel
    rw [← won]
    exact (writtenBattle _ _ (Prod.ext succeeds rfl)).1
  · rcases updateEloAfterDraw_succeeds samplePowTen (rfl : unevenStore.users.find "ann" = _)
      (rfl : unevenStore.users.find "bob" = _) (fun _ => (rfl : (answerAt 0).fails = false)) with
      ⟨results, succeeds⟩
    rw [← drew]
    exact (writtenDraw results _ (Prod.ext succeeds rfl)).1

end CodeClash.Rating
