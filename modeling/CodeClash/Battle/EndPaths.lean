import CodeClash.Battle.Footprint

/-!
# The two ways to end a battle

A battle ends through `endBattle`, or in the callback of the interval when its time is over. The two
break ties differently, and only `endBattle` updates the rows of the players. They agree exactly
when there is no tie and neither player has a row that could be updated.
-/

namespace CodeClash.Battle

open Async

section Runs

variable (powTen : ℚ → ℚ) (roomId : RoomId) (state : BattleState) (choices : ℕ → Choice)
  (store : Store)

def afterEndBattle : Store :=
  ((endBattle powTen roomId state none).run handle (fun _ store => store) choices store).2

def afterTimeout : Store :=
  ((timeoutBattle roomId state).run handle (fun _ store => store) choices store).2

/-- Both ways select the same winner and leave the same users behind. -/
def EndPathsAgree : Prop :=
  state.timeoutWinnerId = state.winnerId none ∧
    (afterTimeout roomId state choices store).users =
      (afterEndBattle powTen roomId state choices store).users

end Runs

def User.games (user : User) : ℕ := user.wins + user.losses

def Grows (before after : UserId → Option User) : Prop :=
  ∀ userId user, before userId = some user →
    ∃ later, after userId = some later ∧ user.games ≤ later.games

def Played (before after : UserId → Option User) : Prop :=
  ∃ userId user later, before userId = some user ∧ after userId = some later ∧
    user.games < later.games

theorem Grows.refl (users : UserId → Option User) : Grows users users :=
  fun _ user found => ⟨user, found, le_rfl⟩

variable {before after : UserId → Option User}

variable {middle : UserId → Option User}

theorem Grows.trans (first : Grows before middle)
    (second : Grows middle after) : Grows before after := by
  intro userId user found
  rcases first userId user found with ⟨middleUser, middleFound, middleLe⟩
  rcases second userId middleUser middleFound with ⟨later, laterFound, laterLe⟩
  exact ⟨later, laterFound, middleLe.trans laterLe⟩

theorem Played.grows (played : Played before middle)
    (grows : Grows middle after) : Played before after := by
  rcases played with ⟨userId, user, middleUser, found, middleFound, less⟩
  rcases grows userId middleUser middleFound with ⟨later, laterFound, laterLe⟩
  exact ⟨userId, user, later, found, laterFound, less.trans_le laterLe⟩

theorem Played.ne (played : Played before after) :
    before ≠ after := by
  rintro rfl
  rcases played with ⟨_, _, later, found, laterFound, less⟩
  rw [found, Option.some.injEq] at laterFound
  subst later
  exact lt_irrefl _ less

theorem RatingEffect.games_le_apply (effect : RatingEffect) (user : User) :
    user.games ≤ (effect.apply user).games := by
  cases effect <;> simp only [RatingEffect.apply, User.games] <;> omega

theorem handle_grows (cmd : Cmd) (choice : Choice) (store : Store) :
    Grows store.users (handle cmd choice store).2.users := by
  cases cmd with
  | rate _ effect =>
    simp only [handle, Store.rate]
    split
    · rename_i user _ found
      intro userId row rowFound
      by_cases same : userId = effect.userId
      · subst userId
        rw [found, Option.some.injEq] at rowFound
        subst row
        exact ⟨effect.apply user, Function.update_self _ _ _, effect.games_le_apply user⟩
      · refine ⟨row, ?_, le_rfl⟩
        simpa [Function.update_of_ne same] using rowFound
    · exact Grows.refl _
  | setBattle => exact Grows.refl _
  | setInterval => exact Grows.refl _
  | clearInterval _ save => cases save <;> exact Grows.refl _
  | _ =>
    rw [(handle_sameRooms (by trivial)).users]
    exact Grows.refl _

theorem run_grows {α : Type} (program : Prog α) (choices : ℕ → Choice) (store : Store) :
    Grows store.users (program.run handle (fun _ store => store) choices store).2.users := by
  apply Program.run_invariant fun later : Store => Grows store.users later.users
  · intro _ later grows
    exact grows
  · intro cmd choice later grows
    exact grows.trans (handle_grows cmd choice later)
  · exact Grows.refl _

section Ends

variable {powTen : ℚ → ℚ} {roomId : RoomId} {state : BattleState} {choices : ℕ → Choice}
  {store : Store}

theorem afterTimeout_users : (afterTimeout roomId state choices store).users = store.users := rfl

variable {effect : RatingEffect}

theorem rate_played {user : User} (found : store.users effect.userId = some user)
    (counts : user.games < (effect.apply user).games) :
    Played store.users (store.rate false roomId effect).2.users := by
  refine ⟨effect.userId, user, effect.apply user, found, ?_, counts⟩
  simp [Store.rate, found]

theorem rate_missing (missing : store.users effect.userId = none) :
    store.rate false roomId effect = (.error .rejected, store) := by
  simp [Store.rate, missing]

theorem rate_rate_played {first second : RatingEffect}
    (firstCounts : ∀ user : User, user.games < (first.apply user).games)
    (secondCounts : ∀ user : User, user.games < (second.apply user).games)
    (found : store.users first.userId ≠ none ∨ store.users second.userId ≠ none) :
    Played store.users
      ((store.rate false roomId first).2.rate false roomId second).2.users := by
  cases firstRow : store.users first.userId with
  | some user =>
    apply (rate_played firstRow (firstCounts user)).grows
    exact handle_grows (.rate roomId second) default _
  | none =>
    rw [rate_missing firstRow]
    cases secondRow : store.users second.userId with
    | some user => exact rate_played secondRow (secondCounts user)
    | none =>
      rcases found with present | present
      · exact absurd firstRow present
      · exact absurd secondRow present

variable {winnerId loserId : UserId}

theorem afterEndBattle_settles : ∃ (used : ℕ) (ended : BattleState) (stored : Store),
    stored.users = store.users ∧
      afterEndBattle powTen roomId state choices store =
        ((settleBattle powTen roomId ended (state.winnerId none)
          (state.loserId (state.winnerId none))).run handle (fun _ store => store)
          (fun n => choices (n + used)) stored).2 := by
  rw [afterEndBattle, endBattle]
  rcases Program.run_bind handle (saveBattleState roomId (state.withStatus .ended) none)
    _ (fun _ store => store) choices store with ⟨used, split⟩
  rw [split]
  generalize savedIs : (saveBattleState roomId (state.withStatus .ended) none).run handle
    (fun _ store => store) choices store = saved
  have sameUsers : saved.2.users = store.users := by
    subst saved
    rfl
  rcases Program.run_bind handle (settleBattle powTen roomId saved.1 (state.winnerId none)
    (state.loserId (state.winnerId none))) (fun _ => pure ()) (fun _ store => store)
    (fun n => choices (n + used)) saved.2 with ⟨more, split⟩
  exact ⟨used, saved.1, saved.2, sameUsers, by rw [split]; rfl⟩

section Answered

variable (answers : ∀ n, (choices n).fails = false)

include answers

theorem updateBattleStats_played (winnerEloChange loserEloChange : ℤ)
    (found : store.users winnerId ≠ none ∨ store.users loserId ≠ none) :
    Played store.users ((updateBattleStats roomId winnerId loserId winnerEloChange
      loserEloChange).run handle (fun _ store => store) choices store).2.users := by
  have wins (user : User) : user.games <
      ((RatingEffect.won winnerId winnerEloChange).apply user).games := by
    simp only [RatingEffect.apply, User.games]
    omega
  have losses (user : User) : user.games <
      ((RatingEffect.lost loserId loserEloChange).apply user).games := by
    simp only [RatingEffect.apply, User.games]
    omega
  cases order : (choices 0).firstFirst with
  | true =>
    simpa [updateBattleStats, promiseAll, Program.run, handle, order, answers] using
      rate_rate_played wins losses found
  | false =>
    simpa [updateBattleStats, promiseAll, Program.run, handle, order, answers] using
      rate_rate_played losses wins found.symm

theorem getUsers_run (first second : UserId) :
    (promiseAll (getUserById first) (getUserById second)).run handle (fun _ store => store)
      choices store = (.ok (store.users first, store.users second), store) := by
  cases order : (choices 0).firstFirst <;>
    simp [promiseAll, promiseAll.both, getUserById, Program.run, handle, answer, order, answers]

theorem settleBattle_updates :
    ∃ (used : ℕ) (change : ℤ × ℤ)
      (next : Except Failure (Unit × Unit) → Prog (Except Failure Unit)),
      (settleBattle powTen roomId state winnerId loserId).run handle (fun _ store => store)
          choices store =
        (updateBattleStats roomId winnerId loserId change.1 change.2 >>= next).run handle
          (fun _ store => store) (fun n => choices (n + used)) store ∧
        ∀ failure, next (.error failure) = .done (.error failure) := by
  rw [settleBattle]
  rcases Program.run_bind handle (promiseAll (getUserById winnerId)
    (getUserById loserId)) _ (fun _ store => store) choices store with ⟨used, split⟩
  rw [split, getUsers_run answers winnerId loserId]
  refine ⟨used, _, _, rfl, ?_⟩
  intro _
  rfl

theorem settleBattle_played
    (found : store.users winnerId ≠ none ∨ store.users loserId ≠ none) :
    Played store.users ((settleBattle powTen roomId state winnerId loserId).run handle
      (fun _ store => store) choices store).2.users := by
  rcases settleBattle_updates answers with ⟨used, _, next, updates, _⟩
  rcases Program.run_bind handle (updateBattleStats roomId winnerId loserId _ _) next
    (fun _ store => store) (fun n => choices (n + used)) store with ⟨more, split⟩
  rw [updates, split]
  apply (updateBattleStats_played (fun n => answers (n + used)) _ _ found).grows
  exact run_grows _ _ _

theorem updateBattleStats_missing (winnerEloChange loserEloChange : ℤ)
    (winnerMissing : store.users winnerId = none) (loserMissing : store.users loserId = none) :
    (updateBattleStats roomId winnerId loserId winnerEloChange loserEloChange).run handle
      (fun _ store => store) choices store = (.error .rejected, store) := by
  have winner := @rate_missing roomId store (.won winnerId winnerEloChange) winnerMissing
  have loser := @rate_missing roomId store (.lost loserId loserEloChange) loserMissing
  cases order : (choices 0).firstFirst <;>
    simp [updateBattleStats, promiseAll, promiseAll.both, Program.run, handle, order, answers,
      winner, loser]

theorem settleBattle_missing (winnerMissing : store.users winnerId = none)
    (loserMissing : store.users loserId = none) :
    ((settleBattle powTen roomId state winnerId loserId).run handle (fun _ store => store)
      choices store).2 = store := by
  rcases settleBattle_updates answers with ⟨used, _, next, updates, stops⟩
  rcases Program.run_bind handle (updateBattleStats roomId winnerId loserId _ _) next
    (fun _ store => store) (fun n => choices (n + used)) store with ⟨more, split⟩
  rw [updates, split, updateBattleStats_missing (fun n => answers (n + used)) _ _ winnerMissing
    loserMissing, stops]
  rfl

theorem afterEndBattle_played
    (found : store.users (state.winnerId none) ≠ none ∨
      store.users (state.loserId (state.winnerId none)) ≠ none) :
    Played store.users (afterEndBattle powTen roomId state choices store).users := by
  rcases @afterEndBattle_settles powTen roomId state choices store with
    ⟨used, ended, stored, sameUsers, settles⟩
  rw [← sameUsers] at found
  rw [settles, ← sameUsers]
  exact settleBattle_played (fun n => answers (n + used)) found

theorem afterEndBattle_missing
    (winnerMissing : store.users (state.winnerId none) = none)
    (loserMissing : store.users (state.loserId (state.winnerId none)) = none) :
    (afterEndBattle powTen roomId state choices store).users = store.users := by
  rcases @afterEndBattle_settles powTen roomId state choices store with
    ⟨used, ended, stored, sameUsers, settles⟩
  rw [← sameUsers] at winnerMissing loserMissing
  rw [settles, settleBattle_missing (fun n => answers (n + used)) winnerMissing loserMissing,
    sameUsers]

end Answered

theorem timeoutWinner_eq_iff :
    state.timeoutWinnerId = state.winnerId none ↔
      state.hp1 ≠ state.hp2 ∨ state.player1Id = state.player2Id := by
  simp only [BattleState.timeoutWinnerId, BattleState.winnerId]
  rcases lt_trichotomy state.hp1 state.hp2 with less | tie | greater
  · simp [less.not_ge, less.not_gt, less.ne]
  · simp [tie]
  · simp [greater.le, greater, greater.ne']

theorem missing_iff (users : UserId → Option User) :
    users (state.winnerId none) = none ∧ users (state.loserId (state.winnerId none)) = none ↔
      users state.player1Id = none ∧ users state.player2Id = none := by
  simp only [BattleState.winnerId, BattleState.loserId]
  by_cases ahead : state.hp1 > state.hp2
  · simp [ahead]
  · simp only [if_neg ahead]
    by_cases same : state.player2Id = state.player1Id
    · simp [same]
    · simp [same, and_comm]

/--
With a database that rejects nothing, the time limit and `endBattle` agree on the winner
and on the users exactly when the hit points are not tied, unless both players are the
same, and neither player has a row.
-/
theorem endPathsAgree_iff (answers : ∀ n, (choices n).fails = false) :
    EndPathsAgree powTen roomId state choices store ↔
      (state.hp1 ≠ state.hp2 ∨ state.player1Id = state.player2Id) ∧
        store.users state.player1Id = none ∧ store.users state.player2Id = none := by
  rw [EndPathsAgree, afterTimeout_users, timeoutWinner_eq_iff, ← missing_iff]
  apply and_congr_right
  intro _
  refine ⟨?_, ?_⟩
  · intro same
    by_contra present
    have found : store.users (state.winnerId none) ≠ none ∨
        store.users (state.loserId (state.winnerId none)) ≠ none := by
      by_contra missing
      simp only [not_or, not_not] at missing
      exact present missing
    exact (afterEndBattle_played answers found).ne same
  · rintro ⟨winnerMissing, loserMissing⟩
    exact (afterEndBattle_missing answers winnerMissing loserMissing).symm

end Ends

/-- At a tie the time limit announces player 1 and `endBattle` player 2. -/
theorem tied_end_paths_differ :
    ¬EndPathsAgree (fun _ => 1) "r" (activeBattle 500 500) (fun _ => default)
      (freshServer newcomer).store := by
  rintro ⟨sameWinner, _⟩
  exact absurd sameWinner (by decide)

theorem rowless_end_paths_agree :
    EndPathsAgree (fun _ => 1) "r" (activeBattle 300 100) (fun _ => default)
      (freshServer fun _ => none).store :=
  (endPathsAgree_iff fun _ => rfl).mpr ⟨Or.inl (by decide), rfl, rfl⟩

end CodeClash.Battle
