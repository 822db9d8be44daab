import CodeClash.Rating.Service

/-!
# What a call of the rating service sees

A call that runs alone knows the store at every command. The protocol `tracking` has the store as
its phase, with one rule for each command. What a call may do in each phase is a parameter. The
checks and the bookkeeping of a battle write no ratings, and every rating that is written is
computed from the one that was read, with its tier.
-/

namespace CodeClash.Rating

open Async Program

def Store.updated (store : Store) (userId : UserId) (update : UserUpdate) : Store :=
  ⟨store.users.modify userId update.write, update.events userId ++ store.log⟩

@[simp]
theorem find_updated_self (store : Store) (userId : UserId) (update : UserUpdate) :
    (store.updated userId update).users.find userId =
      (store.users.find userId).map update.write :=
  Keys.Table.find_modify_self userId update.write

theorem find_updated_of_ne (store : Store) {userId other : UserId} (differs : other ≠ userId)
    (update : UserUpdate) :
    (store.updated userId update).users.find other = store.users.find other :=
  Keys.Table.find_modify_of_ne differs update.write

def tracking (allows : Store → Cmd → Prop) : Protocol signature Store where
  allows := allows
  expects store cmd reply :=
    match cmd, reply with
    | .findUser userId, .ok found => found = store.users.find userId
    | .updateUser userId _, .ok _ => ∃ user, store.users.find userId = some user
    | _, _ => True
  after store cmd reply :=
    match cmd, reply with
    | .updateUser userId update, .ok _ => store.updated userId update
    | .respond response, _ => { store with log := response.events ++ store.log }
    | _, _ => store

section Handle

variable {allows : Store → Cmd → Prop}

theorem handle_tracking (cmd : Cmd) (choice : Choice) (store : Store) :
    (tracking allows).expects store cmd (handle cmd choice store).1 ∧
      (handle cmd choice store).2 =
        (tracking allows).after store cmd (handle cmd choice store).1 := by
  cases cmd with
  | findUser =>
    simp only [handle, answer]
    cases choice.fails <;> exact ⟨by trivial, rfl⟩
  | updateUser =>
    rw [handle]
    split
    · exact ⟨trivial, rfl⟩
    · rename_i answered
      exact ⟨Option.ne_none_iff_exists'.mp fun absent => answered (.inr absent), rfl⟩
  | now => exact ⟨trivial, rfl⟩
  | respond => exact ⟨trivial, rfl⟩
  | _ =>
    simp only [handle, answer]
    cases choice.fails <;> exact ⟨trivial, rfl⟩

end Handle

section Rules

variable {β : Type} {allows : Store → Cmd → Prop} {store : Store}
  {post : Store → Except EloError β → Prop} {userId : UserId}

theorem obeys_getTime {next : ℤ → Prog β} (allowed : allows store .now)
    (later : ∀ now, (next now).run.Obeys (tracking allows) post store) :
    (getTime >>= next).run.Obeys (tracking allows) post store :=
  ⟨allowed, fun now _ => later now⟩

theorem obeys_findUser {next : Option User → Prog β} (allowed : allows store (.findUser userId))
    (failed : post store (.error .database))
    (later : (next (store.users.find userId)).run.Obeys (tracking allows) post store) :
    (findUser userId >>= next).run.Obeys (tracking allows) post store := by
  refine ⟨allowed, ?_⟩
  intro reply expected
  cases reply with
  | error => exact failed
  | ok found =>
    have found_eq : found = store.users.find userId := expected
    subst found
    exact later

variable {update : UserUpdate}

theorem obeys_updateUser_last {post : Store → Except EloError Unit → Prop}
    (allowed : allows store (.updateUser userId update)) (failed : post store (.error .database))
    (later : ∀ user, store.users.find userId = some user →
      post (store.updated userId update) (.ok ())) :
    (updateUser userId update).run.Obeys (tracking allows) post store := by
  refine ⟨allowed, ?_⟩
  intro reply expected
  cases reply with
  | error => exact failed
  | ok =>
    rcases expected with ⟨user, found⟩
    exact later user found

theorem obeys_updateUser {next : Unit → Prog β}
    (allowed : allows store (.updateUser userId update)) (failed : post store (.error .database))
    (later : ∀ user, store.users.find userId = some user →
      (next ()).run.Obeys (tracking allows) post (store.updated userId update)) :
    (updateUser userId update >>= next).run.Obeys (tracking allows) post store :=
  Throwing.obeys_bind (obeys_updateUser_last allowed failed later)

end Rules

def Cmd.ReadOnly : Cmd → Prop
  | .updateUser _ _ | .respond _ => False
  | _ => True

def Cmd.KeepsRatings : Cmd → Prop
  | .updateUser _ update => update.rating? = none
  | .respond _ => False
  | _ => True

section KeepsRatings

variable {playerId opponentId : UserId}

theorem checkOpponent_readOnly (player : User) (now : ℤ) :
    (checkOpponent playerId opponentId player now).run.Uses Cmd.ReadOnly := by
  apply Throwing.uses_bind (Throwing.uses_attempt (uses_perform trivial))
  intro _
  split
  · trivial
  · apply Throwing.uses_bind
    · exact Throwing.uses_bind (Throwing.uses_attempt (uses_perform trivial))
        fun _ => trivial
    intro _
    split
    · apply Throwing.uses_bind (Throwing.uses_attempt (uses_perform trivial))
      intro _
      split <;> trivial
    · trivial

theorem Cmd.ReadOnly.keepsRatings (cmd : Cmd) (readOnly : cmd.ReadOnly) : cmd.KeepsRatings := by
  cases cmd with
  | updateUser => exact readOnly.elim
  | respond => exact readOnly
  | _ => trivial

theorem checkOpponent_keepsRatings (player : User) (now : ℤ) :
    (checkOpponent playerId opponentId player now).run.Uses Cmd.KeepsRatings :=
  uses_mono (checkOpponent_readOnly player now) Cmd.ReadOnly.keepsRatings

theorem canBattle_keepsRatings :
    (canBattle playerId opponentId).run.Uses Cmd.KeepsRatings := by
  apply Throwing.uses_bind (Throwing.uses_attempt (uses_perform trivial))
  intro _
  split
  · trivial
  · apply Throwing.uses_bind (Throwing.uses_ask (uses_perform trivial))
    intro _
    split
    · refine Throwing.uses_bind (Throwing.uses_attempt (uses_perform rfl)) ?_
      intro _
      exact checkOpponent_keepsRatings _ _
    · split
      · trivial
      · exact checkOpponent_keepsRatings _ _

theorem recordBattleCompletion_keepsRatings :
    (recordBattleCompletion playerId).run.Uses Cmd.KeepsRatings := by
  apply Throwing.uses_bind
  · apply Throwing.uses_bind (Throwing.uses_ask (uses_perform trivial))
    intro now
    exact Throwing.uses_attempt (uses_perform rfl)
  intro _
  apply Throwing.uses_bind (Throwing.uses_ask (uses_perform trivial))
  intro _
  exact Throwing.uses_attempt (uses_perform rfl)

end KeepsRatings

structure RatingUpdate.Computed (rating : RatingUpdate) : Prop where
  newElo : rating.newElo = applyMinimumElo (rating.oldElo + rating.change)
  newRankTier : rating.newRankTier = (getRankByElo rating.newElo).tier

def Cmd.Computed : Cmd → Prop
  | .updateUser _ update => ∀ rating, update.rating? = some rating → rating.Computed
  | _ => True

section Computed

variable {powTen : ℚ → ℚ} {userId : UserId}

theorem computed_of_keepsRatings {α : Type} {program : Prog α}
    (keeps : program.run.Uses Cmd.KeepsRatings) : program.run.Uses Cmd.Computed := by
  refine uses_mono keeps fun cmd keepsRatings => ?_
  cases cmd with
  | updateUser _ update =>
    have unrated : update.rating? = none := keepsRatings
    simp [Cmd.Computed, unrated]
  | _ => trivial

theorem updateUser_computed {user : User} {change : ℤ} {update : UserUpdate}
    (rates : update.rating? = some (user.changed change)) :
    (updateUser userId update).run.Uses Cmd.Computed := by
  refine Throwing.uses_attempt (uses_perform ?_)
  intro _ isRated
  cases rates.symm.trans isRated
  exact ⟨rfl, rfl⟩

theorem rateBattle_computed (battleResult : BattleResult) :
    (rateBattle powTen battleResult).run.Uses Cmd.Computed := by
  apply Throwing.uses_bind (Throwing.uses_attempt (uses_perform trivial))
  intro _
  apply Throwing.uses_bind (Throwing.uses_attempt (uses_perform trivial))
  intro _
  split
  · refine Throwing.uses_bind ?_ fun _ => trivial
    apply Throwing.uses_bind (updateUser_computed rfl)
    intro _
    apply Throwing.uses_bind (updateUser_computed rfl)
    intro _
    apply Throwing.uses_bind (computed_of_keepsRatings recordBattleCompletion_keepsRatings)
    intro _
    exact computed_of_keepsRatings recordBattleCompletion_keepsRatings
  · trivial

theorem updateEloAfterBattle_computed (battleResult : BattleResult) :
    (updateEloAfterBattle powTen battleResult).run.Uses Cmd.Computed := by
  apply Throwing.uses_bind (computed_of_keepsRatings canBattle_keepsRatings)
  intro _
  apply Throwing.uses_bind (computed_of_keepsRatings canBattle_keepsRatings)
  intro _
  split
  · trivial
  · exact rateBattle_computed battleResult

theorem updateEloAfterDraw_computed (player1Id player2Id : UserId) :
    (updateEloAfterDraw powTen player1Id player2Id).run.Uses Cmd.Computed := by
  apply Throwing.uses_bind (Throwing.uses_attempt (uses_perform trivial))
  intro _
  apply Throwing.uses_bind (Throwing.uses_attempt (uses_perform trivial))
  intro _
  split
  · apply Throwing.uses_bind (updateUser_computed rfl)
    intro _
    exact Throwing.uses_bind (updateUser_computed rfl) fun _ => trivial
  · trivial

theorem decayUsers_computed (inactiveUsers : List (UserId × User)) (decayedCount : ℕ) :
    (decayUsers inactiveUsers decayedCount).run.Uses Cmd.Computed := by
  induction inactiveUsers generalizing decayedCount with
  | nil => trivial
  | cons _ _ ih =>
    rw [decayUsers]
    split
    · exact ih decayedCount
    · exact Throwing.uses_bind (updateUser_computed rfl) fun _ => ih (decayedCount + 1)

/-- Every update that a call issues carries the tier of its rating. -/
theorem body_computed (call : Call) : (body powTen call).Uses Cmd.Computed := by
  cases call with
  | battle battleResult =>
    exact uses_bind (updateEloAfterBattle_computed battleResult) fun _ => uses_perform trivial
  | draw player1Id player2Id =>
    exact uses_bind (updateEloAfterDraw_computed player1Id player2Id)
      fun _ => uses_perform trivial
  | decay =>
    refine uses_bind ?_ fun _ => uses_perform trivial
    apply Throwing.uses_bind (Throwing.uses_ask (uses_perform trivial))
    intro _
    exact Throwing.uses_bind (Throwing.uses_attempt (uses_perform trivial))
      fun inactiveUsers => decayUsers_computed inactiveUsers 0

end Computed

end CodeClash.Rating
