import CodeClash.Rating.Tracking

/-!
# Tiers follow ratings

Every update that writes a rating writes the tier of that rating along with it, in one command.
The tiers of a table therefore stay right whatever the calls read and wherever they fail, and no
rating below the minimum is ever written.
-/

namespace CodeClash.Rating

open Async

def User.TierRight (user : User) : Prop := user.rankTier = (getRankByElo user.elo).tier

/-- All tiers are right, and all ratings that were written are at least the minimum. -/
structure TiersRight (store : Store) : Prop where
  tiers : ∀ userId user, store.users.find userId = some user → user.TierRight
  minimum : ∀ userId elo, .written userId elo ∈ store.log → getMinimumElo ≤ elo

section Tiers

variable {powTen : ℚ → ℚ} {store : Store}

variable {update : UserUpdate}

theorem UserUpdate.write_tierRight {user : User} (right : user.TierRight)
    (computed : ∀ rating, update.rating? = some rating → rating.Computed) :
    (update.write user).TierRight := by
  cases update with
  | win rating => exact (computed rating rfl).newRankTier
  | loss rating => exact (computed rating rfl).newRankTier
  | rate rating => exact (computed rating rfl).newRankTier
  | _ => exact right

theorem RatingUpdate.Computed.minimum {rating : RatingUpdate} (computed : rating.Computed) :
    getMinimumElo ≤ rating.newElo := by
  rw [computed.newElo]
  exact le_max_right _ _

theorem UserUpdate.events_minimum {userId other : UserId} {elo : ℤ}
    (computed : ∀ rating, update.rating? = some rating → rating.Computed)
    (member : .written other elo ∈ update.events userId) : getMinimumElo ≤ elo := by
  cases update <;> simp only [events, List.mem_singleton, List.not_mem_nil, reduceCtorEq,
    Event.written.injEq] at member
  all_goals
    rcases member with ⟨rfl, rfl⟩
    exact (computed _ rfl).minimum

theorem TiersRight.updated (right : TiersRight store) (userId : UserId)
    (computed : ∀ rating, update.rating? = some rating → rating.Computed) :
    TiersRight ⟨store.users.modify userId update.write, update.events userId ++ store.log⟩ := by
  refine ⟨?_, ?_⟩
  · intro other _ found
    by_cases same : other = userId
    · subst other
      rw [Keys.Table.find_modify_self, Option.map_eq_some_iff] at found
      rcases found with ⟨_, known, rfl⟩
      exact UserUpdate.write_tierRight (right.tiers _ _ known) computed
    · rw [Keys.Table.find_modify_of_ne same] at found
      exact right.tiers _ _ found
  · intro _ _ member
    rcases List.mem_append.mp member with isNew | earlier
    · exact UserUpdate.events_minimum computed isNew
    · exact right.minimum _ _ earlier

theorem TiersRight.handle (right : TiersRight store) {cmd : Cmd} (computed : cmd.Computed)
    (choice : Choice) : TiersRight (handle cmd choice store).2 := by
  cases cmd with
  | updateUser userId update =>
    rw [Rating.handle]
    split
    · exact right
    · exact right.updated userId computed
  | respond response =>
    refine ⟨right.tiers, ?_⟩
    intro _ _ member
    rcases List.mem_append.mp member with isNew | earlier
    · cases response with
      | battle outcome => cases outcome <;> simp [Response.events] at isNew
      | draw => simp [Response.events] at isNew
      | decay => simp [Response.events] at isNew
    · exact right.minimum _ _ earlier
  | _ => exact right

/--
From a table whose tiers are right, any number of calls for battles, draws and decay run,
interleave at every command and fail anywhere: the tiers stay right, and every rating that is
written is at least 800.
-/
theorem tiers_stay_right {users : Keys.Table UserId User} {state : ServerState}
    (right : ∀ userId user, users.find userId = some user →
      user.rankTier = (getRankByElo user.elo).tier)
    (reached : (server powTen).Reaches Server.anyStep (freshServer users) state) :
    (∀ userId user, state.store.users.find userId = some user →
        user.rankTier = (getRankByElo user.elo).tier) ∧
      ∀ userId elo, .written userId elo ∈ state.store.log → 800 ≤ elo := by
  have kept : TiersRight state.store := by
    refine reached.store_invariant (fun _ => rfl) (fun _ call => body_computed call) ?_ ?_ ?_ ?_
    · intro _ _ _ accepted right
      cases accepted
      exact right
    · intro event
      exact event.elim
    · intro state id choice cmd _ _ computed right
      exact right.handle computed choice
    · exact ⟨right, fun _ _ => nofun⟩
  exact ⟨kept.tiers, kept.minimum⟩

theorem won_battle_keeps_tiers :
    ∃ state, (server fun _ => 1).Reaches Server.anyStep (freshServer sampleUsers) state ∧
      state.store.log = [.succeeded "ann" "bob", .written "bob" 1184, .written "ann" 1216] ∧
        ∀ userId user, state.store.users.find userId = some user →
          user.rankTier = (getRankByElo user.elo).tier := by
  apply Server.exists_reaches_and [0] (fun _ _ => true)
    (.start 0 (.battle ⟨"ann", "bob"⟩) :: List.replicate 21 (.advance 0 (answerAt 0)))
  · intro _ _ _ _
    trivial
  · intro _ _
    rfl
  · decide +kernel
  · intro _ reached
    refine (tiers_stay_right ?_ reached).1
    intro _ _ found
    rcases Keys.Table.find_ofKeys.mp found with ⟨_, rfl⟩
    rfl

end Tiers

end CodeClash.Rating
