import CodeClash.Rating.Arithmetic

/-!
# Decay of inactive users

`applyEloDecay` takes 25 points off the rating of every user that has been inactive for a week, down
to the minimum. The limit of 200 points for a season is compared with what a single run takes off,
so it never stops a run.
-/

namespace CodeClash.Rating

open Async ANTI_FARMING_CONFIG

def User.decayed (user : User) : User :=
  (user.changed (-weeklyDecayAmount)).write user

def Store.inactiveUsers (store : Store) (now : ℤ) : List (UserId × User) :=
  store.users.findMany fun user =>
    user.lastActiveAt < now - inactivityDecayDays * dayMs ∧ getMinimumElo < user.elo

/-- The loop comes to the user: no update up to the one of the user fails. -/
def loopComesTo (userId : UserId) : List (UserId × User) → (ℕ → Choice) → Bool
  | [], _ => false
  | (other, _) :: inactiveUsers, choices =>
    !(choices 0).fails &&
      (other = userId || loopComesTo userId inactiveUsers fun n => choices (n + 1))

/-- The run finds the user inactive, and no call to the database fails up to the update of the
user. -/
def comesTo (userId : UserId) (choices : ℕ → Choice) (store : Store) : Bool :=
  !(choices 1).fails &&
    loopComesTo userId (store.inactiveUsers (choices 0).now) fun n => choices (n + 2)

def decayAll : List (ℕ → Choice) → Store → Store
  | [], store => store
  | choices :: runs, store => decayAll runs (runAlone applyEloDecay choices store).2

def decayCount (userId : UserId) : List (ℕ → Choice) → Store → ℕ
  | [], _ => 0
  | choices :: runs, store =>
    (if comesTo userId choices store then 1 else 0) +
      decayCount userId runs (runAlone applyEloDecay choices store).2

section Decay

variable {store : Store} {userId : UserId} {user : User} {choices : ℕ → Choice}

theorem decayed_elo : user.decayed.elo = max (user.elo - 25) 800 := rfl

theorem not_exceeds (above : getMinimumElo < user.elo) :
    ¬maxDecayPerSeason < user.elo - (user.changed (-weeklyDecayAmount)).newElo := by
  have newElo : (user.changed (-weeklyDecayAmount)).newElo = max (user.elo - 25) 800 := rfl
  rw [newElo, maxDecayPerSeason]
  rw [getMinimumElo] at above
  omega

variable {α : Type} {inactiveUsers : List (UserId × User)}

theorem loopComesTo_eq_false (absent : userId ∉ inactiveUsers.map Prod.fst) :
    loopComesTo userId inactiveUsers choices = false := by
  induction inactiveUsers generalizing choices with
  | nil => rfl
  | cons _ _ ih =>
    rw [List.map_cons, List.mem_cons, not_or] at absent
    simp [loopComesTo, Ne.symm absent.1, ih absent.2]

theorem decayUsers_find (nodup : (inactiveUsers.map Prod.fst).Nodup)
    (listed : ∀ other row, (other, row) ∈ inactiveUsers → store.users.find other = some row)
    (above : ∀ other row, (other, row) ∈ inactiveUsers → getMinimumElo < row.elo)
    (decayedCount : ℕ) :
    (runAlone (decayUsers inactiveUsers decayedCount) choices store).2.users.find userId =
      if loopComesTo userId inactiveUsers choices then
        (store.users.find userId).map User.decayed
      else store.users.find userId := by
  induction inactiveUsers generalizing store choices decayedCount with
  | nil => rfl
  | cons entry inactiveUsers ih =>
    rcases entry with ⟨other, row⟩
    rw [List.map_cons, List.nodup_cons] at nodup
    rcases nodup with ⟨unrepeated, nodup⟩
    have found := listed other row List.mem_cons_self
    have taken := not_exceeds (above other row List.mem_cons_self)
    rw [decayUsers, if_neg taken, runAlone_updateUser found, loopComesTo]
    cases fails : (choices 0).fails with
    | true => rfl
    | false =>
      have listedNext : ∀ key value, (key, value) ∈ inactiveUsers → (store.updated other
          (.rate (row.changed (-weeklyDecayAmount)))).users.find key = some value := by
        intro key value member
        rw [find_updated_of_ne]
        · exact listed key value (List.mem_cons_of_mem _ member)
        · rintro rfl
          exact unrepeated (List.mem_map.mpr ⟨_, member, rfl⟩)
      have aboveNext : ∀ key value, (key, value) ∈ inactiveUsers → getMinimumElo < value.elo :=
        fun key value member => above key value (List.mem_cons_of_mem _ member)
      simp only [Bool.false_eq_true, if_false, Bool.not_false, Bool.true_and]
      rw [ih nodup listedNext aboveNext]
      by_cases same : other = userId
      · subst other
        rw [loopComesTo_eq_false unrepeated]
        simp [found, UserUpdate.write, User.decayed]
      · simp only [same, decide_false, Bool.false_or, find_updated_of_ne store (Ne.symm same)]

variable {now : ℤ}

theorem mem_inactiveUsers {other : UserId} {row : User}
    (member : (other, row) ∈ store.inactiveUsers now) :
    store.users.find other = some row ∧ getMinimumElo < row.elo := by
  rcases Keys.Table.mem_findMany.mp member with ⟨found, passes⟩
  exact ⟨found, (of_decide_eq_true passes).2⟩

theorem loopComesTo_mem (comes : loopComesTo userId inactiveUsers choices = true) :
    userId ∈ inactiveUsers.map Prod.fst := by
  by_contra absent
  rw [loopComesTo_eq_false absent] at comes
  cases comes

theorem minimum_lt_of_comesTo (comes : comesTo userId choices store = true)
    (found : store.users.find userId = some user) : 800 < user.elo := by
  rcases Bool.and_eq_true_iff.mp comes with ⟨_, comes⟩
  rcases List.mem_map.mp (loopComesTo_mem comes) with ⟨⟨_, _⟩, member, rfl⟩
  rcases mem_inactiveUsers member with ⟨isRow, above⟩
  cases found.symm.trans isRow
  exact above

theorem runAlone_getTime {next : ℤ → Prog α} :
    runAlone (getTime >>= next) choices store =
      runAlone (next (choices 0).now) (fun n => choices (n + 1)) store := rfl

theorem runAlone_findInactive {next : List (UserId × User) → Prog α} :
    runAlone (findInactive (now - inactivityDecayDays * dayMs) >>= next) choices store =
      if (choices 0).fails then (.error .database, store)
      else runAlone (next (store.inactiveUsers now)) (fun n => choices (n + 1)) store := by
  have answered : handle (.findInactive (now - inactivityDecayDays * dayMs)) (choices 0) store =
      (if (choices 0).fails then .error .rejected else .ok (store.inactiveUsers now), store) := rfl
  change @Program.run signature _ _ _ handle _ choices
    (.issue (.findInactive (now - inactivityDecayDays * dayMs)) _) store = _
  simp only [Program.run, answered]
  split <;> rfl

theorem applyEloDecay_find :
    (runAlone applyEloDecay choices store).2.users.find userId =
      if comesTo userId choices store then (store.users.find userId).map User.decayed
      else store.users.find userId := by
  rw [applyEloDecay, runAlone_getTime, runAlone_findInactive, comesTo]
  cases (choices 1).fails with
  | true => rfl
  | false =>
    simp only [Bool.false_eq_true, if_false, Bool.not_false, Bool.true_and]
    refine decayUsers_find Keys.Table.findMany_nodup ?_ ?_ 0
    · intro other row member
      exact (mem_inactiveUsers member).1
    · intro _ _ member
      exact (mem_inactiveUsers member).2

theorem decayAll_elo (runs : List (ℕ → Choice)) (found : store.users.find userId = some user) :
    ∃ after, (decayAll runs store).users.find userId = some after ∧
      after.elo = if 800 < user.elo then max (user.elo - 25 * decayCount userId runs store) 800
        else user.elo := by
  induction runs generalizing store user with
  | nil =>
    refine ⟨user, found, ?_⟩
    rw [decayCount]
    split <;> omega
  | cons choices _ ih =>
    have next := @applyEloDecay_find store userId choices
    rw [found] at next
    rw [decayAll, decayCount]
    cases comes : comesTo userId choices store with
    | true =>
      rw [comes] at next
      rcases ih next with ⟨after, foundAfter, elo⟩
      have above := minimum_lt_of_comesTo comes found
      refine ⟨after, foundAfter, ?_⟩
      rw [elo, decayed_elo, if_pos above, if_pos rfl]
      push_cast
      split <;> omega
    | false =>
      rw [comes] at next
      rcases ih next with ⟨after, foundAfter, elo⟩
      refine ⟨after, foundAfter, ?_⟩
      rw [elo, if_neg Bool.false_ne_true, zero_add]

/--
Any number of runs take off at most 200 points of a user exactly if the user has at most 1000
points to begin with or at most eight of the runs come to the user.
-/
theorem decay_within_cap_iff (runs : List (ℕ → Choice))
    (found : store.users.find userId = some user) :
    (∃ after, (decayAll runs store).users.find userId = some after ∧
        user.elo - after.elo ≤ maxDecayPerSeason) ↔
      user.elo ≤ 1000 ∨ decayCount userId runs store ≤ 8 := by
  rcases decayAll_elo runs found with ⟨after, foundAfter, elo⟩
  have onlyAfter : (∃ last, (decayAll runs store).users.find userId = some last ∧
      user.elo - last.elo ≤ maxDecayPerSeason) ↔ user.elo - after.elo ≤ maxDecayPerSeason := by
    simp [foundAfter]
  rw [onlyAfter, elo, maxDecayPerSeason]
  split
  · omega
  · rename_i low
    refine iff_of_true (by omega) (.inl ?_)
    omega

/-- A run a week after the last activity of the users, with nothing failing. -/
def weekLater (_n : ℕ) : Choice := answerAt (8 * dayMs)

/-- Eight runs take off 200 points. -/
theorem eight_runs_keep_cap :
    ∃ after, (decayAll (List.replicate 8 weekLater) ⟨sampleUsers, []⟩).users.find "ann" =
        some after ∧ (sampleUser 1200).elo - after.elo ≤ maxDecayPerSeason :=
  (decay_within_cap_iff (List.replicate 8 weekLater) rfl).mpr (.inr (by decide +kernel))

/-- Nine runs take off 225 points. -/
theorem ninth_run_exceeds_cap :
    ¬∃ after, (decayAll (List.replicate 9 weekLater) ⟨sampleUsers, []⟩).users.find "ann" =
        some after ∧ (sampleUser 1200).elo - after.elo ≤ maxDecayPerSeason := by
  rintro ⟨_, found, within⟩
  have computed : ((decayAll (List.replicate 9 weekLater) ⟨sampleUsers, []⟩).users.find
      "ann").map User.elo = some 975 := by
    decide +kernel
  rw [found, Option.map_some, Option.some.injEq] at computed
  rw [computed] at within
  exact absurd within (by decide)

end Decay

end CodeClash.Rating
