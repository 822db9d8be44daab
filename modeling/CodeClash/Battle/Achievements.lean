import CodeClash.Battle.Bookkeeping

/-!
# Achievements and the battles that earn them

Four achievements are for a number of wins. `endBattle` counts the win in the row of the winner,
reads the row again and adds one once more, whereas the streak is read before it is incremented.
Battles are ended one after the other here, and nothing fails, so what the database answers is given
by the tables alone.
-/

namespace CodeClash.Battle

open Async Program Function

structure Records where
  users : UserId → Option User
  achievements : UserId → List String

def Store.records (store : Store) : Records := ⟨store.users, store.achievements⟩

namespace Records

def rate (records : Records) (effect : RatingEffect) : Records :=
  { records with
    users := update records.users effect.userId
      ((records.users effect.userId).map effect.apply) }

def grant (records : Records) (userId : UserId) (id : String) : Records :=
  { records with
    achievements := update records.achievements userId
      (id :: records.achievements userId) }

variable {records : Records} {effect other : RatingEffect} {userId : UserId}

theorem rate_users_of_ne (differs : userId ≠ effect.userId) :
    (records.rate effect).users userId = records.users userId := update_of_ne differs _ _

theorem rate_comm (differs : effect.userId ≠ other.userId) :
    (records.rate effect).rate other = (records.rate other).rate effect := by
  simp only [rate, update_of_ne differs, update_of_ne differs.symm]
  rw [Function.update_comm differs]

end Records

def unfailing : Protocol signature Records where
  allows _ _ := True
  expects records cmd reply :=
    match cmd, reply with
    | .findUser userId, reply => reply = .ok (records.users userId)
    | .rate _ effect, reply => records.users effect.userId ≠ none → reply = .ok ()
    | .findAchievements userId, reply => reply = .ok (records.achievements userId)
    | .createAchievement userId achievement, .ok _ =>
      achievement.id ∉ records.achievements userId
    | .createAchievement userId achievement, .error _ =>
      achievement.id ∈ records.achievements userId
    | _, _ => True
  after records cmd reply :=
    match cmd, reply with
    | .rate _ effect, .ok _ => records.rate effect
    | .createAchievement userId achievement, .ok _ => records.grant userId achievement.id
    | _, _ => records

theorem handle_unfailing (cmd : Cmd) {choice : Choice} (answers : choice.fails = false)
    (store : Store) :
    unfailing.expects store.records cmd (handle cmd choice store).1 ∧
      (handle cmd choice store).2.records =
        unfailing.after store.records cmd (handle cmd choice store).1 := by
  cases cmd with
  | findUser => simp [unfailing, handle, answer, answers, Store.records]
  | findAchievements => simp [unfailing, handle, answer, answers, Store.records]
  | rate _ effect =>
    cases row : store.users effect.userId with
    | none => simp [unfailing, handle, Store.rate, answers, row, Store.records]
    | some =>
      simp [unfailing, handle, Store.rate, answers, row, Store.records, Records.rate]
  | createAchievement userId achievement =>
    by_cases held : achievement.id ∈ store.achievements userId
    · simp [unfailing, handle, held, Store.records]
    · simp [unfailing, handle, answers, held, Store.records, Records.grant]
  | setLock =>
    refine ⟨trivial, ?_⟩
    simp only [handle, Store.setLock]
    split <;> rfl
  | getLockValue =>
    refine ⟨trivial, ?_⟩
    simp only [handle, Store.getLockValue]
    split <;> rfl
  | evalUnlock =>
    refine ⟨trivial, ?_⟩
    simp only [handle, Store.evalUnlock]
    split_ifs
    · split <;> rfl
    · rfl
  | clearInterval _ save => cases save <;> exact ⟨trivial, rfl⟩
  | _ => exact ⟨trivial, rfl⟩

structure Granted (userId : UserId) (earned : String → Prop) (before after : Records) : Prop where
  users : after.users = before.users
  own : ∀ id, id ∈ after.achievements userId ↔ id ∈ before.achievements userId ∨ earned id
  others : ∀ other, other ≠ userId → after.achievements other = before.achievements other

namespace Granted

variable {userId : UserId} {earned more : String → Prop} {before middle after : Records}

theorem of_held (held : ∀ id, earned id → id ∈ before.achievements userId) :
    Granted userId earned before before :=
  ⟨rfl, fun id => ⟨Or.inl, fun has => has.elim (fun known => known) (held id)⟩, fun _ _ => rfl⟩

theorem of_grant (records : Records) (userId : UserId) (id : String) :
    Granted userId (· = id) records (records.grant userId id) := by
  refine ⟨rfl, ?_, ?_⟩
  · intro other
    simp [Records.grant, or_comm]
  · intro _ differs
    exact update_of_ne differs _ _

theorem trans (first : Granted userId earned before middle)
    (second : Granted userId more middle after) :
    Granted userId (fun id => earned id ∨ more id) before after := by
  refine ⟨second.users.trans first.users, ?_, ?_⟩
  · intro _
    rw [second.own, first.own, or_assoc]
  · intro other differs
    rw [second.others other differs, first.others other differs]

theorem congr (granted : Granted userId earned before after)
    (same : ∀ id, earned id ↔ more id) : Granted userId more before after :=
  ⟨granted.users, fun id => by rw [granted.own, same], granted.others⟩

end Granted

def Earns (stats : AchievementStats) (list : List Achievement) (id : String) : Prop :=
  ∃ achievement ∈ list, achievement.id = id ∧ achievement.condition stats = true

variable {stats : AchievementStats}

theorem earns_cons {achievement : Achievement} {list : List Achievement} {id : String} :
    Earns stats (achievement :: list) id ↔
      achievement.id = id ∧ achievement.condition stats = true ∨ Earns stats list id := by
  simp [Earns]

section Runs

variable {records : Records} {userId winnerId loserId : UserId} {stats : AchievementStats}
  {α : Type} {roomId : RoomId}

theorem Granted.cons {achievement : Achievement}
    {list : List Achievement} {before middle after : Records} (first : Granted userId
      (fun id => achievement.id = id ∧ achievement.condition stats = true) before middle)
    (rest : Granted userId (Earns stats list) middle after) :
    Granted userId (Earns stats (achievement :: list)) before after :=
  (first.trans rest).congr fun _ => earns_cons.symm

theorem grantAll_grants {earnedIds : List String}
    (known : ∀ id ∈ earnedIds, id ∈ records.achievements userId) (list : List Achievement) :
    (grantAll userId stats earnedIds list).Obeys unfailing
      (fun reached _ => Granted userId (Earns stats list) records reached) records := by
  induction list generalizing records with
  | nil =>
    refine Granted.of_held ?_
    rintro id ⟨achievement, present, _⟩
    cases present
  | cons achievement list ih =>
    have unchanged (held : achievement.condition stats = true →
        achievement.id ∈ records.achievements userId) :
        (grantAll userId stats earnedIds list).Obeys unfailing (fun reached _ =>
          Granted userId (Earns stats (achievement :: list)) records reached) records := by
      refine (ih known).mono ?_
      intro reached newlyEarned rest
      refine Granted.cons (Granted.of_held ?_) rest
      rintro _ ⟨rfl, meets⟩
      exact held meets
    rw [grantAll]
    split_ifs with earns
    · refine obeys_perform_bind trivial ?_
      intro reply answered
      cases reply with
      | ok =>
        have first := Granted.of_grant records userId achievement.id
        refine obeys_bind.mpr ((ih ?_).mono ?_)
        · intro id present
          exact (first.own id).mpr (Or.inl (known id present))
        · intro _ _ rest
          refine Granted.cons (first.congr ?_) rest
          intro _
          rw [earns.2, eq_comm]
          simp
      | error => exact unchanged fun _ => answered
    · apply unchanged
      intro meets
      by_contra missing
      exact earns ⟨fun present => missing (known _ present), meets⟩

theorem checkAndGrant_grants (userId : UserId) (stats : AchievementStats) :
    (checkAndGrant userId stats).Obeys unfailing
      (fun reached outcome => outcome.isOk = true ∧
        Granted userId (Earns stats ACHIEVEMENTS) records reached) records := by
  refine obeys_perform_bind trivial ?_
  rintro _ rfl
  refine obeys_bind.mpr ((grantAll_grants (fun id known => known) ACHIEVEMENTS).mono ?_)
  intro _ _ granted
  exact ⟨rfl, granted⟩

theorem obeys_promiseAll {β : Type} {first : Prog (Except Failure α)}
    {second : Prog (Except Failure β)} {post : Records → Except Failure (α × β) → Prop}
    (firstFirst : first.Obeys unfailing (fun middle left => second.Obeys unfailing
      (fun reached right => post reached (promiseAll.both left right)) middle) records)
    (secondFirst : second.Obeys unfailing (fun middle right => first.Obeys unfailing
      (fun reached left => post reached (promiseAll.both left right)) middle) records) :
    (promiseAll first second).Obeys unfailing post records := by
  refine obeys_perform_bind trivial ?_
  intro order _
  cases order with
  | true =>
    refine obeys_bind.mpr (firstFirst.mono ?_)
    intro middle _ later
    exact obeys_bind.mpr later
  | false =>
    refine obeys_bind.mpr (secondFirst.mono ?_)
    intro _ _ later
    exact obeys_bind.mpr later

theorem getUsers_finds (first second : UserId) :
    (promiseAll (getUserById first) (getUserById second)).Obeys unfailing
      (fun reached outcome => reached = records ∧
        outcome = .ok (records.users first, records.users second)) records := by
  refine obeys_promiseAll ?_ ?_
  · refine ⟨trivial, ?_⟩
    rintro _ rfl
    refine ⟨trivial, ?_⟩
    rintro _ rfl
    exact ⟨rfl, rfl⟩
  · refine ⟨trivial, ?_⟩
    rintro _ rfl
    refine ⟨trivial, ?_⟩
    rintro _ rfl
    exact ⟨rfl, rfl⟩

structure Ready (winnerId loserId : UserId) (records : Records) : Prop where
  differ : winnerId ≠ loserId
  winner : records.users winnerId ≠ none
  loser : records.users loserId ≠ none

theorem rate_succeeds {effect : RatingEffect}
    {post : Records → Except Failure Unit → Prop} (row : records.users effect.userId ≠ none)
    (later : post (records.rate effect) (.ok ())) :
    (request (.rate roomId effect)).Obeys unfailing post records := by
  refine ⟨trivial, ?_⟩
  intro _ answered
  cases answered row
  exact later

theorem updateBattleStats_rates
    (ready : Ready winnerId loserId records) (winnerEloChange loserEloChange : ℤ) :
    (updateBattleStats roomId winnerId loserId winnerEloChange loserEloChange).Obeys unfailing
      (fun reached outcome => outcome = .ok ((), ()) ∧
        reached = (records.rate (.won winnerId winnerEloChange)).rate
          (.lost loserId loserEloChange)) records := by
  have won : RatingEffect.userId (.won winnerId winnerEloChange) = winnerId := rfl
  have lost : RatingEffect.userId (.lost loserId loserEloChange) = loserId := rfl
  refine obeys_promiseAll ?_ ?_
  · refine rate_succeeds ready.winner (rate_succeeds ?_ ⟨rfl, rfl⟩)
    rw [Records.rate_users_of_ne ready.differ.symm]
    exact ready.loser
  · refine rate_succeeds ready.loser (rate_succeeds ?_ ⟨rfl, ?_⟩)
    · rw [Records.rate_users_of_ne ready.differ]
      exact ready.winner
    · exact Records.rate_comm ready.differ.symm

/-- What a battle leaves in the tables. The achievements count one win too many and the streak
before this battle. -/
structure Settled (winnerId loserId : UserId) (before after : Records) : Prop where
  winner : ∀ user, before.users winnerId = some user → ∃ later,
    after.users winnerId = some later ∧ later.wins = user.wins + 1 ∧
      later.winStreak = user.winStreak + 1
  earned : ∀ user, before.users winnerId = some user → ∃ stats : AchievementStats,
    stats.wins = user.wins + 2 ∧ stats.winStreak = user.winStreak ∧
      stats.firstWin = some false ∧ ∀ id, id ∈ after.achievements winnerId ↔
        id ∈ before.achievements winnerId ∨ Earns stats ACHIEVEMENTS id
  loser : ∀ user, before.users loserId = some user → ∃ later,
    after.users loserId = some later ∧ later.wins = user.wins ∧ later.winStreak = 0
  rows : ∀ other, other ≠ winnerId → other ≠ loserId → after.users other = before.users other
  achievements : ∀ other, other ≠ winnerId →
    after.achievements other = before.achievements other

theorem settled_of_granted {granted : Records} {winnerEloChange loserEloChange : ℤ}
    (differ : winnerId ≠ loserId)
    (wins : ∀ user, records.users winnerId = some user → stats.wins = user.wins + 2 ∧
      stats.winStreak = user.winStreak ∧ stats.firstWin = some false)
    (grants : Granted winnerId (Earns stats ACHIEVEMENTS)
      ((records.rate (.won winnerId winnerEloChange)).rate (.lost loserId loserEloChange))
      granted) :
    Settled winnerId loserId records
      ((granted.rate (.streakIncremented winnerId)).rate (.streakReset loserId)) := by
  refine ⟨?_, ?_, ?_, ?_, ?_⟩
  · intro user row
    simp [Records.rate, RatingEffect.userId, grants.users, differ, row, RatingEffect.apply]
  · intro user row
    rcases wins user row with ⟨sameWins, sameStreak, notFirst⟩
    exact ⟨stats, sameWins, sameStreak, notFirst, grants.own⟩
  · intro _ row
    simp [Records.rate, RatingEffect.userId, grants.users, differ.symm, row, RatingEffect.apply]
  · intro _ notWinner notLoser
    simp [Records.rate, RatingEffect.userId, grants.users, notWinner, notLoser]
  · exact grants.others

variable {post : Records → α → Prop}

theorem obeys_now {next : ℤ → Prog α} (later : ∀ now, (next now).Obeys unfailing post records) :
    (request .now >>= next).Obeys unfailing post records := ⟨trivial, fun now _ => later now⟩

theorem obeys_getUserById {next : Except Failure (Option User) → Prog α}
    (later : (next (.ok (records.users userId))).Obeys unfailing post records) :
    (getUserById userId >>= next).Obeys unfailing post records := by
  refine ⟨trivial, ?_⟩
  rintro _ rfl
  exact later

theorem settleBattle_settles (powTen : ℚ → ℚ) {state : BattleState}
    (ready : Ready winnerId loserId records) :
    (settleBattle powTen roomId state winnerId loserId).Obeys unfailing
      (fun reached _ => Settled winnerId loserId records reached) records := by
  refine obeys_bind.mpr ((getUsers_finds winnerId loserId).mono ?_)
  rintro _ _ ⟨rfl, rfl⟩
  refine obeys_bind.mpr ((updateBattleStats_rates ready _ _).mono ?_)
  rintro _ _ ⟨rfl, rfl⟩
  refine obeys_now fun now => obeys_getUserById ?_
  refine obeys_bind.mpr ((checkAndGrant_grants winnerId _).mono ?_)
  rintro granted outcome ⟨succeeded, grants⟩
  cases outcome with
  | error => cases succeeded
  | ok =>
    have winnerRow : granted.users winnerId ≠ none := by
      simpa [grants.users, Records.rate, RatingEffect.userId, ready.differ] using ready.winner
    have loserRow : granted.users loserId ≠ none := by
      simpa [grants.users, Records.rate, RatingEffect.userId, ready.differ.symm]
        using ready.loser
    refine obeys_bind.mpr (rate_succeeds winnerRow ?_)
    refine obeys_bind.mpr (rate_succeeds ?_ ?_)
    · rw [Records.rate_users_of_ne ready.differ.symm]
      exact loserRow
    · refine ⟨trivial, fun _ _ => ⟨trivial, fun _ _ => ?_⟩⟩
      refine settled_of_granted ready.differ ?_ grants
      intro _ row
      simp [winnerStats, winsOrZero, Records.rate, RatingEffect.userId, ready.differ, row,
        RatingEffect.apply]

theorem endBattle_settles (powTen : ℚ → ℚ) {ending : Ending}
    (ready : Ready ending.winnerId ending.loserId records) :
    (endBattle powTen ending.roomId ending.state ending.overrideWinnerId).Obeys unfailing
      (fun reached _ => Settled ending.winnerId ending.loserId records reached) records := by
  have saves : (saveBattleState ending.roomId (ending.state.withStatus .ended) none).Obeys
      unfailing (fun reached _ => reached = records) records :=
    ⟨trivial, fun _ _ => ⟨trivial, fun _ _ => rfl⟩⟩
  refine obeys_bind.mpr (saves.mono ?_)
  rintro _ _ rfl
  exact obeys_bind.mpr ((settleBattle_settles powTen ready).mono fun _ _ settled => settled)

end Runs

/-- The wins of a user, the wins since the last defeat and the most wins in a row. -/
structure Career where
  wins : ℕ
  streak : ℕ
  best : ℕ
deriving DecidableEq, Repr

namespace Career

def start : Career := ⟨0, 0, 0⟩

def play (userId : UserId) (career : Career) (ending : Ending) : Career :=
  if ending.winnerId = userId then
    ⟨career.wins + 1, career.streak + 1, max career.best (career.streak + 1)⟩
  else if ending.loserId = userId then { career with streak := 0 }
  else career

end Career

def careerOf (userId : UserId) (endings : List Ending) : Career :=
  endings.foldl (Career.play userId) Career.start

/-- The achievements are held from the battles on that their descriptions say. -/
structure Documented (career : Career) (held : List String) : Prop where
  firstBlood : "first-blood" ∈ held ↔ 1 ≤ career.wins
  veteran : "veteran" ∈ held ↔ 10 ≤ career.wins
  champion : "champion" ∈ held ↔ 25 ≤ career.wins
  comebackKid : "comeback-kid" ∈ held ↔ 5 ≤ career.best

/-- The achievements that are held after so many wins, and so many of them in a row. -/
structure Held (wins best : ℕ) (held : List String) : Prop where
  firstBlood : "first-blood" ∉ held
  veteran : "veteran" ∈ held ↔ 9 ≤ wins
  champion : "champion" ∈ held ↔ 24 ≤ wins
  comebackKid : "comeback-kid" ∈ held ↔ 6 ≤ best

/-- The tables have the numbers of the career, and the achievements that belong to them. -/
structure Tracks (userId : UserId) (career : Career) (records : Records) : Prop where
  row : ∃ user, records.users userId = some user ∧ user.wins = career.wins ∧
    user.winStreak = career.streak
  achievements : Held career.wins career.best (records.achievements userId)

section Earning

variable {stats : AchievementStats}

theorem earns_firstBlood : Earns stats ACHIEVEMENTS "first-blood" ↔ stats.firstWin = some true := by
  simp [Earns, ACHIEVEMENTS]

theorem earns_veteran : Earns stats ACHIEVEMENTS "veteran" ↔ 10 ≤ stats.wins := by
  simp [Earns, ACHIEVEMENTS]

theorem earns_champion : Earns stats ACHIEVEMENTS "champion" ↔ 25 ≤ stats.wins := by
  simp [Earns, ACHIEVEMENTS]

theorem earns_comebackKid : Earns stats ACHIEVEMENTS "comeback-kid" ↔ 5 ≤ stats.winStreak := by
  simp [Earns, ACHIEVEMENTS]

end Earning

theorem Held.won {wins streak best : ℕ} {before after : List String}
    (held : Held wins best before) (statsWins : stats.wins = wins + 2)
    (statsStreak : stats.winStreak = streak) (notFirst : stats.firstWin = some false)
    (earned : ∀ id, id ∈ after ↔ id ∈ before ∨ Earns stats ACHIEVEMENTS id) :
    Held (wins + 1) (max best (streak + 1)) after := by
  refine ⟨?_, ?_, ?_, ?_⟩
  · rw [earned, earns_firstBlood, notFirst]
    simpa using held.firstBlood
  · rw [earned, earns_veteran, held.veteran]
    omega
  · rw [earned, earns_champion, held.champion]
    omega
  · rw [earned, earns_comebackKid, held.comebackKid]
    omega

theorem Tracks.settled {userId : UserId} {career : Career} {before after : Records}
    {ending : Ending} (differ : ending.winnerId ≠ ending.loserId)
    (tracks : Tracks userId career before)
    (settled : Settled ending.winnerId ending.loserId before after) :
    Tracks userId (career.play userId ending) after := by
  rcases tracks.row with ⟨user, row, wins, streak⟩
  rw [Career.play]
  split_ifs with isWinner isLoser
  · subst isWinner
    rcases settled.winner user row with ⟨later, laterRow, laterWins, laterStreak⟩
    rcases settled.earned user row with ⟨_, statsWins, statsStreak, notFirst, earned⟩
    refine ⟨⟨later, laterRow, by rw [laterWins, wins], by rw [laterStreak, streak]⟩, ?_⟩
    exact tracks.achievements.won (by rw [statsWins, wins]) (statsStreak.trans streak) notFirst
      earned
  · subst isLoser
    rcases settled.loser user row with ⟨later, laterRow, laterWins, laterStreak⟩
    refine ⟨⟨later, laterRow, laterWins.trans wins, laterStreak⟩, ?_⟩
    rw [settled.achievements ending.loserId differ.symm]
    exact tracks.achievements
  · refine ⟨⟨user, ?_, wins, streak⟩, ?_⟩
    · rw [settled.rows userId (Ne.symm isWinner) (Ne.symm isLoser), row]
    · rw [settled.achievements userId (Ne.symm isWinner)]
      exact tracks.achievements

structure PlayedBattle where
  ending : Ending
  choices : ℕ → Choice

namespace PlayedBattle

def finish (powTen : ℚ → ℚ) (store : Store) (battle : PlayedBattle) : Store :=
  ((endBattle powTen battle.ending.roomId battle.ending.state
    battle.ending.overrideWinnerId).run handle (fun _ store => store) battle.choices store).2

/-- Nothing fails: no call is rejected, and the two players are different and have rows. -/
structure Succeeds (store : Store) (battle : PlayedBattle) : Prop where
  answers : ∀ n, (battle.choices n).fails = false
  players : battle.ending.state.player1Id ≠ battle.ending.state.player2Id
  winner : store.users battle.ending.winnerId ≠ none
  loser : store.users battle.ending.loserId ≠ none

end PlayedBattle

def finishAll (powTen : ℚ → ℚ) (battles : List PlayedBattle) (store : Store) : Store :=
  battles.foldl (PlayedBattle.finish powTen) store

def Unplayed (userId : UserId) (store : Store) : Prop :=
  (∃ user, store.users userId = some user ∧ user.wins = 0 ∧ user.losses = 0 ∧
    user.winStreak = 0) ∧ store.achievements userId = []

section Histories

variable {powTen : ℚ → ℚ} {userId : UserId} {store : Store}

theorem winner_ne_loser {ending : Ending}
    (players : ending.state.player1Id ≠ ending.state.player2Id) :
    ending.winnerId ≠ ending.loserId := by
  rw [Ending.loserId, BattleState.loserId]
  split_ifs with isFirst
  · rwa [isFirst]
  · exact isFirst

theorem PlayedBattle.Succeeds.settled {battle : PlayedBattle} (succeeds : battle.Succeeds store) :
    Settled battle.ending.winnerId battle.ending.loserId store.records
      (battle.finish powTen store).records := by
  have ready : Ready battle.ending.winnerId battle.ending.loserId store.records :=
    ⟨winner_ne_loser succeeds.players, succeeds.winner, succeeds.loser⟩
  exact (endBattle_settles powTen ready).run_alone
    fun n cmd store _ => handle_unfailing cmd (succeeds.answers n) store

theorem Settled.row {winnerId loserId other : UserId} {before after : Records}
    (settled : Settled winnerId loserId before after) (present : before.users other ≠ none) :
    after.users other ≠ none := by
  rcases Option.ne_none_iff_exists'.mp present with ⟨user, row⟩
  by_cases isWinner : other = winnerId
  · subst isWinner
    rcases settled.winner user row with ⟨later, laterRow, _⟩
    simp [laterRow]
  · by_cases isLoser : other = loserId
    · subst isLoser
      rcases settled.loser user row with ⟨_, laterRow, _⟩
      simp [laterRow]
    · rwa [settled.rows other isWinner isLoser]

variable {battles : List PlayedBattle}

theorem tracks_finishAll {career : Career} (tracks : Tracks userId career store.records)
    (succeed : ∀ battle ∈ battles, battle.Succeeds store) :
    Tracks userId ((battles.map PlayedBattle.ending).foldl (Career.play userId) career)
      (finishAll powTen battles store).records := by
  induction battles generalizing career store with
  | nil => exact tracks
  | cons battle _ ih =>
    rw [List.forall_mem_cons] at succeed
    have settled := @PlayedBattle.Succeeds.settled powTen store battle succeed.1
    refine ih (tracks.settled (winner_ne_loser succeed.1.players) settled) ?_
    intro other present
    have before := succeed.2 other present
    exact ⟨before.answers, before.players, settled.row before.winner, settled.row before.loser⟩

theorem Unplayed.tracks (unplayed : Unplayed userId store) :
    Tracks userId Career.start store.records := by
  rcases unplayed with ⟨⟨user, row, wins, _, streak⟩, none⟩
  have held : store.records.achievements userId = [] := none
  refine ⟨⟨user, row, wins, streak⟩, ?_⟩
  rw [held]
  exact ⟨by simp, by simp [Career.start], by simp [Career.start], by simp [Career.start]⟩

theorem held_finishAll (unplayed : Unplayed userId store)
    (succeed : ∀ battle ∈ battles, battle.Succeeds store) :
    Held (careerOf userId (battles.map PlayedBattle.ending)).wins
      (careerOf userId (battles.map PlayedBattle.ending)).best
      ((finishAll powTen battles store).achievements userId) :=
  (tracks_finishAll unplayed.tracks succeed).achievements

theorem best_le_wins (userId : UserId) (endings : List Ending) :
    (careerOf userId endings).best ≤ (careerOf userId endings).wins := by
  have bounded (career : Career) (streak : career.streak ≤ career.wins)
      (best : career.best ≤ career.wins) :
      (endings.foldl (Career.play userId) career).best ≤
        (endings.foldl (Career.play userId) career).wins := by
    induction endings generalizing career with
    | nil => exact best
    | cons _ _ ih =>
      rw [List.foldl_cons, Career.play]
      split_ifs
      · exact ih _ (Nat.succ_le_succ streak) (by simp only; omega)
      · exact ih _ (Nat.zero_le _) best
      · exact ih _ streak best
  exact bounded Career.start le_rfl le_rfl

theorem careerOf_wins (userId : UserId) (endings : List Ending) :
    (careerOf userId endings).wins = endings.countP (·.winnerId = userId) := by
  have counted (career : Career) : (endings.foldl (Career.play userId) career).wins =
      career.wins + endings.countP (·.winnerId = userId) := by
    induction endings generalizing career with
    | nil => rfl
    | cons ending _ ih =>
      have played : (career.play userId ending).wins =
          career.wins + if ending.winnerId = userId then 1 else 0 := by
        rw [Career.play]
        split_ifs <;> rfl
      rw [List.foldl_cons, ih, played, List.countP_cons, add_assoc, add_comm (ite _ _ _)]
      simp only [decide_eq_true_eq]
  rw [careerOf, counted]
  exact Nat.zero_add _

/-- The descriptions of the achievements are kept to, battle by battle, exactly if the user wins
none of the battles. -/
theorem achievements_documented_iff {battles : List PlayedBattle}
    (unplayed : Unplayed userId store) (succeed : ∀ battle ∈ battles, battle.Succeeds store) :
    (∀ played, played <+: battles →
      Documented (careerOf userId (played.map PlayedBattle.ending))
        ((finishAll powTen played store).achievements userId)) ↔
      ∀ battle ∈ battles, battle.ending.winnerId ≠ userId := by
  constructor
  · intro documented battle present isWinner
    have held := @held_finishAll powTen userId store battles unplayed succeed
    refine held.firstBlood ((documented battles List.prefix_rfl).firstBlood.mpr ?_)
    rw [careerOf_wins]
    refine List.countP_pos_iff.mpr ⟨battle.ending, List.mem_map_of_mem present, ?_⟩
    exact decide_eq_true isWinner
  · intro noWin played within
    have held := @held_finishAll powTen userId store played unplayed
      fun battle present => succeed battle (within.subset present)
    have wins : (careerOf userId (played.map PlayedBattle.ending)).wins = 0 := by
      rw [careerOf_wins, List.countP_eq_zero]
      intro _ present
      rcases List.mem_map.mp present with ⟨battle, among, rfl⟩
      simpa using noWin battle (within.subset among)
    have best : (careerOf userId (played.map PlayedBattle.ending)).best = 0 :=
      Nat.le_zero.mp (wins ▸ best_le_wins userId _)
    refine ⟨?_, ?_, ?_, ?_⟩
    · simp [held.firstBlood, wins]
    · simp [held.veteran, wins]
    · simp [held.champion, wins]
    · simp [held.comebackKid, best]

end Histories

def victory : PlayedBattle := ⟨⟨"r", activeBattle 500 0, none⟩, fun _ => default⟩

def newcomers : Store := (freshServer newcomer).store

theorem newcomers_unplayed (userId : UserId) : Unplayed userId newcomers :=
  ⟨⟨_, rfl, rfl, rfl, rfl⟩, rfl⟩

theorem victory_succeeds : victory.Succeeds newcomers :=
  ⟨fun _ => rfl, by decide, by decide, by decide⟩

theorem victories_succeed (count : ℕ) :
    ∀ battle ∈ List.replicate count victory, battle.Succeeds newcomers := by
  intro _ present
  rw [List.eq_of_mem_replicate present]
  exact victory_succeeds

theorem defeats_documented :
    Documented (careerOf "b" ((List.replicate 3 victory).map PlayedBattle.ending))
      ((finishAll (fun _ => 1) (List.replicate 3 victory) newcomers).achievements "b") := by
  refine (achievements_documented_iff (newcomers_unplayed "b") (victories_succeed 3)).mpr ?_ _
    List.prefix_rfl
  intro _ present
  rw [List.eq_of_mem_replicate present]
  decide

/-- One win, five wins in a row, nine wins and twenty-four wins. -/
theorem victories_undocumented :
    "first-blood" ∉ (finishAll (fun _ => 1) [victory] newcomers).achievements "a" ∧
    "comeback-kid" ∉
      (finishAll (fun _ => 1) (List.replicate 5 victory) newcomers).achievements "a" ∧
    "veteran" ∈ (finishAll (fun _ => 1) (List.replicate 9 victory) newcomers).achievements "a" ∧
    "champion" ∈
      (finishAll (fun _ => 1) (List.replicate 24 victory) newcomers).achievements "a" := by
  have held (count : ℕ) := @held_finishAll (fun _ => 1) "a" newcomers
    (List.replicate count victory) (newcomers_unplayed "a") (victories_succeed count)
  refine ⟨(held 1).firstBlood, ?_, ?_, ?_⟩
  · rw [(held 5).comebackKid]
    decide
  · rw [(held 9).veteran]
    decide
  · rw [(held 24).champion]
    decide

end CodeClash.Battle
