import CodeClash.Api.Battle

/-!
# Battles that end by timeout

The timer takes the player with more hit points for the winner, and passes this player to
`endBattle`, whose parameter is the loser. Only when `parseInt` does not see which player has more
can the two mistakes cancel.
-/

namespace CodeClash.Api

open Async Function
open Judge (Side parsePrinted)

def Hash.higher (hash : Hash) : Side :=
  if hash.hp .player2 < hash.hp .player1 then .player1 else .player2

def Hash.readHigher (hash : Hash) : Side :=
  if parsePrinted (hash.hp .player2) < parsePrinted (hash.hp .player1) then .player1
  else .player2

/-- Reading the hit points with `parseInt` changes the outcome of their comparison. -/
def Hash.Misread (hash : Hash) : Prop :=
  ¬(hash.hp .player2 < hash.hp .player1 ↔
    parsePrinted (hash.hp .player2) < parsePrinted (hash.hp .player1))

theorem Hash.readHigher_eq_iff (hash : Hash) : hash.readHigher = hash.higher ↔ ¬hash.Misread := by
  unfold readHigher higher Misread
  by_cases read : parsePrinted (hash.hp .player2) < parsePrinted (hash.hp .player1) <;>
    by_cases higher : hash.hp .player2 < hash.hp .player1 <;>
      simp only [read, higher, if_true, if_false] <;> decide

/-- The match is recorded for the player of the given side, whose rank does not fall, and the
rank of the other player does not rise. -/
structure AwardedTo (side : Side) (roomId : RoomId) (battle : Match) (before after : Store) :
    Prop where
  completed : (after.battles roomId).map Match.status = some .completed
  winner : (after.battles roomId).bind Match.winnerId = some (battle.player side)
  winnerRank : (before.users (battle.player side)).rank ≤ (after.users (battle.player side)).rank
  loserRank : (after.users (battle.player side.other)).rank ≤
    (before.users (battle.player side.other)).rank

/-- The database answers both lookups and the update of the match. -/
def Answered (choices : ℕ → Choice) : Prop :=
  (choices 3).fails = false ∧ (choices 5).fails = false ∧ (choices 9).fails = false

def afterTick (powTen : ℚ → ℚ) (roomId : RoomId) (timeBefore : ℤ) (choices : ℕ → Choice)
    (store : Store) : Store :=
  ((timerTick powTen roomId timeBefore).run handle (fun _ store => store) choices store).2

section Ranks

variable {roomId : RoomId} {winnerId loserId : UserId} {powTen : ℚ → ℚ}

/-- The command does not lower the rank of the winner, raise that of the loser or write a
match. -/
def Cmd.Favours (winnerId loserId : UserId) : Cmd → Prop
  | .updateUser userId rankIncrement _ =>
    userId = winnerId ∧ 0 ≤ rankIncrement ∨ userId = loserId ∧ rankIncrement ≤ 0
  | .completeMatch _ _ => False
  | _ => True

structure Favoured (winnerId loserId : UserId) (before after : Store) : Prop where
  battles : after.battles = before.battles
  winnerRank : (before.users winnerId).rank ≤ (after.users winnerId).rank
  loserRank : (after.users loserId).rank ≤ (before.users loserId).rank

theorem Favoured.handle {before store : Store} (distinct : winnerId ≠ loserId) {cmd : Cmd}
    (favours : cmd.Favours winnerId loserId) (choice : Choice)
    (favoured : Favoured winnerId loserId before store) :
    Favoured winnerId loserId before (handle cmd choice store).2 := by
  rcases favoured with ⟨battles, winnerRank, loserRank⟩
  cases cmd with
  | updateUser =>
    rw [Api.handle]
    split
    · exact ⟨battles, winnerRank, loserRank⟩
    · rcases favours with ⟨rfl, _⟩ | ⟨rfl, _⟩
      · refine ⟨battles, ?_, ?_⟩
        · simp only [update_self]
          omega
        · simpa only [update_of_ne (Ne.symm distinct)] using loserRank
      · refine ⟨battles, ?_, ?_⟩
        · simpa only [update_of_ne distinct] using winnerRank
        · simp only [update_self]
          omega
  | completeMatch => exact favours.elim
  | _ => exact ⟨battles, winnerRank, loserRank⟩

variable {reason : EndReason} {eloChange : EloChange}

theorem settleUsers_favours (winner : 0 ≤ eloChange.winner) (loser : eloChange.loser ≤ 0) :
    (settleUsers roomId winnerId loserId reason eloChange).Uses
      (Cmd.Favours winnerId loserId) := by
  refine Program.uses_perform_bind (.inl ⟨rfl, winner⟩) fun updated => ?_
  cases updated with
  | error => trivial
  | ok =>
    refine Program.uses_perform_bind (.inr ⟨rfl, loser⟩) fun updated => ?_
    cases updated with
    | error => trivial
    | ok =>
      exact Program.uses_perform_bind (by exact trivial) fun _ =>
        Program.uses_perform (by exact trivial)

theorem settleUsers_favoured (distinct : winnerId ≠ loserId)
    (winner : 0 ≤ eloChange.winner) (loser : eloChange.loser ≤ 0)
    (choices : ℕ → Choice) (store : Store) :
    Favoured winnerId loserId store
      ((settleUsers roomId winnerId loserId reason eloChange).run handle (fun _ store => store)
        choices store).2 :=
  (settleUsers_favours winner loser).run_invariant (Favoured winnerId loserId store)
    (fun _ _ favoured => favoured)
    (fun _ favours choice _ favoured => favoured.handle distinct favours choice)
    ⟨rfl, le_rfl, le_rfl⟩

theorem calculateEloChange_signs (winnerElo loserElo : ℤ) (winnerActual : Bool) :
    0 ≤ (calculateEloChange powTen winnerElo loserElo winnerActual).winner ∧
      (calculateEloChange powTen winnerElo loserElo winnerActual).loser ≤ 0 :=
  ⟨abs_nonneg _, neg_nonpos.mpr (abs_nonneg _)⟩

end Ranks

section Ends

variable {powTen : ℚ → ℚ} {roomId : RoomId} {store : Store} {battle : Match}

/-- What the end of a battle does, with the player of `side` as its loser. -/
def EndedAgainst (side : Side) (roomId : RoomId) (battle : Match) (before after : Store)
    (answered : Prop) : Prop :=
  (answered → AwardedTo side.other roomId battle before after) ∧
    (¬answered → after.battles = before.battles ∧ after.users = before.users)

variable {side : Side} {after : Store}

theorem EndedAgainst.of_eq {cleared : Store} {answered : Prop}
    (ended : EndedAgainst side roomId battle cleared after answered)
    (battles : cleared.battles = store.battles) (users : cleared.users = store.users) :
    EndedAgainst side roomId battle store after answered := by
  refine ⟨fun holds => ?_, fun fails => ?_⟩
  · rcases ended.1 holds with ⟨completed, winner, winnerRank, loserRank⟩
    rw [users] at winnerRank loserRank
    exact ⟨completed, winner, winnerRank, loserRank⟩
  · rw [← battles, ← users]
    exact ended.2 fails

theorem Favoured.awarded {result : MatchResult} {recorded : Store}
    (favoured : Favoured (battle.player side.other) (battle.player side) recorded after)
    (battles : recorded.battles =
      update store.battles roomId (some (battle.complete result)))
    (users : recorded.users = store.users) (winner : result.winnerId = battle.player side.other) :
    AwardedTo side.other roomId battle store after := by
  rcases favoured with ⟨kept, winnerRank, loserRank⟩
  have row : after.battles roomId = some (battle.complete result) := by
    rw [kept, battles, update_self]
  rw [users] at winnerRank loserRank
  refine ⟨by rw [row]; rfl, ?_, winnerRank, ?_⟩
  · rw [row, ← winner]
    rfl
  · rw [Side.other_other]
    exact loserRank

theorem recordEnd_ended (details : MatchDetails)
    (found : store.battles roomId = some details.battle)
    (distinct : details.battle.player1Id ≠ details.battle.player2Id) (side : Side)
    (reason : EndReason) (choices : ℕ → Choice) :
    EndedAgainst side roomId details.battle store
      ((recordEnd powTen roomId (details.battle.player side) reason details).run handle
        (fun _ store => store) choices store).2 ((choices 3).fails = false) := by
  have winnerId : (if details.battle.player1Id = details.battle.player side
      then details.battle.player2Id else details.battle.player1Id)
        = details.battle.player side.other := by
    cases side <;> simp [Match.player, Side.other, distinct]
  have players : details.battle.player side.other ≠ details.battle.player side := by
    cases side
    · exact Ne.symm distinct
    · exact distinct
  simp only [recordEnd, winnerId, Program.perform_eq_issue, Program.issue_bind,
    Program.done_bind, Program.run, handle, found]
  cases (choices 3).fails with
  | true =>
    refine ⟨fun answered => ?_, fun _ => ⟨rfl, rfl⟩⟩
    cases answered
  | false =>
    refine ⟨fun _ => ?_, fun unanswered => absurd rfl unanswered⟩
    exact (settleUsers_favoured players (calculateEloChange_signs _ _ _).1
      (calculateEloChange_signs _ _ _).2 _ _).awarded rfl rfl rfl

theorem endBattle_ended (found : store.battles roomId = some battle)
    (distinct : battle.player1Id ≠ battle.player2Id) (side : Side) (reason : EndReason)
    (choices : ℕ → Choice) :
    EndedAgainst side roomId battle store
      ((endBattle powTen roomId (battle.player side) reason).run handle (fun _ store => store)
        choices store).2 ((choices 1).fails = false ∧ (choices 5).fails = false) := by
  let cleared : Store := { store with timers := update store.timers roomId false }
  simp only [endBattle, Program.perform_eq_issue, Program.issue_bind, Program.done_bind,
    Program.run, handle, found, answer]
  cases (choices 1).fails with
  | true =>
    refine ⟨fun answered => ?_, fun _ => ⟨rfl, rfl⟩⟩
    cases answered.1
  | false =>
    simp only [true_and]
    exact (@recordEnd_ended powTen roomId cleared (cleared.details battle) found distinct side
      reason fun n => choices (n + 1 + 1)).of_eq rfl rfl

variable {hash : Hash}

theorem timeOut_ended (kept : store.hashes roomId = some hash)
    (found : store.battles roomId = some battle) (distinct : battle.player1Id ≠ battle.player2Id)
    (choices : ℕ → Choice) :
    EndedAgainst hash.readHigher roomId battle store
      ((timeOut powTen roomId).run handle (fun _ store => store) choices store).2
      ((choices 2).fails = false ∧ (choices 4).fails = false ∧ (choices 8).fails = false) := by
  let cleared : Store := { store with timers := update store.timers roomId false }
  simp only [timeOut, getBattleState, Program.perform_eq_issue, Program.issue_bind,
    Program.pure_eq_done, Program.done_bind, Option.map_some, Program.run, handle, kept, found,
    answer]
  cases (choices 2).fails with
  | true =>
    refine ⟨fun answered => ?_, fun _ => ⟨rfl, rfl⟩⟩
    cases answered.1
  | false =>
    simp only [true_and]
    exact (@endBattle_ended powTen roomId cleared battle found distinct hash.readHigher .timeout
      fun n => choices (n + 1 + 1 + 1)).of_eq rfl rfl

theorem afterTick_ended {timeBefore : ℤ} (last : timeBefore ≤ 1)
    (kept : store.hashes roomId = some hash) (found : store.battles roomId = some battle)
    (distinct : battle.player1Id ≠ battle.player2Id) (choices : ℕ → Choice) :
    EndedAgainst hash.readHigher roomId battle store
      (afterTick powTen roomId timeBefore choices store) (Answered choices) := by
  have noWarning : timeBefore - 1 ≠ 60 := by omega
  have timedOut : timeBefore - 1 ≤ 0 := by omega
  simp only [afterTick, timerTick, Program.perform_eq_issue, Program.issue_bind,
    Program.pure_eq_done, Program.done_bind, Program.run, handle, noWarning, timedOut, if_true,
    if_false]
  exact timeOut_ended kept found distinct _

theorem not_awardedTo_other (distinct : battle.player1Id ≠ battle.player2Id)
    (awarded : AwardedTo side.other roomId battle store after) :
    ¬AwardedTo side roomId battle store after := by
  intro awardedAgain
  have samePlayer := Option.some.inj (awarded.winner.symm.trans awardedAgain.winner)
  cases side
  · exact distinct samePlayer.symm
  · exact distinct samePlayer

theorem awardedTo_unchanged_iff (found : store.battles roomId = some battle)
    (battles : after.battles = store.battles) (users : after.users = store.users) :
    AwardedTo side roomId battle store after ↔
      battle.status = .completed ∧ battle.winnerId = some (battle.player side) := by
  refine ⟨fun awarded => ?_, fun ended => ⟨?_, ?_, ?_, ?_⟩⟩
  · have completed := awarded.completed
    have winner := awarded.winner
    rw [battles, found] at completed winner
    exact ⟨Option.some.inj completed, winner⟩
  · rw [battles, found, Option.map_some, ended.1]
  · rw [battles, found, Option.bind_some, ended.2]
  · rw [users]
  · rw [users]

/-- The player with more hit points is recorded as the winner, except if reading them hides who that
is, or the database fails and the match was recorded before. -/
theorem timeout_awards_higher_iff (powTen : ℚ → ℚ) {roomId : RoomId} {store : Store}
    {hash : Hash} {battle : Match} {timeBefore : ℤ} (last : timeBefore ≤ 1)
    (kept : store.hashes roomId = some hash) (found : store.battles roomId = some battle)
    (distinct : battle.player1Id ≠ battle.player2Id) (choices : ℕ → Choice) :
    AwardedTo hash.higher roomId battle store
        (afterTick powTen roomId timeBefore choices store) ↔
      Answered choices ∧ hash.Misread ∨
        ¬Answered choices ∧ battle.status = .completed ∧
          battle.winnerId = some (battle.player hash.higher) := by
  rcases @afterTick_ended powTen roomId store battle hash timeBefore last kept found distinct
    choices with ⟨recorded, untouched⟩
  by_cases answered : Answered choices
  · have awarded := recorded answered
    simp only [answered, true_and, not_true, false_and, or_false]
    by_cases misread : hash.Misread
    · have swapped : hash.readHigher.other = hash.higher := by
        have different := mt hash.readHigher_eq_iff.mp (not_not.mpr misread)
        exact Side.other_eq_of_ne different
      rw [swapped] at awarded
      exact iff_of_true awarded misread
    · rw [hash.readHigher_eq_iff.mpr misread] at awarded
      exact iff_of_false (not_awardedTo_other distinct awarded) misread
  · rcases untouched answered with ⟨battles, users⟩
    simp only [answered, false_and, not_false_eq_true, true_and, false_or]
    exact awardedTo_unchanged_iff found battles users

end Ends

def sampleBattle : Match := ⟨"ann", "bob", .active, none, none, 100, 100⟩

def sampleStore (player1Hp player2Hp : ℚ) : Store where
  hashes _ := some ⟨some player1Hp, some player2Hp⟩
  battles _ := some sampleBattle
  users _ := ⟨1000, 0⟩
  timers _ := true

def sampleTick (player1Hp player2Hp : ℚ) : Store :=
  afterTick (fun _ => 1) "room" 1 (fun _ => ⟨0, false⟩) (sampleStore player1Hp player2Hp)

/-- The first player leads by sixty hit points and loses the match. -/
theorem leader_loses_match :
    (⟨some 100, some 40⟩ : Hash).higher = .player1 ∧
      ((sampleTick 100 40).battles "room").bind Match.winnerId = some "bob" ∧
      ((sampleTick 100 40).users "ann").rank = 984 ∧
      ((sampleTick 100 40).users "bob").rank = 1016 ∧
      ¬AwardedTo .player1 "room" sampleBattle (sampleStore 100 40) (sampleTick 100 40) := by
  refine ⟨by decide +kernel, by decide +kernel, by decide +kernel, by decide +kernel, ?_⟩
  intro awarded
  exact absurd awarded.winner (by decide +kernel)

theorem unseen_leader_wins_match :
    (⟨some (81 / 2), some 40⟩ : Hash).Misread ∧
      AwardedTo .player1 "room" sampleBattle (sampleStore (81 / 2) 40)
        (sampleTick (81 / 2) 40) := by
  have misread : (⟨some (81 / 2), some 40⟩ : Hash).Misread := by
    unfold Hash.Misread
    decide +kernel
  have higher : (⟨some (81 / 2), some 40⟩ : Hash).higher = .player1 := by decide +kernel
  refine ⟨misread, ?_⟩
  rw [← higher]
  exact (timeout_awards_higher_iff _ le_rfl rfl rfl (by decide) _).mpr
    (.inl ⟨⟨rfl, rfl, rfl⟩, misread⟩)

end CodeClash.Api
