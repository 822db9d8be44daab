import CodeClash.Api.Handlers

/-!
# How an API battle is settled

A call that has completed a match owns it. It owes two changes, first that of the winner and then
that of the loser, and gives the match up when it has made them or a command fails. Each handler but
the forfeit passes a player of the match to `endBattle`.
-/

namespace CodeClash.Api.Events

open Async
open Judge (Side)

abbrev Seats := RoomId → Option (Side → UserId)

def Plays (seats : Seats) (roomId : RoomId) (userId : UserId) : Prop :=
  ∀ players, seats roomId = some players → ∃ side, players side = userId

/-- What a call owes that has completed a match: the changes of both players, or of the loser
after the winner has gained. -/
inductive Stage where
  | owesWinner (winner : Side)
  | owesLoser (winner : Side) (gain : ℤ)

def Stage.Due (players : Side → UserId) (change : Change) : Stage → Prop
  | .owesWinner winner =>
    change.userId = players winner ∧ 0 ≤ change.rankIncrement ∧ change.xpIncrement = 100
  | .owesLoser winner gain => change = ⟨players winner.other, -gain, 0⟩

def Stage.next (rankIncrement : ℤ) : Stage → Option Stage
  | .owesWinner winner => some (.owesLoser winner rankIncrement)
  | .owesLoser _ _ => none

/-- The side of the winner, where everyone but the first player is taken for the second. -/
def winnerSide (seated : Option (Side → UserId)) (winnerId : UserId) : Side :=
  if seated.map (fun players => players .player1) = some winnerId then .player1 else .player2

def allowsCmd (seats : Seats) (phase : Option (RoomId × Stage)) : Cmd → Prop
  | .battle roomId (.completeMatch matchId result) =>
    matchId = roomId ∧ phase = none ∧
      ∃ players side, seats roomId = some players ∧ players side = result.winnerId
  | .battle roomId (.updateUser userId rankIncrement xpIncrement) =>
    ∃ players stage, seats roomId = some players ∧ phase = some (roomId, stage) ∧
      stage.Due players ⟨userId, rankIncrement, xpIncrement⟩
  | .startGrace roomId _ userId => Plays seats roomId userId
  | _ => True

def expectsReply (seats : Seats) : (cmd : Cmd) → cmd.Reply → Prop
  | .battle _ (.findMatch roomId), .ok (some details) => seats roomId = some details.battle.player
  | .findActiveBattles userId, .ok battles => ∀ entry ∈ battles, Plays seats entry.1 userId
  | _, _ => True

def afterReply (seats : Seats) (phase : Option (RoomId × Stage)) :
    (cmd : Cmd) → cmd.Reply → Option (RoomId × Stage)
  | .battle roomId (.completeMatch _ result), .ok _ =>
    some (roomId, .owesWinner (winnerSide (seats roomId) result.winnerId))
  | .battle _ (.updateUser _ rankIncrement _), .ok _ =>
    phase.bind fun owned => (owned.2.next rankIncrement).map fun stage => (owned.1, stage)
  | .battle _ (.updateUser _ _ _), .error _ => none
  | _, _ => phase

/-- A call owns the match that it has completed until it has made both changes or failed. -/
def settling (seats : Seats) : Protocol signature (Option (RoomId × Stage)) where
  allows := allowsCmd seats
  expects _ := expectsReply seats
  after := afterReply seats

def Cmd.Neutral : Cmd → Prop
  | .setHp _ _ _ => True
  | cmd => cmd.Plain

section Protocol

variable {seats : Seats} {phase : Option (RoomId × Stage)} {cmd : Cmd}

theorem Cmd.Plain.neutral (plain : cmd.Plain) : cmd.Neutral := by
  cases cmd with
  | setHp => trivial
  | _ => exact plain

theorem Cmd.Neutral.allowed (neutral : cmd.Neutral) : allowsCmd seats phase cmd := by
  cases cmd with
  | battle _ cmd =>
    cases cmd with
    | completeMatch => exact neutral.elim
    | updateUser => exact neutral.elim
    | _ => trivial
  | startGrace => exact neutral.elim
  | _ => trivial

theorem Cmd.Neutral.after_eq (neutral : cmd.Neutral) (reply : cmd.Reply) :
    afterReply seats phase cmd reply = phase := by
  cases cmd with
  | battle _ cmd =>
    cases cmd with
    | completeMatch => exact neutral.elim
    | updateUser => exact neutral.elim
    | _ => rfl
  | _ => rfl

end Protocol

section Handlers

open Throwing

variable {seats : Seats} {roomId : RoomId} {userId winnerId loserId : UserId} {powTen : ℚ → ℚ}
  {α : Type}

abbrev Settles (seats : Seats) (Result : α → Prop) (program : Prog α) : Prop :=
  Returns (settling seats) none Result program

theorem settles_of_uses {program : Prog α} (uses : program.run.Uses Cmd.Neutral) :
    Settles seats (fun _ => True) program :=
  returns_of_uses (fun _ neutral => neutral.allowed) (fun _ neutral => neutral.after_eq) uses

theorem perform_settles {cmd : Cmd} (neutral : cmd.Neutral) :
    Settles seats (fun _ => True) (perform cmd) :=
  settles_of_uses (uses_ask (Program.uses_perform neutral))

theorem findBattle_settles : Settles seats
    (fun found => ∀ battle, found = some battle → seats roomId = some battle.player)
    (findBattle roomId) := by
  refine ⟨trivial, fun reply expected => ?_⟩
  cases reply with
  | error => exact ⟨rfl, by rintro _ ⟨⟩⟩
  | ok found =>
    refine ⟨rfl, ?_⟩
    rintro _ ⟨⟩ _ isFound
    cases found with
    | none => cases isFound
    | some =>
      cases isFound
      exact expected

theorem findActiveBattles_settles :
    Settles seats (fun battles => ∀ entry ∈ battles, Plays seats entry.1 userId)
      (findActiveBattles userId) := by
  refine ⟨trivial, fun reply expected => ?_⟩
  cases reply with
  | error => exact ⟨rfl, by rintro _ ⟨⟩⟩
  | ok =>
    refine ⟨rfl, ?_⟩
    rintro _ ⟨⟩
    exact expected

variable {reason : EndReason}

variable {players : Side → UserId}

theorem settleUsers_settles {winner : Side}
    {eloChange : EloChange} (seated : seats roomId = some players)
    (isWinner : players winner = winnerId) (isLoser : players winner.other = loserId)
    (gains : 0 ≤ eloChange.winner) (loses : eloChange.loser = -eloChange.winner) :
    (within roomId (settleUsers roomId winnerId loserId reason eloChange)).Obeys (settling seats)
      (fun reached _ => reached = none) (some (roomId, .owesWinner winner)) := by
  refine ⟨⟨players, _, seated, rfl, isWinner.symm, gains, rfl⟩, fun updated _ => ?_⟩
  cases updated with
  | error => rfl
  | ok =>
    refine ⟨⟨players, _, seated, rfl, ?_⟩, fun updated _ => ?_⟩
    · rw [Stage.Due, isLoser, loses]
    · cases updated with
      | error => rfl
      | ok => exact ⟨trivial, fun _ _ => ⟨trivial, fun _ _ => rfl⟩⟩

theorem winnerSide_players (seated : seats roomId = some players)
    {side : Side} (isLoser : players side = loserId)
    (isWinner : (if players .player1 = loserId then players .player2 else players .player1) =
      winnerId) :
    players (winnerSide (seats roomId) winnerId) = winnerId ∧
      players (winnerSide (seats roomId) winnerId).other = loserId := by
  subst isWinner
  rw [winnerSide, seated, Option.map_some]
  by_cases first : players .player1 = loserId
  · rw [if_pos first]
    by_cases same : players .player1 = players .player2
    · rw [if_pos (congrArg some same)]
      exact ⟨same, same.symm.trans first⟩
    · rw [if_neg fun equal => same (Option.some.inj equal)]
      exact ⟨rfl, first⟩
  · rw [if_neg first, if_pos rfl]
    refine ⟨rfl, ?_⟩
    cases side with
    | player1 => exact absurd isLoser first
    | player2 => exact isLoser

theorem recordEnd_settles {details : MatchDetails}
    (seated : seats roomId = some details.battle.player) (plays : Plays seats roomId loserId) :
    (within roomId (recordEnd powTen roomId loserId reason details)).Obeys (settling seats)
      (fun reached _ => reached = none) none := by
  rcases plays _ seated with ⟨_, isLoser⟩
  rcases winnerSide_players seated isLoser rfl with ⟨winner, loser⟩
  refine ⟨trivial, fun _ _ => ⟨trivial, fun _ _ => ⟨trivial, fun _ _ => ⟨?_, ?_⟩⟩⟩⟩
  · exact ⟨rfl, rfl, _, _, seated, winner⟩
  · intro completed _
    cases completed with
    | error => rfl
    | ok => exact settleUsers_settles seated winner loser (abs_nonneg _) rfl

theorem endBattle_obeys (plays : Plays seats roomId loserId) :
    (within roomId (Api.endBattle powTen roomId loserId reason)).Obeys (settling seats)
      (fun reached _ => reached = none) none := by
  refine ⟨trivial, fun _ _ => ⟨trivial, fun found expected => ?_⟩⟩
  cases found with
  | error => rfl
  | ok found =>
    cases found with
    | none => rfl
    | some => exact recordEnd_settles expected plays

theorem ofBattle_settles {program : Api.Prog Unit}
    (obeys : (within roomId program).Obeys (settling seats) (fun reached _ => reached = none)
      none) : Settles seats (fun _ => True) (ofBattle roomId program) := by
  refine Program.obeys_bind.mpr (obeys.mono ?_)
  rintro _ _ rfl
  exact ⟨rfl, fun _ _ => trivial⟩

theorem endBattle_settles (plays : Plays seats roomId loserId) :
    Settles seats (fun _ => True) (endBattle powTen roomId loserId reason) :=
  ofBattle_settles (endBattle_obeys plays)

theorem plays_player {battle : Match} (seated : seats roomId = some battle.player) (side : Side) :
    Plays seats roomId (battle.player side) := by
  intro _ isSeated
  rw [seated, Option.some.injEq] at isSeated
  exact ⟨side, by rw [← isSeated]⟩

theorem timeOut_obeys :
    (within roomId (timeOut powTen roomId)).Obeys (settling seats) (fun reached _ => reached = none)
      none := by
  refine ⟨trivial, fun _ _ => ⟨trivial, fun data _ => ?_⟩⟩
  cases data with
  | none => rfl
  | some =>
    refine ⟨trivial, fun found expected => ?_⟩
    cases found with
    | error => rfl
    | ok found =>
      cases found with
      | none => rfl
      | some => exact endBattle_obeys (plays_player expected _)

theorem timerTick_settles (timeBefore : ℤ) :
    Settles seats (fun _ => True) (ofBattle roomId (timerTick powTen roomId timeBefore)) := by
  have elapsed : (within roomId (if timeBefore - 1 ≤ 0 then timeOut powTen roomId
      else return ())).Obeys (settling seats) (fun reached _ => reached = none) none := by
    split
    · exact timeOut_obeys
    · rfl
  apply ofBattle_settles
  by_cases warns : timeBefore - 1 = 60
  · simp only [timerTick, if_pos warns]
    exact ⟨trivial, fun _ _ => ⟨trivial, fun _ _ => elapsed⟩⟩
  · simp only [timerTick, if_neg warns]
    exact ⟨trivial, fun _ _ => elapsed⟩

theorem settling_covers :
    Covers powTen (settling seats) none (Plays seats) fun _ _ => True where
  allows _ plain := plain.neutral.allowed
  stays _ plain := plain.neutral.after_eq
  found _ := findBattle_settles.mono fun _ _ ends =>
    ⟨ends.1, fun found isFound battle isBattle =>
      plays_player (ends.2 found isFound battle isBattle)⟩
  active _ := findActiveBattles_settles
  startsGrace _ _ _ plays := ⟨plays, fun _ _ => ⟨rfl, fun _ _ => trivial⟩⟩
  ends _ _ _ := endBattle_settles
  ticks _ := timerTick_settles
  reads _ _ := returns_bind (perform_settles trivial) fun _ _ => returns_pure trivial
  heals _ _ _ _ := perform_settles trivial
  hits _ _ _ _ := perform_settles trivial

end Handlers

end CodeClash.Api.Events
