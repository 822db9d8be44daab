import CodeClash.Session.Sockets

/-!
# What becomes of disconnected players

A player who disconnects in an ACTIVE battle leaves a grace record. The battle is to be forfeited by
the first `check:reconnection` for the player or by the clean-up at the start, once the record is 30
seconds old. Redis drops the record after 30 seconds, though.
-/

namespace CodeClash.Session

open Async Server
open Battle (UserId RoomId BattleState Grace EndsFor SameRoom)

section Alone

variable {verifyToken : ℤ → String → Option JWTPayload} {choices : ℕ → Choice} {store : Store}
  {α β : Type}

def runAlone (verifyToken : ℤ → String → Option JWTPayload) (choices : ℕ → Choice)
    (program : Prog α) (store : Store) : Store :=
  (program.run (handle verifyToken) (fun _ store => store) choices store).2

theorem runAlone_request (cmd : Cmd) (next : cmd.Reply → Prog β) :
    runAlone verifyToken choices (request cmd >>= next) store =
      runAlone verifyToken (fun n => choices (n + 1)) (next (handle verifyToken cmd (choices 0)
        store).1) (handle verifyToken cmd (choices 0) store).2 := rfl

theorem runAlone_bind (program : Prog α) (next : α → Prog β) :
    ∃ used value, runAlone verifyToken choices (program >>= next) store =
      runAlone verifyToken (fun n => choices (n + used)) (next value)
        (runAlone verifyToken choices program store) := by
  rcases Program.run_bind (handle verifyToken) program next (fun _ store => store) choices store
    with ⟨used, split⟩
  exact ⟨used, _, congrArg Prod.snd split⟩

theorem runAlone_battleService (program : Battle.Prog α) :
    (runAlone verifyToken choices (battleService program) store).battle =
      (program.run Battle.handle (fun _ store => store) (fun n => (choices n).battle)
        store.battle).2 := by
  have embedded := @Program.run_embed Battle.signature signature α .battle (fun _ reply => reply)
    _ _ _ _ Battle.handle (handle verifyToken) Store.battle Choice.battle (fun _ _ _ => rfl)
    program choices store
  rw [embedded]
  rfl

end Alone

/-- An ACTIVE battle is stored, between two users of the database. -/
structure Underway (roomId : RoomId) (battle : BattleState) (store : Battle.Store) : Prop where
  stored : store.battles roomId = some battle
  active : battle.status = .active
  named1 : battle.player1Id ≠ ""
  named2 : battle.player2Id ≠ ""
  known1 : (store.users battle.player1Id).isSome = true
  known2 : (store.users battle.player2Id).isSome = true

/-- At a moment, the record is for the room and 30 seconds old. -/
def overdue (roomId : RoomId) (now : ℤ) (record : Option Grace) : Bool :=
  record.any fun grace => grace.battleId = roomId ∧ 30000 ≤ now - grace.disconnectedAt

def Outcome (roomId : RoomId) (battle : BattleState) (loser : Option UserId)
    (before after : Battle.Store) : Prop :=
  match loser with
  | some userId => EndsFor roomId (battle.opponentOf userId) before after
  | none => SameRoom roomId before after

section Forfeits

variable {verifyToken : ℤ → String → Option JWTPayload} {powTen : ℚ → ℚ} {choices : ℕ → Choice}
  {store : Store} {roomId battleId : RoomId} {battle : BattleState} {userId : UserId}
  {loser : Option UserId} {before between after : Battle.Store}

theorem Underway.opponent_ne (underway : Underway roomId battle before) (userId : UserId) :
    battle.opponentOf userId ≠ "" := by
  rw [BattleState.opponentOf]
  split
  · exact underway.named2
  · exact underway.named1

theorem Underway.not_sameRoom (underway : Underway roomId battle before)
    (same : SameRoom roomId before after) (winnerId : UserId) :
    ¬EndsFor roomId winnerId before after := by
  rintro ⟨⟨_, stored, ended⟩, _⟩
  rw [same.battle, underway.stored] at stored
  cases stored
  cases underway.active.symm.trans ended

theorem Outcome.of_sameRoom (same : SameRoom roomId before between)
    (outcome : Outcome roomId battle loser between after) :
    Outcome roomId battle loser before after := by
  cases loser with
  | none => exact same.trans outcome
  | some =>
    refine ⟨outcome.ended, outcome.announced.trans ?_⟩
    rw [same.winners]

theorem Outcome.endsFor_iff (underway : Underway roomId battle before)
    (outcome : Outcome roomId battle loser before after) (userId : UserId) :
    EndsFor roomId (battle.opponentOf userId) before after ↔
      ∃ user, loser = some user ∧ battle.opponentOf user = battle.opponentOf userId := by
  cases loser with
  | none => simpa using underway.not_sameRoom outcome _
  | some user =>
    constructor
    · intro ends
      have both := outcome.announced.symm.trans ends.announced
      exact ⟨user, rfl, (List.cons.inj both).1⟩
    · rintro ⟨_, ⟨⟩, same⟩
      exact same ▸ outcome

theorem timeout_outcome (underway : Underway roomId battle store.battle)
    (answers : ∀ n, (choices n).battle.fails = false) (userId : UserId) (battleId : RoomId) :
    Outcome roomId battle (if battleId = roomId then some userId else none) store.battle
      (runAlone verifyToken choices
        (battleService (Battle.handleGraceTimeout powTen userId battleId)) store).battle := by
  rw [runAlone_battleService]
  split
  next same =>
    subst battleId
    exact Battle.handleGraceTimeout_active underway.stored underway.active
      (underway.opponent_ne userId) underway.known1 underway.known2 answers
  next differs => exact Battle.handleGraceTimeout_elsewhere differs userId

theorem timeout_inactive
    (inactive : ∀ state, store.battle.battles roomId = some state → state.status ≠ .active)
    (userId : UserId) (battleId : RoomId) :
    SameRoom roomId store.battle (runAlone verifyToken choices
      (battleService (Battle.handleGraceTimeout powTen userId battleId)) store).battle := by
  rw [runAlone_battleService]
  by_cases same : battleId = roomId
  · subst battleId
    exact Battle.handleGraceTimeout_inactive inactive
  · exact Battle.handleGraceTimeout_elsewhere same userId

theorem Underway.after_timeout (underway : Underway roomId battle store.battle)
    (differs : battleId ≠ roomId) :
    Underway roomId battle (runAlone verifyToken choices
      (battleService (Battle.handleGraceTimeout powTen userId battleId)) store).battle := by
  rw [runAlone_battleService]
  have same := @Battle.handleGraceTimeout_elsewhere powTen roomId battleId
    (fun n => (choices n).battle) store.battle differs userId
  exact
    { underway with
      stored := same.battle.trans underway.stored
      known1 := Battle.run_users _ underway.known1
      known2 := Battle.run_users _ underway.known2 }

theorem timeout_graces (userId : UserId) (battleId : RoomId) :
    (runAlone verifyToken choices (battleService (Battle.handleGraceTimeout powTen userId
        battleId)) store).graces = store.graces ∨
      (runAlone verifyToken choices (battleService (Battle.handleGraceTimeout powTen userId
        battleId)) store).graces = store.graces.del userId := by
  have uses : (battleService (Battle.handleGraceTimeout powTen userId battleId)).Uses
      fun cmd : Cmd => ∃ inner : Battle.Cmd, cmd = .battle inner ∧
        inner.ForTimeout battleId userId :=
    (Battle.handleGraceTimeout_uses userId).embed fun cmd forTimeout => ⟨cmd, rfl, forTimeout⟩
  apply uses.run_invariant (fun current : Store => current.graces = store.graces ∨
    current.graces = store.graces.del userId) (fun _ _ kept => kept)
  · rintro _ ⟨inner, rfl, forTimeout⟩ _ _ kept
    cases inner with
    | delGrace user =>
      obtain rfl := forTimeout.deletes user rfl
      refine Or.inr ?_
      rcases kept with kept | kept <;> simp [handle, gracesAfter, kept, Keys.Expiring.del]
    | _ => exact kept
  · exact Or.inl rfl

theorem onCheckReconnection_outcome (socketId : SocketId)
    (underway : Underway roomId battle store.battle)
    (answers : ∀ n, (choices n).battle.fails = false) :
    Outcome roomId battle
      (if overdue roomId (choices 1).now (store.graces.get (choices 0).now userId) then some userId
        else none) store.battle
      (runAlone verifyToken choices (onCheckReconnection powTen socketId userId) store).battle := by
  rw [onCheckReconnection, runAlone_request]
  cases found : store.graces.get (choices 0).now userId with
  | none =>
    simp only [handle, found, overdue, Option.any_none, Bool.false_eq_true, if_false]
    exact ⟨rfl, rfl⟩
  | some grace =>
    simp only [handle, found]
    rw [runAlone_request]
    simp only [handle, overdue, Option.any_some, decide_eq_true_eq]
    by_cases fresh : (choices 1).now - grace.disconnectedAt < 30000
    · have notDue : ¬(grace.battleId = roomId ∧ 30000 ≤ (choices 1).now - grace.disconnectedAt) :=
        fun due => absurd due.2 (not_le.mpr fresh)
      simp only [Nat.zero_add, fresh, notDue, if_true, if_false]
      exact ⟨rfl, rfl⟩
    · have due : (grace.battleId = roomId ∧ 30000 ≤ (choices 1).now - grace.disconnectedAt) ↔
          grace.battleId = roomId := and_iff_left (not_lt.mp fresh)
      simp only [Nat.zero_add, fresh, due, if_false]
      rcases @runAlone_bind verifyToken (fun n => choices (n + 1 + 1)) store _ _
        (battleService (Battle.handleGraceTimeout powTen userId grace.battleId))
        (fun _ => request (.emit socketId (.reconnectionFailed "grace_period_expired"))) with
        ⟨_, _, split⟩
      rw [split]
      exact timeout_outcome underway (fun n => answers _) userId grace.battleId

def visited (verifyToken : ℤ → String → Option JWTPayload) (powTen : ℚ → ℚ) (choices : ℕ → Choice)
    (now : ℤ) (userId : UserId) (store : Store) : Store :=
  match store.graces.get (choices 0).now userId with
  | none => store
  | some grace =>
    if 30000 ≤ now - grace.disconnectedAt then
      runAlone verifyToken (fun n => choices (n + 1))
        (battleService (Battle.handleGraceTimeout powTen userId grace.battleId)) store
    else store

theorem cleanupGraceTimers_cons (now : ℤ) (userId : UserId) (users : List UserId) :
    ∃ used, runAlone verifyToken choices (cleanupGraceTimers powTen now (userId :: users)) store =
      runAlone verifyToken (fun n => choices (n + used + 1)) (cleanupGraceTimers powTen now users)
        (visited verifyToken powTen choices now userId store) := by
  rw [cleanupGraceTimers, runAlone_request, visited]
  cases found : store.graces.get (choices 0).now userId with
  | none =>
    refine ⟨0, ?_⟩
    simp only [handle, found, Nat.add_zero]
  | some grace =>
    simp only [handle, found]
    rcases @runAlone_bind verifyToken (fun n => choices (n + 1)) store _ _
      (if 30000 ≤ now - grace.disconnectedAt then
        battleService (Battle.handleGraceTimeout powTen userId grace.battleId)
      else return ()) (fun _ => cleanupGraceTimers powTen now users) with ⟨used, _, split⟩
    refine ⟨used, split.trans ?_⟩
    congr 1
    split <;> rfl

theorem cleanupGraceTimers_inactive (now : ℤ) (users : List UserId)
    (inactive : ∀ state, store.battle.battles roomId = some state → state.status ≠ .active) :
    SameRoom roomId store.battle
      (runAlone verifyToken choices (cleanupGraceTimers powTen now users) store).battle := by
  induction users generalizing store choices with
  | nil => exact ⟨rfl, rfl⟩
  | cons user users ih =>
    have same : SameRoom roomId store.battle
        (visited verifyToken powTen choices now user store).battle := by
      rw [visited]
      split
      · exact ⟨rfl, rfl⟩
      · split
        · exact timeout_inactive inactive _ _
        · exact ⟨rfl, rfl⟩
    rcases cleanupGraceTimers_cons now user users with ⟨_, step⟩
    rw [step]
    apply same.trans
    apply ih
    rw [same.battle]
    exact inactive

variable {now moment : ℤ}

variable {graces : Keys.Expiring UserId Grace}

theorem overdue_del
    (notDue : overdue roomId now (graces.get moment userId) = false) (user : UserId) :
    overdue roomId now ((graces.del userId).get moment user) =
      overdue roomId now (graces.get moment user) := by
  rw [Keys.Expiring.get_del]
  split
  next same =>
    subst user
    rw [notDue]
    rfl
  next => rfl

theorem overdue_after_timeout (user : UserId)
    (notDue : overdue roomId now (store.graces.get moment userId) = false) :
    overdue roomId now ((runAlone verifyToken choices (battleService
        (Battle.handleGraceTimeout powTen userId battleId)) store).graces.get moment user) =
      overdue roomId now (store.graces.get moment user) := by
  rcases @timeout_graces verifyToken powTen choices store userId battleId with kept | deleted
  · rw [kept]
  · rw [deleted]
    exact overdue_del notDue user

theorem steady_after_timeout
    (steady : ∀ user, store.graces.get now user = store.graces.get moment user) (user : UserId) :
    (runAlone verifyToken choices (battleService (Battle.handleGraceTimeout powTen userId
        battleId)) store).graces.get now user =
      (runAlone verifyToken choices (battleService (Battle.handleGraceTimeout powTen userId
        battleId)) store).graces.get moment user := by
  rcases @timeout_graces verifyToken powTen choices store userId battleId with kept | deleted
  · rw [kept]
    exact steady user
  · rw [deleted, Keys.Expiring.get_del, Keys.Expiring.get_del, steady user]

theorem cleanupGraceTimers_outcome (now moment : ℤ) (users : List UserId)
    (underway : Underway roomId battle store.battle)
    (answers : ∀ n, (choices n).battle.fails = false)
    (steady : ∀ n user, store.graces.get (choices n).now user = store.graces.get moment user) :
    Outcome roomId battle
      (users.find? fun user => overdue roomId now (store.graces.get moment user)) store.battle
      (runAlone verifyToken choices (cleanupGraceTimers powTen now users) store).battle := by
  induction users generalizing store choices with
  | nil => exact ⟨rfl, rfl⟩
  | cons user users ih =>
    rcases @cleanupGraceTimers_cons verifyToken powTen choices store now user users with
      ⟨used, step⟩
    rw [step, List.find?_cons, visited, steady 0 user]
    cases found : store.graces.get moment user with
    | none => exact ih underway (fun n => answers _) fun n => steady _
    | some grace =>
      by_cases late : 30000 ≤ now - grace.disconnectedAt
      · have outcome := @timeout_outcome verifyToken powTen (fun n => choices (n + 1)) store
          roomId battle underway (fun n => answers _) user grace.battleId
        by_cases same : grace.battleId = roomId
        · have due : overdue roomId now (some grace) = true := by simp [overdue, late, same]
          simp only [due, late, same, if_true] at outcome ⊢
          have ends : EndsFor roomId (battle.opponentOf user) _ _ := outcome
          exact ends.sameRoom (cleanupGraceTimers_inactive now users ends.inactive)
        · have notDue : overdue roomId now (some grace) = false := by simp [overdue, same]
          simp only [notDue, late, same, if_true, if_false] at outcome ⊢
          rw [← found] at notDue
          have later := @ih (fun n => choices (n + used + 1))
            (runAlone verifyToken (fun n => choices (n + 1))
              (battleService (Battle.handleGraceTimeout powTen user grace.battleId)) store)
            (underway.after_timeout same) (fun n => answers _)
            (fun n => steady_after_timeout (steady _))
          simp only [overdue_after_timeout _ notDue] at later
          exact later.of_sameRoom outcome
      · have notDue : overdue roomId now (some grace) = false := by simp [overdue, late]
        simp only [notDue, late, if_false]
        exact ih underway (fun n => answers _) fun n => steady _

theorem cleanupOrphanedGraceTimers_outcome (underway : Underway roomId battle store.battle)
    (answers : ∀ n, (choices n).battle.fails = false)
    (steady : ∀ n user, store.graces.get (choices n).now user =
      store.graces.get (choices 0).now user) :
    Outcome roomId battle
      ((choices 0).users.find? fun user =>
        overdue roomId (choices 1).now (store.graces.get (choices 0).now user)) store.battle
      (runAlone verifyToken choices (cleanupOrphanedGraceTimers powTen) store).battle := by
  have listed : ((choices 0).users.filter fun user =>
        (store.graces.get (choices 0).now user).isSome).find? (fun user =>
          overdue roomId (choices 1).now (store.graces.get (choices 0).now user)) =
      (choices 0).users.find? fun user =>
        overdue roomId (choices 1).now (store.graces.get (choices 0).now user) := by
    rw [List.find?_filter]
    congr 1
    funext user
    cases store.graces.get (choices 0).now user <;> simp [overdue]
  rw [cleanupOrphanedGraceTimers, runAlone_request, runAlone_request, ← listed]
  exact cleanupGraceTimers_outcome (choices 1).now (choices 0).now _ underway
    (fun n => answers _) fun n => steady _

theorem not_overdue_of_prompt (prompt : ∀ grace expiresAt, graces userId = some ⟨grace, expiresAt⟩ →
      expiresAt ≤ grace.disconnectedAt + 31000 ∧ grace.disconnectedAt + 31000 ≤ moment) :
    overdue roomId now (graces.get moment userId) = false := by
  have gone : graces.get moment userId = none := by
    rw [Keys.Expiring.get_eq_none_iff]
    intro entry stored
    rcases prompt entry.value entry.expiresAt stored with ⟨written, passed⟩
    exact written.trans passed
  rw [gone]
  rfl

/--
Whether a disconnected player forfeits an ACTIVE battle. The check for the player ends the
battle for the opponent exactly if it finds a record of this battle that is 30 seconds old.
The clean-up does exactly if the first user with such a record is on the player's side.
-/
theorem disconnect_forfeits_iff (socketId : SocketId)
    (underway : Underway roomId battle store.battle)
    (answers : ∀ n, (choices n).battle.fails = false)
    (steady : ∀ n user, store.graces.get (choices n).now user =
      store.graces.get (choices 0).now user) :
    (EndsFor roomId (battle.opponentOf userId) store.battle
        (runAlone verifyToken choices (onCheckReconnection powTen socketId userId) store).battle ↔
      overdue roomId (choices 1).now (store.graces.get (choices 0).now userId) = true) ∧
    (EndsFor roomId (battle.opponentOf userId) store.battle
        (runAlone verifyToken choices (cleanupOrphanedGraceTimers powTen) store).battle ↔
      ∃ user, (choices 0).users.find? (fun user =>
          overdue roomId (choices 1).now (store.graces.get (choices 0).now user)) = some user ∧
        battle.opponentOf user = battle.opponentOf userId) := by
  refine ⟨?_, ?_⟩
  · rw [(onCheckReconnection_outcome socketId underway answers).endsFor_iff underway userId]
    constructor
    · rintro ⟨_, found, _⟩
      by_contra notDue
      rw [if_neg notDue] at found
      cases found
    · intro due
      exact ⟨userId, if_pos due, rfl⟩
  · exact (cleanupOrphanedGraceTimers_outcome underway answers steady).endsFor_iff underway userId

end Forfeits

def playing : Battle.Store :=
  { (Battle.freshServer Battle.newcomer).store with
    battles := fun roomId => if roomId = "r" then some (Battle.activeBattle 100 100) else none }

def acceptPlayer (_now : ℤ) (token : String) : Option JWTPayload :=
  if token = "a's token" then some ⟨"a", "A", none, by decide⟩ else none

def clock (now : ℤ) : Choice where
  now := now
  rooms := ["r"]
  users := ["a"]
  battle := default

def disconnectAt (written : ℤ) : List ServerAction :=
  [.happen (.connected 0), .start 0 (.authenticate 0 "a's token")] ++
    List.replicate 5 (.advance 0 (clock 0)) ++
    [.happen (.closed 0), .start 1 (.disconnect 0)] ++
    List.replicate 6 (.advance 1 (clock 0)) ++ List.replicate 2 (.advance 1 (clock written))

/-- The battle of the two players goes on, and the record of `a` expires at a moment. -/
def Left (expiresAt : ℤ) (state : ServerState) : Prop :=
  state.store.battle.battles "r" = some (Battle.activeBattle 100 100) ∧
    (state.store.battle.users "a").isSome = true ∧ (state.store.battle.users "b").isSome = true ∧
      state.store.graces "a" = some ⟨⟨"r", 0, true⟩, expiresAt⟩

instance (expiresAt : ℤ) : DecidablePred (Left expiresAt) := fun _ => by
  unfold Left
  infer_instance

theorem Left.underway {expiresAt : ℤ} {state : ServerState} (left : Left expiresAt state) :
    Underway "r" (Battle.activeBattle 100 100) state.store.battle :=
  ⟨left.1, rfl, by decide, by decide, left.2.1, left.2.2.1⟩

/-- Player `a` disconnects, and 31 seconds later neither the check nor the clean-up ends the
battle. -/
theorem disconnected_player_stays_in_battle :
    ∃ state, (server acceptPlayer fun _ => 1).Reaches anyStep (freshServer playing) state ∧
      (∀ id process, state.processes id = some process → process.program = .done ()) ∧
      Left 30000 state ∧
      ¬EndsFor "r" "b" state.store.battle (runAlone acceptPlayer (fun _ => clock 31001)
        (onCheckReconnection (fun _ => 1) 1 "a") state.store).battle ∧
      ¬EndsFor "r" "b" state.store.battle (runAlone acceptPlayer (fun _ => clock 31001)
        (cleanupOrphanedGraceTimers fun _ => 1) state.store).battle := by
  have run : ∃ state, (server acceptPlayer fun _ => 1).Reaches anyStep
      (freshServer playing) state ∧
        (∀ id process, state.processes id = some process → process.program = .done ()) ∧
          Left 30000 state := by
    apply exists_reaches_done [0, 1] (fun _ _ => true) (disconnectAt 0)
    · intro state _ _ _
      trivial
    · intro _ _
      rfl
    · decide
  rcases run with ⟨state, reached, done, left⟩
  have notDue : overdue "r" 31001 (state.store.graces.get 31001 "a") = false := by
    apply not_overdue_of_prompt
    rw [left.2.2.2]
    rintro _ _ ⟨⟩
    exact ⟨by decide, by decide⟩
  refine ⟨state, reached, done, left, ?_, ?_⟩
  · have outcome := @onCheckReconnection_outcome acceptPlayer (fun _ => 1) (fun _ => clock 31001)
      state.store "r" _ "a" 1 left.underway fun _ => rfl
    simp only [clock, notDue] at outcome
    exact left.underway.not_sameRoom outcome "b"
  · have outcome := @cleanupOrphanedGraceTimers_outcome acceptPlayer (fun _ => 1)
      (fun _ => clock 31001) state.store "r" _ left.underway (fun _ => rfl) fun _ _ => rfl
    simp only [clock, List.find?_cons, notDue] at outcome
    exact left.underway.not_sameRoom outcome "b"

theorem late_record_ends_battle :
    ∃ state, (server acceptPlayer fun _ => 1).Reaches anyStep (freshServer playing) state ∧
      Left 32000 state ∧
      EndsFor "r" "b" state.store.battle (runAlone acceptPlayer (fun _ => clock 31500)
        (onCheckReconnection (fun _ => 1) 1 "a") state.store).battle ∧
      EndsFor "r" "b" state.store.battle (runAlone acceptPlayer (fun _ => clock 31500)
        (cleanupOrphanedGraceTimers fun _ => 1) state.store).battle := by
  have run : ∃ state, (server acceptPlayer fun _ => 1).Reaches anyStep
      (freshServer playing) state ∧ Left 32000 state := by
    apply exists_reaches [0, 1] (fun _ _ => true) (disconnectAt 2000)
    · intro state _ _ _
      trivial
    · intro _ _
      rfl
    · decide
  rcases run with ⟨state, reached, left⟩
  have due : overdue "r" 31500 (state.store.graces.get 31500 "a") = true := by
    rw [Keys.Expiring.get, left.2.2.2]
    decide
  have forfeits := @disconnect_forfeits_iff acceptPlayer (fun _ => 1) (fun _ => clock 31500)
    state.store "r" _ "a" 1 left.underway (fun _ => rfl) fun _ _ => rfl
  refine ⟨state, reached, left, forfeits.1.mpr due, forfeits.2.mpr ⟨"a", ?_, rfl⟩⟩
  simp only [clock, List.find?_cons, due]

end CodeClash.Session
