import CodeClash.Async.Protocol
import CodeClash.Judge.Damage
import Mathlib.Tactic.Linarith
import Mathlib.Tactic.Positivity

/-!
# Whom a submission hits

Submissions run one after the other. Which side of the hash belongs to the user is decided by the
field `player1Id`, which the API never writes. Hit points are read back from their text by
`parseInt`.
-/

namespace CodeClash.Judge

open Async Program Function

def Cmd.roomsAfter (rooms : RoomId → BattleHash) : Cmd → RoomId → BattleHash
  | .setHp roomId side hp => update rooms roomId ((rooms roomId).setHp side hp)
  | .addSubmission roomId side => update rooms roomId ((rooms roomId).addSubmission side)
  | .addLines roomId side lines =>
    update rooms roomId ((rooms roomId).addLines side lines)
  | _ => rooms

theorem handle_rooms (cmd : Cmd) (choice : Choice) (store : Store) :
    (handle cmd choice store).2.rooms = cmd.roomsAfter store.rooms := by
  cases cmd with
  | createBenchmark =>
    simp only [handle, Store.putBenchmark]
    split <;> rfl
  | updateBenchmark =>
    simp only [handle, Store.putBenchmark]
    split <;> rfl
  | _ => rfl

def Cmd.KeepsRooms (cmd : Cmd) : Prop := ∀ rooms, cmd.roomsAfter rooms = rooms

theorem Cmd.Incidental.keepsRooms (cmd : Cmd) (incidental : cmd.Incidental) : cmd.KeepsRooms := by
  intro _
  cases cmd <;> first | rfl | exact incidental.elim

def tracking : Protocol signature (RoomId → BattleHash) where
  allows _ _ := True
  expects rooms cmd reply :=
    match cmd, reply with
    | .hGetAll roomId, hash => hash = rooms roomId
    | _, _ => True
  after rooms cmd _ := cmd.roomsAfter rooms

def BattleHash.opponentHp (hash : BattleHash) (userId : UserId) : ℤ :=
  match (hash.fields (hash.sideOf userId).other).hp with
  | some hp => parsePrinted hp
  | none => 100

def BattleHash.struck (hash : BattleHash) (userId : UserId) (battleDamage : BattleDamageResult) :
    BattleHash :=
  ((hash.setHp (hash.sideOf userId).other battleDamage.opponentHp).addSubmission
    (hash.sideOf userId)).addLines (hash.sideOf userId)
      battleDamage.executionResult.testCaseResults.length

def Strikes (execution : ExecutionRequest) (before after : RoomId → BattleHash) :
    Except ExecutionError BattleDamageResult → Prop
  | .error _ => after = before
  | .ok battleDamage =>
    after = update before execution.roomId
        ((before execution.roomId).struck execution.userId battleDamage) ∧
      0 ≤ battleDamage.damage ∧
        battleDamage.opponentHp = max 0
          (((before execution.roomId).opponentHp execution.userId : ℚ) - battleDamage.damage)

section Tracking

variable {α β : Type} {rooms : RoomId → BattleHash} {roomId : RoomId} {userId : UserId}

variable {post : (RoomId → BattleHash) → β → Prop} {program : Prog α}

theorem tracking_request {cmd : Cmd} {next : cmd.Reply → Prog β} (keeps : cmd.KeepsRooms)
    (later : ∀ reply, tracking.expects rooms cmd reply → (next reply).Obeys tracking post rooms) :
    (request cmd >>= next).Obeys tracking post rooms := by
  refine obeys_perform_bind trivial ?_
  intro reply expected
  have same : tracking.after rooms cmd reply = rooms := keeps rooms
  rw [same]
  exact later reply expected

theorem tracking_keeps (keeps : program.Uses Cmd.KeepsRooms) :
    program.Obeys tracking (fun reached _ => reached = rooms) rooms :=
  obeys_of_uses (fun _ _ => trivial) (fun _ keeps _ => keeps rooms) keeps fun _ => rfl

theorem keeps_of_incidental (incidental : program.Uses Cmd.Incidental) :
    program.Uses Cmd.KeepsRooms :=
  uses_mono incidental Cmd.Incidental.keepsRooms

theorem tracking_bind {next : α → Prog β} (keeps : program.Uses Cmd.KeepsRooms)
    (later : ∀ value, (next value).Obeys tracking post rooms) :
    (program >>= next).Obeys tracking post rooms := by
  refine obeys_bind.mpr ((tracking_keeps keeps).mono ?_)
  rintro _ value rfl
  exact later value

theorem checkFirstSolve_keeps (solution : ExecutionResult) :
    (checkFirstSolve roomId userId solution).Uses Cmd.KeepsRooms := by
  rw [checkFirstSolve]
  split
  · trivial
  · apply uses_perform_bind fun _ => rfl
    intro _
    split
    · trivial
    · exact uses_perform_bind (fun _ => rfl) fun _ => trivial

theorem getOpponentHp_spec :
    (getOpponentHp roomId userId).Obeys tracking
      (fun reached value => reached = rooms ∧ value = (rooms roomId).opponentHp userId) rooms := by
  apply tracking_request fun _ => rfl
  rintro _ rfl
  rw [BattleHash.opponentHp]
  cases ((rooms roomId).fields ((rooms roomId).sideOf userId).other).hp <;> exact ⟨rfl, rfl⟩

theorem updateBattleState_spec (battleDamage : BattleDamageResult) :
    (updateBattleState roomId userId battleDamage).Obeys tracking
      (fun reached _ => reached = update rooms roomId
        ((rooms roomId).struck userId battleDamage)) rooms := by
  apply tracking_request fun _ => rfl
  rintro _ rfl
  refine ⟨trivial, fun _ _ => ⟨trivial, fun _ _ => ⟨trivial, fun _ _ => ?_⟩⟩⟩
  simp [tracking, Cmd.roomsAfter, BattleHash.struck, Program.Obeys]

theorem recordDamage_spec (execution : ExecutionRequest) (battleDamage : BattleDamageResult) :
    (recordDamage execution battleDamage).Obeys tracking
      (fun reached _ => reached = update rooms execution.roomId
        ((rooms execution.roomId).struck execution.userId battleDamage)) rooms := by
  apply tracking_bind
  · split
    · exact keeps_of_incidental (updatePuzzleBenchmark_incidental _ _ _)
    · trivial
  intro _
  apply tracking_bind (keeps_of_incidental (storeSubmission_incidental _ _ _))
  intro _
  refine obeys_bind.mpr ((updateBattleState_spec battleDamage).mono ?_)
  rintro _ _ rfl
  exact tracking_keeps (keeps_of_incidental (emitBattleDamage_incidental _))

end Tracking

section Spec

variable {rooms : RoomId → BattleHash} {securityErrors : String → String → List String}

theorem assessExecution_spec (execution : ExecutionRequest) (executionResult : ExecutionResult)
    (elapsedSeconds timeLimitSeconds : ℚ) :
    (assessExecution execution executionResult elapsedSeconds timeLimitSeconds).Obeys tracking
      (fun reached value => Strikes execution rooms reached (.ok value)) rooms := by
  apply tracking_bind (keeps_of_incidental (getPuzzleBenchmark_incidental _ _))
  intro _
  apply tracking_bind (checkFirstSolve_keeps _)
  intro _
  refine obeys_bind.mpr (getOpponentHp_spec.mono ?_)
  rintro _ _ ⟨rfl, rfl⟩
  refine obeys_bind.mpr ((recordDamage_spec execution _).mono ?_)
  rintro _ _ rfl
  exact ⟨rfl, cappedDamage_nonneg, rfl⟩

theorem executeCode_spec (execution : ExecutionRequest) :
    (executeCode securityErrors execution).Obeys tracking
      (fun reached value => Strikes execution rooms reached value) rooms := by
  rw [executeCode]
  split
  · exact rfl
  apply tracking_request fun _ => rfl
  intro _ _
  split
  · apply tracking_request fun _ => rfl
    intro now _
    exact rfl
  apply tracking_request fun _ => rfl
  intro _ _
  split
  · exact rfl
  · exact rfl
  · split
    · exact rfl
    · rename_i puzzle _ _
      refine obeys_bind.mpr ?_
      apply tracking_request fun _ => rfl
      intro _ _
      apply tracking_bind (keeps_of_incidental (startTimeOf_incidental _))
      intro _
      apply tracking_request fun _ => rfl
      intro _ _
      apply tracking_bind (keeps_of_incidental (judge0Client_incidental _))
      intro _
      exact (assessExecution_spec execution _ _ _).mono fun _ _ strikes => strikes

end Spec

/-- A submission and what the environment decides while it runs. -/
structure Submission where
  execution : ExecutionRequest
  choices : ℕ → Choice

section Sequences

variable (securityErrors : String → String → List String)

def execute (submission : Submission) (store : Store) :
    Except ExecutionError BattleDamageResult × Store :=
  (executeCode securityErrors submission.execution).run handle (fun _ store => store)
    submission.choices store

def executeAll : List Submission → Store → Store
  | [], store => store
  | submission :: submissions, store =>
    executeAll submissions (execute securityErrors submission store).2

def damages : List Submission → Store → List ℚ
  | [], _ => []
  | submission :: submissions, store =>
    let outcome := execute securityErrors submission store
    match outcome.1 with
    | .ok battleDamage => battleDamage.damage :: damages submissions outcome.2
    | .error _ => damages submissions outcome.2

/-- The checks let the submission through: its text is accepted, the rate limiter allows it, and
the database has a puzzle with test cases. -/
structure Admitted (submission : Submission) : Prop where
  secure : securityErrors submission.execution.code submission.execution.language = []
  allowed : (submission.choices 0).rateLimit.allowed = true
  answered : (submission.choices 1).fails = false
  found : ∃ puzzle, (submission.choices 1).puzzle = some puzzle ∧ puzzle.testCases ≠ []

variable {securityErrors}

theorem exists_execute_eq_ok_iff (submission : Submission) (store : Store) :
    (∃ battleDamage, (execute securityErrors submission store).1 = .ok battleDamage) ↔
      Admitted securityErrors submission := by
  rw [execute, executeCode]
  generalize executePuzzle submission.execution = body
  constructor
  · rintro ⟨_, outcome⟩
    cases secure : securityErrors submission.execution.code submission.execution.language with
    | cons =>
      rw [secure] at outcome
      cases outcome
    | nil =>
      rw [secure] at outcome
      have allowed : (submission.choices 0).rateLimit.allowed = true := by
        by_contra rejected
        rw [Bool.not_eq_true] at rejected
        simp [handle, rejected, Program.run] at outcome
      cases answered : (submission.choices 1).fails with
      | true => simp [handle, answer, allowed, answered, Program.run] at outcome
      | false =>
        cases found : (submission.choices 1).puzzle with
        | none => simp [handle, answer, allowed, answered, found, Program.run] at outcome
        | some puzzle =>
          refine ⟨secure, allowed, answered, puzzle, found, ?_⟩
          intro empty
          simp [handle, answer, allowed, answered, found, empty, Program.run] at outcome
  · rintro ⟨secure, allowed, answered, _, found, nonempty⟩
    rw [secure]
    simp [handle, allowed, answered, found, answer, nonempty, Program.run,
      Program.run_bind_done]

theorem execute_strikes (submission : Submission) (store : Store) :
    Strikes submission.execution store.rooms (execute securityErrors submission store).2.rooms
      (execute securityErrors submission store).1 := by
  have obeys : (executeCode securityErrors submission.execution).Obeys tracking _ store.rooms :=
    executeCode_spec submission.execution
  refine obeys.run_alone fun _ cmd store _ => ⟨?_, handle_rooms cmd _ store⟩
  cases cmd <;> first | rfl | trivial

theorem struck_sideOf (hash : BattleHash) (userId other : UserId)
    (battleDamage : BattleDamageResult) :
    (hash.struck userId battleDamage).sideOf other = hash.sideOf other := by
  simp only [BattleHash.struck]
  cases hash.sideOf userId <;> rfl

theorem execute_sideOf (submission : Submission) (store : Store) (roomId : RoomId)
    (userId : UserId) :
    ((execute securityErrors submission store).2.rooms roomId).sideOf userId =
      (store.rooms roomId).sideOf userId := by
  have strikes := @execute_strikes securityErrors submission store
  cases outcome : (execute securityErrors submission store).1 with
  | error =>
    rw [outcome] at strikes
    exact congrArg (fun rooms => (rooms roomId).sideOf userId) strikes
  | ok =>
    rw [outcome] at strikes
    rw [strikes.1]
    by_cases same : roomId = submission.execution.roomId
    · subst roomId
      rw [update_self, struck_sideOf]
    · rw [update_of_ne same]

theorem executeAll_sideOf (submissions : List Submission) (store : Store) (roomId : RoomId)
    (userId : UserId) :
    ((executeAll securityErrors submissions store).rooms roomId).sideOf userId =
      (store.rooms roomId).sideOf userId := by
  induction submissions generalizing store with
  | nil => rfl
  | cons submission _ ih =>
    rw [executeAll, ih]
    exact execute_sideOf submission store roomId userId

end Sequences

/-- Only the hit points of the other side and the counters of the given side have changed. -/
structure HitsOther (side : Side) (before after : BattleHash) : Prop where
  player1Id : after.player1Id = before.player1Id
  player2Id : after.player2Id = before.player2Id
  status : after.status = before.status
  startTime : after.startTime = before.startTime
  timeLimit : after.timeLimit = before.timeLimit
  hp : (after.fields side).hp = (before.fields side).hp
  submissions : (after.fields side.other).submissions = (before.fields side.other).submissions
  linesChanged : (after.fields side.other).linesChanged = (before.fields side.other).linesChanged

/-- Between the two stores only the room has changed, and there only what concerns a submission
of the given side. -/
def HitsOtherIn (roomId : RoomId) (side : Side) (before after : Store) : Prop :=
  HitsOther side (before.rooms roomId) (after.rooms roomId) ∧
    ∀ other, other ≠ roomId → after.rooms other = before.rooms other

def sideFor (player1Id userId : UserId) : Side :=
  if userId = player1Id then .player1 else .player2

def samplePuzzle : Puzzle where
  testCases := [⟨"1 2", "3"⟩]
  timeLimitMs := 300000
  timeLimitMs_pos := by decide

def solvedAt (now : ℤ) : Choice where
  now := now
  fails := false
  rateLimit := ⟨true, 9, some 60000⟩
  puzzle := some samplePuzzle
  judge0 := ⟨.ok (), .ok "token", .ok ⟨3, "Accepted", some "3\n", none, none, some "3"⟩⟩

def sampleSolution (userId : UserId) (now : ℤ) : Submission where
  execution := ⟨"print(3)", "python", "sum", userId, "room", none⟩
  choices := fun _ => solvedAt now

def storeWith (hash : BattleHash) : Store := { emptyStore with rooms := fun _ => hash }

section Frames

variable {securityErrors : String → String → List String} {side : Side} {hash : BattleHash}
  {userId : UserId} {battleDamage : BattleDamageResult}

theorem struck_hp :
    ((hash.struck userId battleDamage).fields (hash.sideOf userId).other).hp =
      some battleDamage.opponentHp := by
  simp only [BattleHash.struck]
  cases hash.sideOf userId <;> rfl

theorem struck_submissions :
    ((hash.struck userId battleDamage).fields (hash.sideOf userId)).submissions =
      some ((hash.fields (hash.sideOf userId)).submissions.getD 0 + 1) := by
  simp only [BattleHash.struck]
  cases hash.sideOf userId <;> rfl

theorem struck_hitsOther_iff :
    HitsOther side hash (hash.struck userId battleDamage) ↔ hash.sideOf userId = side := by
  constructor
  · intro hits
    by_contra differs
    have counted := hits.submissions
    have taken : side.other = hash.sideOf userId := by
      cases side <;> cases taken : hash.sideOf userId <;> first | rfl | exact absurd taken differs
    rw [taken, struck_submissions] at counted
    cases before : (hash.fields (hash.sideOf userId)).submissions with
    | none => simp [before] at counted
    | some => simp [before] at counted
  · rintro rfl
    simp only [BattleHash.struck]
    cases hash.sideOf userId <;> exact ⟨rfl, rfl, rfl, rfl, rfl, rfl, rfl, rfl⟩

theorem HitsOther.refl (side : Side) (hash : BattleHash) : HitsOther side hash hash :=
  ⟨rfl, rfl, rfl, rfl, rfl, rfl, rfl, rfl⟩

theorem execute_hitsOther_iff (submission : Submission) (store : Store) :
    HitsOtherIn submission.execution.roomId side store
        (execute securityErrors submission store).2 ↔
      (Admitted securityErrors submission →
        (store.rooms submission.execution.roomId).sideOf submission.execution.userId = side) := by
  rw [← exists_execute_eq_ok_iff submission store]
  have strikes := @execute_strikes securityErrors submission store
  cases outcome : (execute securityErrors submission store).1 with
  | error =>
    rw [outcome] at strikes
    have same : (execute securityErrors submission store).2.rooms = store.rooms := strikes
    refine iff_of_true ⟨?_, fun other _ => congrFun same other⟩ ?_
    · rw [same]
      exact .refl _ _
    · rintro ⟨_, impossible⟩
      cases impossible
  | ok battleDamage =>
    rw [outcome] at strikes
    have elsewhere : ∀ other, other ≠ submission.execution.roomId →
        (execute securityErrors submission store).2.rooms other = store.rooms other := by
      intro _ differs
      rw [strikes.1, update_of_ne differs]
    rw [HitsOtherIn, and_iff_left elsewhere, strikes.1, update_self,
      struck_hitsOther_iff]
    constructor
    · intro taken _
      exact taken
    · intro taken
      exact taken ⟨battleDamage, rfl⟩

/--
Two players of a room that the API created submit one after the other. What a further
submission changes is what concerns its user exactly if the user is the second player or the
submission is rejected.
-/
theorem submission_hits_opponent_iff {player1Id player2Id : UserId}
    (distinct : player1Id ≠ player2Id) {roomId : RoomId} {created : Store} {now : ℤ}
    (isCreated : created.rooms roomId = initializeBattleState player1Id player2Id now)
    (earlier : List Submission) (submission : Submission)
    (inRoom : submission.execution.roomId = roomId)
    (plays : submission.execution.userId = player1Id ∨
      submission.execution.userId = player2Id) :
    HitsOtherIn roomId (sideFor player1Id submission.execution.userId)
        (executeAll securityErrors earlier created)
        (execute securityErrors submission (executeAll securityErrors earlier created)).2 ↔
      (Admitted securityErrors submission → submission.execution.userId = player2Id) := by
  subst roomId
  rw [execute_hitsOther_iff, executeAll_sideOf, isCreated]
  apply imp_congr_right
  intro _
  have taken : (initializeBattleState player1Id player2Id now).sideOf
      submission.execution.userId = .player2 := rfl
  rw [taken, sideFor]
  rcases plays with first | second
  · rw [first, if_pos rfl]
    exact iff_of_false Side.noConfusion distinct
  · rw [second, if_neg (Ne.symm distinct)]
    exact iff_of_true rfl rfl

theorem second_player_hits_first :
    HitsOtherIn "room" .player2 (storeWith (initializeBattleState "ann" "bob" 0))
      (execute (fun _ _ => []) (sampleSolution "bob" 0)
        (storeWith (initializeBattleState "ann" "bob" 0))).2 :=
  (@submission_hits_opponent_iff (fun _ _ => []) "ann" "bob" (by decide) "room"
    (storeWith (initializeBattleState "ann" "bob" 0)) 0 rfl [] (sampleSolution "bob" 0) rfl
    (.inr rfl)).mpr fun _ => rfl

/-- The first player solves the puzzle and is hit by the own solution. -/
theorem first_player_hits_itself :
    ¬HitsOtherIn "room" .player1 (storeWith (initializeBattleState "ann" "bob" 0))
      (execute (fun _ _ => []) (sampleSolution "ann" 0)
        (storeWith (initializeBattleState "ann" "bob" 0))).2 := by
  intro hits
  have after : (((execute (fun _ _ => []) (sampleSolution "ann" 0)
      (storeWith (initializeBattleState "ann" "bob" 0))).2.rooms "room").fields .player1).hp =
        some 40 := by
    decide +kernel
  have before : (((storeWith (initializeBattleState "ann" "bob" 0)).rooms "room").fields
      .player1).hp = some 100 := rfl
  have same := hits.1.hp
  rw [after, before] at same
  exact absurd same (by decide)

end Frames

structure BattleHash.Names (hash : BattleHash) (player1Id player2Id : UserId) : Prop where
  player1 : hash.player1Id = some player1Id
  player2 : hash.player2Id = some player2Id
  distinct : player1Id ≠ player2Id

/-- Every submission finds hit points whose text is read back as the number it stands for. -/
def Readable (securityErrors : String → String → List String) (roomId : RoomId) (side : Side) :
    List Submission → Store → Prop
  | [], _ => True
  | submission :: submissions, store =>
    (∀ hp, ((store.rooms roomId).fields side).hp = some hp → (parsePrinted hp : ℚ) = hp) ∧
      Readable securityErrors roomId side submissions (execute securityErrors submission store).2

section Ledger

variable {securityErrors : String → String → List String} {roomId : RoomId} {userId : UserId}

theorem BattleHash.Names.sideOf_eq {hash : BattleHash} {player1Id player2Id : UserId}
    (named : hash.Names player1Id player2Id) (userId : UserId) :
    hash.sideOf userId = sideFor player1Id userId := by
  rw [BattleHash.sideOf, sideFor, named.player1]
  simp only [Option.some.injEq, eq_comm]

theorem damages_nonneg (submissions : List Submission) (store : Store) :
    0 ≤ (damages securityErrors submissions store).sum := by
  induction submissions generalizing store with
  | nil => exact le_rfl
  | cons submission _ ih =>
    have strikes := @execute_strikes securityErrors submission store
    rw [damages]
    cases outcome : (execute securityErrors submission store).1 with
    | error => exact ih _
    | ok =>
      rw [outcome] at strikes
      simp only [List.sum_cons]
      exact add_nonneg strikes.2.1 (ih _)

variable {store : Store} {hp : ℚ}

theorem execute_hp {submission : Submission} {battleDamage : BattleDamageResult}
    (outcome : (execute securityErrors submission store).1 = .ok battleDamage)
    (stored : ((store.rooms submission.execution.roomId).fields
      ((store.rooms submission.execution.roomId).sideOf
        submission.execution.userId).other).hp = some hp)
    (readable : (parsePrinted hp : ℚ) = hp) :
    (((execute securityErrors submission store).2.rooms submission.execution.roomId).fields
      ((store.rooms submission.execution.roomId).sideOf
        submission.execution.userId).other).hp = some (max 0 (hp - battleDamage.damage)) := by
  have strikes := @execute_strikes securityErrors submission store
  rw [outcome] at strikes
  rcases strikes with ⟨rooms, _, opponentHp⟩
  rw [rooms, update_self, struck_hp, opponentHp, BattleHash.opponentHp, stored]
  simp only [readable]

theorem max_sub_sub {first rest : ℚ} (nonneg : 0 ≤ rest) :
    max 0 (max 0 (hp - first) - rest) = max 0 (hp - (first + rest)) := by
  rcases le_total (hp - first) 0 with negative | positive
  · rw [max_eq_left negative, max_eq_left (by linarith), max_eq_left (by linarith)]
  · rw [max_eq_right positive]
    congr 1
    ring

theorem ledger_from {submissions : List Submission} {side : Side}
    (own : ∀ submission ∈ submissions, submission.execution.userId = userId ∧
      submission.execution.roomId = roomId)
    (taken : (store.rooms roomId).sideOf userId = side) (nonneg : 0 ≤ hp)
    (stored : ((store.rooms roomId).fields side.other).hp = some hp)
    (readable : Readable securityErrors roomId side.other submissions store) :
    (((executeAll securityErrors submissions store).rooms roomId).fields side.other).hp =
      some (max 0 (hp - (damages securityErrors submissions store).sum)) := by
  induction submissions generalizing store hp with
  | nil =>
    rw [executeAll, damages, stored, List.sum_nil, sub_zero, max_eq_right nonneg]
  | cons submission submissions ih =>
    rcases own submission List.mem_cons_self with ⟨rfl, rfl⟩
    rcases readable with ⟨now, later⟩
    have rest : ∀ other ∈ submissions, other.execution.userId = submission.execution.userId ∧
        other.execution.roomId = submission.execution.roomId :=
      fun other member => own other (List.mem_cons_of_mem _ member)
    have takenNext := (@execute_sideOf securityErrors submission store
      submission.execution.roomId submission.execution.userId).trans taken
    rw [executeAll, damages]
    cases outcome : (execute securityErrors submission store).1 with
    | error =>
      have strikes := @execute_strikes securityErrors submission store
      rw [outcome] at strikes
      have same : (execute securityErrors submission store).2.rooms = store.rooms := strikes
      exact ih rest takenNext nonneg (same ▸ stored) later
    | ok =>
      subst side
      have storedNext := execute_hp outcome stored (now hp stored)
      rw [ih rest takenNext (le_max_left _ _) storedNext later]
      simp only [List.sum_cons, max_sub_sub (damages_nonneg _ _)]

/--
One player of a hash that names its players submits any number of times. As long as every
submission finds readable hit points, the hit points of the opponent are what the reported
damages leave of the initial ones.
-/
theorem ledger_of_readable {player1Id player2Id : UserId} {store : Store} {initial : ℕ}
    {submissions : List Submission} (named : (store.rooms roomId).Names player1Id player2Id)
    (own : ∀ submission ∈ submissions, submission.execution.userId = userId ∧
      submission.execution.roomId = roomId)
    (stored : ((store.rooms roomId).fields (sideFor player1Id userId).other).hp = some initial)
    (readable : Readable securityErrors roomId (sideFor player1Id userId).other submissions
      store) :
    (((executeAll securityErrors submissions store).rooms roomId).fields
        (sideFor player1Id userId).other).hp =
      some (max 0 (initial - (damages securityErrors submissions store).sum)) :=
  ledger_from own (named.sideOf_eq userId) (Nat.cast_nonneg initial) stored readable

def namedHash : BattleHash :=
  { initializeBattleState "ann" "bob" 0 with player1Id := some "ann", player2Id := some "bob" }

theorem namedHash_names : namedHash.Names "ann" "bob" := ⟨rfl, rfl, by decide⟩

theorem whole_damages_add_up :
    (((executeAll (fun _ _ => []) [sampleSolution "ann" 0, sampleSolution "ann" 0]
      (storeWith namedHash)).rooms "room").fields .player2).hp = some 5 := by
  have readable : Readable (fun _ _ => []) "room" .player2
      [sampleSolution "ann" 0, sampleSolution "ann" 0] (storeWith namedHash) := by
    have second : (((execute (fun _ _ => []) (sampleSolution "ann" 0)
        (storeWith namedHash)).2.rooms "room").fields .player2).hp = some 40 := by
      decide +kernel
    refine ⟨?_, ?_, trivial⟩
    · rintro hp stored
      cases stored
      decide +kernel
    · intro _ stored
      cases second.symm.trans stored
      decide +kernel
  have ledger := @ledger_of_readable (fun _ _ => []) "room" "ann" "ann" "bob"
    (storeWith namedHash) 100 [sampleSolution "ann" 0, sampleSolution "ann" 0] namedHash_names
    (by decide) rfl readable
  exact ledger.trans (by decide +kernel)

/-- Seven and a half seconds later the damages are 59.5 and 34.5, and six points should be
left. -/
theorem fraction_is_lost :
    (((executeAll (fun _ _ => []) [sampleSolution "ann" 7500, sampleSolution "ann" 7500]
      (storeWith namedHash)).rooms "room").fields .player2).hp ≠
      some (max 0 (100 - (damages (fun _ _ => [])
        [sampleSolution "ann" 7500, sampleSolution "ann" 7500] (storeWith namedHash)).sum)) := by
  have stored : (((executeAll (fun _ _ => [])
      [sampleSolution "ann" 7500, sampleSolution "ann" 7500]
      (storeWith namedHash)).rooms "room").fields .player2).hp = some (11 / 2) := by
    decide +kernel
  have reported : damages (fun _ _ => []) [sampleSolution "ann" 7500, sampleSolution "ann" 7500]
      (storeWith namedHash) = [119 / 2, 69 / 2] := by
    decide +kernel
  rw [stored, reported]
  decide +kernel

end Ledger

end CodeClash.Judge
