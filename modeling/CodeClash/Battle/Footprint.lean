import CodeClash.Battle.Service

/-!
# Footprints

Which commands the programs of the battle service can issue, and what a command
does to one room. The programs are taken apart once here; the proofs about rooms,
locks, ratings and timers use the footprints.
-/

namespace CodeClash.Battle

open Async Program Function

def Cmd.Reads (roomId : RoomId) (cmd : Cmd) : Prop := cmd = .getBattle roomId

/-- The state a command stores in a room, with the strike it records. -/
def Cmd.stores (roomId : RoomId) : Cmd → Option (BattleState × Option Strike)
  | .setBattle room state strike => if room = roomId then some (state, strike) else none
  | .clearInterval room (some state) => if room = roomId then some (state, none) else none
  | _ => none

/-- The update of a user row that a command makes for the end of a battle. -/
def Cmd.rates (roomId : RoomId) : Cmd → Option RatingEffect
  | .rate room effect => if room = roomId then some effect else none
  | _ => none

def saves (roomId : RoomId) (log : List Event) : List (BattleState × Option Strike) :=
  log.filterMap fun
    | .saved room state strike => if room = roomId then some (state, strike) else none
    | _ => none

def ratings (roomId : RoomId) (log : List Event) : List RatingEffect :=
  log.filterMap fun
    | .rated room effect => if room = roomId then some effect else none
    | _ => none

def interval (roomId : RoomId) (store : Store) : Option Bool :=
  (store.timers roomId).map Timer.running

def Cmd.intervalAfter (roomId : RoomId) (running : Option Bool) : Cmd → Option Bool
  | .setInterval room _ => if room = roomId then some true else running
  | .clearInterval room _ => if room = roomId then running.map fun _ => false else running
  | _ => running

theorem saves_save (roomId : RoomId) (store : Store) (state : BattleState)
    (strike : Option Strike) :
    saves roomId (store.save roomId state strike).log =
      (state, strike) :: saves roomId store.log := by
  simp [Store.save, saves]

def Cmd.OffRooms : Cmd → Prop
  | .setBattle _ _ _ | .setInterval _ _ | .clearInterval _ _ | .rate _ _ => False
  | _ => True

structure SameRooms (before after : Store) : Prop where
  battles : after.battles = before.battles
  users : after.users = before.users
  interval : ∀ roomId, interval roomId after = interval roomId before
  saves : ∀ roomId, saves roomId after.log = saves roomId before.log
  ratings : ∀ roomId, ratings roomId after.log = ratings roomId before.log

variable {cmd : Cmd} {store : Store}

theorem handle_sameRooms {choice : Choice} (off : cmd.OffRooms) :
    SameRooms store (handle cmd choice store).2 := by
  have same : SameRooms store store := ⟨rfl, rfl, fun _ => rfl, fun _ => rfl, fun _ => rfl⟩
  cases cmd with
  | setBattle => exact absurd off not_false
  | setInterval => exact absurd off not_false
  | clearInterval => exact absurd off not_false
  | rate => exact absurd off not_false
  | setLock =>
    simp only [handle, Store.setLock]
    split
    · exact same
    · exact ⟨rfl, rfl, fun _ => rfl, fun _ => rfl, fun _ => rfl⟩
  | getLockValue =>
    simp only [handle, Store.getLockValue]
    split
    · exact same
    · exact ⟨rfl, rfl, fun _ => rfl, fun _ => rfl, fun _ => rfl⟩
  | evalUnlock =>
    simp only [handle, Store.evalUnlock]
    split
    · split <;> exact ⟨rfl, rfl, fun _ => rfl, fun _ => rfl, fun _ => rfl⟩
    · exact ⟨rfl, rfl, fun _ => rfl, fun _ => rfl, fun _ => rfl⟩
  | createAchievement =>
    simp only [handle]
    split
    · exact same
    · exact ⟨rfl, rfl, fun _ => rfl, fun _ => rfl, fun _ => rfl⟩
  | _ => exact ⟨rfl, rfl, fun _ => rfl, fun _ => rfl, fun _ => rfl⟩

theorem handle_battles (roomId : RoomId) (cmd : Cmd) (choice : Choice) (store : Store) :
    (handle cmd choice store).2.battles roomId =
      match cmd.stores roomId with
      | some (state, _) => some state
      | none => store.battles roomId := by
  cases cmd with
  | setBattle room =>
    by_cases same : room = roomId
    · subst room
      simp [handle, Cmd.stores, Store.save]
    · simp [handle, Cmd.stores, Store.save, same, update_of_ne (Ne.symm same)]
  | clearInterval room save =>
    cases save with
    | none => rfl
    | some =>
      by_cases same : room = roomId
      · subst room
        simp [handle, Cmd.stores, Store.save]
      · simp [handle, Cmd.stores, Store.save, Store.clearInterval, same,
          update_of_ne (Ne.symm same)]
  | setInterval => rfl
  | rate =>
    simp only [handle, Store.rate]
    split <;> rfl
  | _ => exact congrFun (handle_sameRooms (by trivial)).battles roomId

theorem handle_saves (roomId : RoomId) (cmd : Cmd) (choice : Choice) (store : Store) :
    saves roomId (handle cmd choice store).2.log =
      (cmd.stores roomId).toList ++ saves roomId store.log := by
  cases cmd with
  | setBattle room =>
    by_cases same : room = roomId <;>
      simp [handle, Cmd.stores, Store.save, saves, same]
  | clearInterval room save =>
    cases save with
    | none => rfl
    | some =>
      by_cases same : room = roomId <;>
        simp [handle, Cmd.stores, Store.save, Store.clearInterval, saves, same]
  | setInterval => rfl
  | rate =>
    simp only [handle, Store.rate]
    split <;> rfl
  | _ => exact (handle_sameRooms (by trivial)).saves roomId

theorem handle_interval (roomId : RoomId) (cmd : Cmd) (choice : Choice) (store : Store) :
    interval roomId (handle cmd choice store).2 =
      cmd.intervalAfter roomId (interval roomId store) := by
  cases cmd with
  | setInterval room =>
    by_cases same : room = roomId
    · subst room
      simp [interval, handle, Cmd.intervalAfter]
    · simp [interval, handle, Cmd.intervalAfter, same, update_of_ne (Ne.symm same)]
  | clearInterval room save =>
    have cleared : interval roomId (store.clearInterval room) =
        (Cmd.clearInterval room save).intervalAfter roomId (interval roomId store) := by
      by_cases same : room = roomId
      · subst room
        simp [interval, Store.clearInterval, Cmd.intervalAfter, Function.comp_def]
      · simp [interval, Store.clearInterval, Cmd.intervalAfter, same,
          update_of_ne (Ne.symm same)]
    cases save with
    | none => exact cleared
    | some => exact cleared
  | setBattle => rfl
  | rate =>
    simp only [handle, Store.rate]
    split <;> rfl
  | _ => exact (handle_sameRooms (by trivial)).interval roomId

theorem handle_ratings (roomId : RoomId) (cmd : Cmd) (choice : Choice) (store : Store) :
    ratings roomId (handle cmd choice store).2.log = ratings roomId store.log ∨
      ∃ effect, cmd.rates roomId = some effect ∧
        ratings roomId (handle cmd choice store).2.log = effect :: ratings roomId store.log := by
  cases cmd with
  | rate room effect =>
    simp only [handle, Store.rate]
    split
    · by_cases same : room = roomId
      · exact Or.inr ⟨effect, by simp [Cmd.rates, same], by simp [ratings, same]⟩
      · exact Or.inl (by simp [ratings, same])
    · exact Or.inl rfl
  | setBattle => exact Or.inl rfl
  | setInterval => exact Or.inl rfl
  | clearInterval _ save => cases save <;> exact Or.inl rfl
  | _ => exact Or.inl ((handle_sameRooms (by trivial)).ratings roomId)

def Call.Creates (roomId : RoomId) : Call → Prop
  | .createMatch room _ _ _ _ _ => room = roomId
  | _ => False

/-- Starting a call creates the room, once, or leaves it as it is. -/
inductive AcceptCases (roomId : RoomId) (store : Store) : Call → Store → Prop where
  | created (player1Id player2Id : UserId) (problem : Problem) (now : ℤ)
      (matchId : Option String) (different : player1Id ≠ player2Id)
      (unused : saves roomId store.log = []) (untimed : interval roomId store = none) :
      AcceptCases roomId store (.createMatch roomId player1Id player2Id problem now matchId)
        (store.save roomId (openingState player1Id player2Id problem now matchId) none)
  | other (call : Call) (after : Store) (notCreate : ¬call.Creates roomId)
      (sameBattle : after.battles roomId = store.battles roomId)
      (sameSaves : saves roomId after.log = saves roomId store.log)
      (sameRatings : ratings roomId after.log = ratings roomId store.log)
      (sameInterval : interval roomId after = interval roomId store) :
      AcceptCases roomId store call after

variable {after : Store} {userId : UserId}

theorem accept_cases {call : Call} (roomId : RoomId)
    (accepted : accept call store = some after) : AcceptCases roomId store call after := by
  cases call with
  | createMatch room =>
    simp only [accept] at accepted
    split at accepted
    · cases accepted
    rename_i unused
    simp only [not_or] at unused
    rcases unused with ⟨different, untouched, untimed⟩
    simp only [Option.some.injEq] at accepted
    subst after
    by_cases same : room = roomId
    · subst room
      apply AcceptCases.created _ _ _ _ _ different
      · rw [saves, List.filterMap_eq_nil_iff]
        intro event present
        have unconcerned : ¬event.concerns roomId = true := by
          intro concerns
          exact untouched (List.any_eq_true.mpr ⟨event, present, concerns⟩)
        cases event <;> simp_all [Event.concerns]
      · simpa [interval] using untimed
    · apply AcceptCases.other
      · exact same
      · simp [Store.save, update_of_ne (Ne.symm same)]
      · simp [Store.save, saves, same]
      · rfl
      · rfl
  | timerTick room =>
    simp only [accept] at accepted
    split at accepted
    · rename_i timer found
      split at accepted
      · simp only [Option.some.injEq] at accepted
        subst after
        apply AcceptCases.other
        · exact not_false
        · rfl
        · rfl
        · rfl
        · by_cases same : room = roomId
          · subst room
            simp [interval, found]
          · simp [interval, update_of_ne (Ne.symm same)]
      · cases accepted
    · cases accepted
  | _ =>
    simp only [accept, Option.some.injEq] at accepted
    subst after
    apply AcceptCases.other
    · exact not_false
    · rfl
    · rfl
    · rfl
    · rfl

theorem happen_cases {event : Environment} (roomId : RoomId)
    (happened : happen event store = some after) :
    (after.battles roomId = none ∨ after.battles roomId = store.battles roomId) ∧
      after.log = store.log ∧ interval roomId after = interval roomId store := by
  have removed (room : RoomId) : update store.battles room none roomId = none ∨
      update store.battles room none roomId = store.battles roomId := by
    by_cases same : roomId = room
    · subst room
      exact Or.inl (update_self _ _ _)
    · exact Or.inr (update_of_ne same _ _)
  cases event with
  | battleDeleted room =>
    simp only [happen] at happened
    split at happened
    · cases happened
    · simp only [Option.some.injEq] at happened
      subst after
      exact ⟨removed room, rfl, rfl⟩
  | battleExpired room =>
    simp only [happen, Option.some.injEq] at happened
    subst after
    exact ⟨removed room, rfl, rfl⟩
  | lockExpired =>
    simp only [happen, Option.some.injEq] at happened
    subst after
    exact ⟨Or.inr rfl, rfl, rfl⟩
  | lockValueExpired =>
    simp only [happen, Option.some.injEq] at happened
    subst after
    exact ⟨Or.inr rfl, rfl, rfl⟩

/-- Commands that leave rooms, locks, ratings and intervals alone. -/
def Cmd.Quiet : Cmd → Prop
  | .now | .order | .emit _ _ | .deleteLater _ | .readTimer _ | .findProblem _ | .judge _ _ _
  | .findUser _ | .findAchievements _ | .createAchievement _ _ | .createSubmission _
  | .delGrace _ => True
  | _ => False

/-- Quiet commands that send no message and have to do with neither the problem nor a
disconnected player. -/
def Cmd.Plain : Cmd → Prop
  | .findProblem _ | .judge _ _ _ | .emit _ _ | .delGrace _ => False
  | cmd => cmd.Quiet

theorem Cmd.Plain.quiet (plain : cmd.Plain) : cmd.Quiet := by
  cases cmd <;> first | exact plain | trivial

def Cmd.Locking (userId : UserId) : Cmd → Prop
  | .setLock user _ | .setLockValue user _ | .getLockValue user _ | .evalUnlock user _ _
  | .delLockValue user => user = userId
  | _ => False

def Cmd.Within (roomId : RoomId) : Cmd → Prop
  | .getBattle room | .setBattle room _ _ | .setInterval room _ | .clearInterval room _
  | .rate room _ => room = roomId
  | _ => True

theorem Cmd.Quiet.within (quiet : cmd.Quiet) (roomId : RoomId) :
    cmd.Within roomId := by
  cases cmd <;> simp_all [Cmd.Quiet, Cmd.Within]

theorem Cmd.Locking.within (locking : cmd.Locking userId)
    (roomId : RoomId) : cmd.Within roomId := by
  cases cmd <;> simp_all [Cmd.Locking, Cmd.Within]

theorem Cmd.Quiet.stores (quiet : cmd.Quiet) (roomId : RoomId) :
    cmd.stores roomId = none := by
  cases cmd <;> first | rfl | exact absurd quiet not_false

theorem Cmd.Locking.stores (locking : cmd.Locking userId)
    (roomId : RoomId) : cmd.stores roomId = none := by
  cases cmd <;> first | rfl | exact absurd locking not_false

section Programs

variable {Holds : (α : Type) → Prog α → Prop} {allowed : Cmd → Prop} {α β : Type}
  {program : Prog α} {roomId : RoomId}

/-- A property of programs that carries over to what is composed of them. -/
structure Composes (Holds : (α : Type) → Prog α → Prop) : Prop where
  done : ∀ {α : Type} (value : α), Holds α (.done value)
  bind : ∀ {α β : Type} {program : Prog α} {next : α → Prog β}, Holds α program →
    (∀ value, Holds β (next value)) → Holds β (program >>= next)

theorem uses_composes (allowed : Cmd → Prop) : Composes fun _ program => program.Uses allowed :=
  ⟨fun _ => trivial, uses_bind⟩

theorem Composes.of_uses (composes : Composes Holds)
    (requests : ∀ cmd, allowed cmd → Holds _ (request cmd)) (uses : program.Uses allowed) :
    Holds α program := by
  induction program with
  | done value => exact composes.done value
  | issue cmd _ ih =>
    exact composes.bind (requests cmd uses.1) fun reply => ih reply (uses.2 reply)

theorem Composes.promiseAll {first : Prog (Except Failure α)} {second : Prog (Except Failure β)}
    (composes : Composes Holds) (order : Holds _ (request .order)) (firstHolds : Holds _ first)
    (secondHolds : Holds _ second) : Holds _ (promiseAll first second) := by
  apply composes.bind order
  intro reply
  split
  · apply composes.bind firstHolds
    intro _
    exact composes.bind secondHolds fun _ => composes.done _
  · apply composes.bind secondHolds
    intro _
    exact composes.bind firstHolds fun _ => composes.done _

theorem quiet_of_plain (plain : program.Uses Cmd.Plain) : program.Uses Cmd.Quiet :=
  uses_mono plain fun _ => Cmd.Plain.quiet

theorem getUserById_plain (userId : UserId) : (getUserById userId).Uses Cmd.Plain :=
  ⟨trivial, fun _ => trivial⟩

theorem getUsers_plain (first second : UserId) :
    (promiseAll (getUserById first) (getUserById second)).Uses Cmd.Plain :=
  (uses_composes Cmd.Plain).promiseAll (uses_perform trivial) (getUserById_plain first)
    (getUserById_plain second)

theorem getUsers_quiet (first second : UserId) :
    (promiseAll (getUserById first) (getUserById second)).Uses Cmd.Quiet :=
  quiet_of_plain (getUsers_plain first second)

theorem getProblemData_quiet (problemId : ProblemId) :
    (getProblemData problemId).Uses Cmd.Quiet := by
  apply uses_perform_bind trivial
  intro _
  split
  · split <;> trivial
  · trivial
  · trivial

theorem saveSubmission_plain (submit : SubmitRequest) (state : BattleState)
    (summary : JudgeSummary) (damage : ℤ) :
    (saveSubmission submit state summary damage).Uses Cmd.Plain := by
  simp only [saveSubmission]
  split
  · trivial
  · split
    · trivial
    · exact ⟨trivial, fun _ => trivial⟩

theorem saveSubmission_quiet (submit : SubmitRequest) (state : BattleState)
    (summary : JudgeSummary) (damage : ℤ) :
    (saveSubmission submit state summary damage).Uses Cmd.Quiet :=
  quiet_of_plain (saveSubmission_plain submit state summary damage)

theorem grantAll_plain (userId : UserId) (stats : AchievementStats) (earnedIds : List String)
    (achievements : List Achievement) :
    (grantAll userId stats earnedIds achievements).Uses Cmd.Plain := by
  induction achievements with
  | nil => trivial
  | cons _ _ ih =>
    simp only [grantAll]
    split
    · apply uses_perform_bind trivial
      intro _
      split
      · exact uses_bind ih fun _ => trivial
      · exact ih
    · exact ih

theorem checkAndGrant_plain (userId : UserId) (stats : AchievementStats) :
    (checkAndGrant userId stats).Uses Cmd.Plain := by
  apply uses_perform_bind trivial
  intro _
  split
  · trivial
  · exact uses_bind (grantAll_plain _ _ _ _) fun _ => trivial

theorem announceCountdown_quiet (roomId : RoomId) :
    (announceCountdown roomId).Uses Cmd.Quiet := by
  apply uses_perform_bind trivial
  intro _
  apply uses_perform_bind trivial
  intro _
  exact uses_perform trivial

theorem acquireDistributedLock_locking (userId : UserId) (self : ℕ) :
    (acquireDistributedLock userId self).Uses (Cmd.Locking userId) := by
  apply uses_perform_bind (by rfl)
  intro _
  split
  · exact uses_perform_bind (by rfl) fun _ => trivial
  · trivial

theorem releaseDistributedLock_locking (userId : UserId) (self : ℕ) :
    (releaseDistributedLock userId self).Uses (Cmd.Locking userId) := by
  apply uses_perform_bind (by rfl)
  intro _
  split
  · trivial
  · exact uses_perform_bind (by rfl) fun _ => uses_perform (by rfl)

/-- What settles an ended battle, with messages to its room only. -/
structure PermitsEnding (Holds : (α : Type) → Prog α → Prop) (roomId : RoomId) : Prop extends
    Composes Holds where
  plain : ∀ cmd, cmd.Plain → Holds _ (request cmd)
  announces : ∀ message, Holds _ (request (.emit (.room roomId) message))
  rates : ∀ effect, Holds _ (request (.rate roomId effect))

theorem settleBattle_holds (permits : PermitsEnding Holds roomId) (powTen : ℚ → ℚ)
    (state : BattleState) (winnerId loserId : UserId) :
    Holds _ (settleBattle powTen roomId state winnerId loserId) := by
  apply permits.bind (permits.of_uses permits.plain (getUsers_plain _ _))
  intro _
  split
  · exact permits.done _
  apply permits.bind (permits.promiseAll (permits.plain _ (by trivial)) (permits.rates _)
    (permits.rates _))
  intro _
  split
  · exact permits.done _
  apply permits.bind (permits.plain _ (by trivial))
  intro _
  apply permits.bind (permits.of_uses permits.plain (getUserById_plain _))
  intro _
  split
  · exact permits.done _
  apply permits.bind (permits.of_uses permits.plain (checkAndGrant_plain _ _))
  intro _
  split
  · exact permits.done _
  apply permits.bind (permits.rates _)
  intro _
  split
  · exact permits.done _
  apply permits.bind (permits.rates _)
  intro _
  split
  · exact permits.done _
  apply permits.bind (permits.announces _)
  intro _
  exact permits.bind (permits.plain (.deleteLater _) trivial) fun _ => permits.done _

theorem endBattle_holds (permits : PermitsEnding Holds roomId)
    (saves : ∀ state strike, Holds _ (saveBattleState roomId state strike)) (powTen : ℚ → ℚ)
    (state : BattleState) (winner : Option UserId) :
    Holds _ (endBattle powTen roomId state winner) := by
  apply permits.bind (saves _ _)
  intro _
  exact permits.bind (settleBattle_holds permits _ _ _ _) fun _ => permits.done _

/-- What the calls of a room do, but for locks and its interval. -/
structure PermitsRoom (Holds : (α : Type) → Prog α → Prop) (roomId : RoomId) : Prop extends
    Composes Holds where
  quiet : ∀ cmd, cmd.Quiet → Holds _ (request cmd)
  rates : ∀ effect, Holds _ (request (.rate roomId effect))
  saves : ∀ state strike, Holds _ (saveBattleState roomId state strike)
  reads : Holds _ (request (.getBattle roomId))

theorem PermitsRoom.endBattle (permits : PermitsRoom Holds roomId) (powTen : ℚ → ℚ)
    (state : BattleState) (winner : Option UserId) :
    Holds _ (endBattle powTen roomId state winner) :=
  endBattle_holds ⟨permits.toComposes, fun cmd plain => permits.quiet cmd plain.quiet,
    fun _ => permits.quiet _ (by trivial), permits.rates⟩ permits.saves powTen state winner

end Programs

section Bodies

variable {Holds : (α : Type) → Prog α → Prop} {allowed : Cmd → Prop} {submit : SubmitRequest}
  {roomId : RoomId}

theorem announceResult_holds (permits : PermitsRoom Holds submit.roomId) (powTen : ℚ → ℚ)
    (state : BattleState) (summary : JudgeSummary) (damage : ℤ) :
    Holds _ (announceResult powTen submit state summary damage) := by
  apply permits.bind (permits.of_uses permits.quiet (getUsers_quiet _ _))
  intro _
  split
  · exact permits.done _
  apply permits.bind (permits.quiet _ (by trivial))
  intro _
  apply permits.bind (permits.quiet _ (by trivial))
  intro _
  apply permits.bind (permits.of_uses permits.quiet (saveSubmission_quiet _ _ _ _))
  intro _
  split
  · exact permits.bind (permits.endBattle _ _ _) fun _ => permits.done _
  · exact permits.done _

theorem resetJudging_holds (permits : PermitsRoom Holds submit.roomId) :
    Holds _ (resetJudging submit) := by
  apply permits.bind (permits.quiet _ (by trivial))
  intro _
  apply permits.bind permits.reads
  intro _
  split
  · exact permits.done _
  split
  · exact permits.bind (permits.saves _ _) fun _ => permits.done _
  · exact permits.done _

theorem judgeSubmission_holds (permits : PermitsRoom Holds submit.roomId) {self : ℕ}
    (release : Holds _ (releaseDistributedLock submit.userId self)) (powTen : ℚ → ℚ)
    (state : BattleState) : Holds _ (judgeSubmission powTen submit self state) := by
  apply permits.bind (permits.saves _ _)
  intro _
  apply permits.bind (permits.quiet _ (by trivial))
  intro _
  apply permits.bind (permits.quiet _ (by trivial))
  intro _
  apply permits.bind (permits.of_uses permits.quiet (getProblemData_quiet _))
  intro _
  split
  · apply permits.bind (permits.quiet _ (by trivial))
    intro _
    split
    · exact permits.done _
    apply permits.bind (permits.quiet _ (by trivial))
    intro _
    apply permits.bind (permits.saves _ _)
    intro judged
    exact announceResult_holds permits powTen judged _ _
  · apply permits.bind (permits.quiet _ (by trivial))
    intro _
    apply permits.bind (permits.saves _ _)
    intro _
    exact permits.bind release fun _ => permits.done _

theorem handleSubmit_holds (permits : PermitsRoom Holds submit.roomId)
    (locking : ∀ cmd, cmd.Locking submit.userId → Holds _ (request cmd)) (powTen : ℚ → ℚ)
    (self : ℕ) : Holds _ (handleSubmit powTen submit self) := by
  have release := permits.of_uses locking (releaseDistributedLock_locking submit.userId self)
  have refusal (text : String) : Holds _ (refuse submit self text) := by
    apply permits.bind release
    intro _
    exact permits.bind (permits.quiet (.emit _ _) trivial) fun _ => permits.done _
  apply permits.bind
  · apply permits.bind
      (permits.of_uses locking (acquireDistributedLock_locking submit.userId self))
    intro _
    split
    · apply permits.bind permits.reads
      intro _
      split
      · exact refusal _
      · split
        · exact refusal _
        · split
          · exact refusal _
          · exact judgeSubmission_holds permits release _ _
    · exact permits.bind (permits.quiet (.emit _ _) trivial) fun _ => permits.done _
  · intro _
    split
    · exact release
    · exact permits.bind (resetJudging_holds permits) fun _ => release

theorem startCountdown_holds (permits : PermitsRoom Holds roomId) :
    Holds _ (startCountdown roomId) := by
  apply permits.bind permits.reads
  intro _
  split
  · exact permits.done _
  split
  · exact permits.done _
  apply permits.bind (permits.saves _ _)
  intro _
  apply permits.bind (permits.of_uses permits.quiet (announceCountdown_quiet _))
  intro _
  apply permits.bind (permits.quiet _ (by trivial))
  intro _
  apply permits.bind (permits.saves _ _)
  intro _
  exact permits.quiet (.emit _ _) trivial

/-- The timers write to a room in their own way. -/
theorem body_holds (powTen : ℚ → ℚ) (self : ℕ) {call : Call}
    (permits : PermitsRoom Holds call.roomId)
    (locking : ∀ submit, call = .submit submit →
      ∀ cmd, cmd.Locking submit.userId → Holds _ (request cmd))
    (creates : ∀ player1Id player2Id problem now matchId, Holds _ (matchTimers call.roomId
      (openingState player1Id player2Id problem now matchId) problem))
    (ticks : ∀ roomId, call = .timerTick roomId → Holds _ (timerTick roomId)) :
    Holds _ (body powTen self call) := by
  cases call with
  | submit submit => exact handleSubmit_holds permits (locking submit rfl) powTen self
  | forfeit =>
    apply permits.bind permits.reads
    intro _
    split
    · exact permits.quiet (.emit _ _) trivial
    · split
      · exact permits.quiet (.emit _ _) trivial
      · exact permits.endBattle _ _ _
  | ready => exact startCountdown_holds permits
  | graceTimeout =>
    apply permits.bind permits.reads
    intro _
    split
    · exact permits.quiet (.delGrace _) trivial
    · split
      · apply permits.bind (permits.endBattle _ _ _)
        intro _
        exact permits.quiet (.delGrace _) trivial
      · exact permits.quiet (.delGrace _) trivial
  | createMatch => exact creates _ _ _ _ _
  | timerTick roomId => exact ticks roomId rfl

/-- The commands that calls of a room issue, but for locks and the end of its interval. -/
structure AllowsRoom (allowed : Cmd → Prop) (roomId : RoomId) : Prop where
  quiet : ∀ cmd, cmd.Quiet → allowed cmd
  rates : ∀ effect, allowed (.rate roomId effect)
  stores : ∀ state strike, allowed (.setBattle roomId state strike)
  reads : allowed (.getBattle roomId)
  sets : ∀ timeLimitSec, allowed (.setInterval roomId timeLimitSec)

theorem AllowsRoom.permits (allows : AllowsRoom allowed roomId) :
    PermitsRoom (fun _ program => program.Uses allowed) roomId where
  toComposes := uses_composes allowed
  quiet cmd quiet := uses_perform (allows.quiet cmd quiet)
  rates effect := uses_perform (allows.rates effect)
  saves _ _ := uses_perform_bind (allows.quiet _ (by trivial)) fun _ =>
    uses_perform_bind (allows.stores _ _) fun _ => trivial
  reads := uses_perform allows.reads

theorem matchTimers_uses (allows : AllowsRoom allowed roomId)
    (state : BattleState) (problem : Problem) :
    (matchTimers roomId state problem).Uses allowed := by
  apply uses_perform_bind (allows.stores _ _)
  intro _
  apply uses_bind (uses_mono (announceCountdown_quiet _) allows.quiet)
  intro _
  apply uses_perform_bind (allows.quiet _ (by trivial))
  intro _
  apply uses_perform_bind (allows.stores _ _)
  intro _
  apply uses_perform_bind (allows.quiet _ (by trivial))
  intro _
  exact uses_perform (allows.sets _)

theorem timerTick_uses (allows : AllowsRoom allowed roomId)
    (clears : ∀ save, allowed (.clearInterval roomId save)) :
    (timerTick roomId).Uses allowed := by
  apply uses_perform_bind allows.reads
  intro _
  split
  · exact uses_perform (clears _)
  split
  · exact uses_perform (clears _)
  apply uses_perform_bind (allows.quiet _ (by trivial))
  intro _
  apply uses_perform_bind (allows.quiet _ (by trivial))
  intro _
  apply uses_bind
  · split
    · exact uses_perform (allows.quiet _ (by trivial))
    · trivial
  · intro _
    split
    · apply uses_perform_bind (clears _)
      intro _
      exact uses_perform (allows.quiet _ (by trivial))
    · trivial

theorem body_uses (powTen : ℚ → ℚ) (self : ℕ) {call : Call}
    (allows : AllowsRoom allowed call.roomId)
    (locking : ∀ submit, call = .submit submit →
      ∀ cmd, cmd.Locking submit.userId → allowed cmd)
    (clears : ∀ roomId, call = .timerTick roomId →
      ∀ save, allowed (.clearInterval roomId save)) :
    (body powTen self call).Uses allowed := by
  refine body_holds powTen self allows.permits
    (fun submit isSubmit cmd locks => uses_perform (locking submit isSubmit cmd locks))
    (fun _ _ _ _ _ => matchTimers_uses allows _ _) ?_
  rintro roomId rfl
  exact timerTick_uses allows (clears roomId rfl)

theorem body_within (powTen : ℚ → ℚ) (self : ℕ) (call : Call) :
    (body powTen self call).Uses (Cmd.Within call.roomId) := by
  apply body_uses
  · exact
      { quiet := fun _ quiet => quiet.within call.roomId
        stores := fun _ _ => rfl
        rates := fun _ => rfl
        reads := rfl
        sets := fun _ => rfl }
  · intro _ _ _ locking
    exact locking.within call.roomId
  · intro _ _ _
    subst call
    rfl

end Bodies

end CodeClash.Battle
