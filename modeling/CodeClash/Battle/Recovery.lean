import CodeClash.Async.Embedding
import CodeClash.Battle.Heartbeat

/-!
# Recovery after a crash

When the server starts, `checkOrphanedBattles` ends the stored battles that are ACTIVE with a
heartbeat more than two minutes old. No timer survives a restart, so a battle that it does not end
stays as it is.
-/

namespace CodeClash.Recovery

open Async
open Battle (RoomId UserId BattleState)

inductive Cmd where
  | battleKeys
  | notify (userId : UserId) (reason message : String)
  | battle (cmd : Battle.Cmd)

abbrev Cmd.Reply : Cmd → Type
  | .battleKeys => List RoomId
  | .notify _ _ _ => Unit
  | .battle cmd => cmd.Reply

abbrev signature : Signature where
  Cmd := Cmd
  Reply := Cmd.Reply

abbrev Prog (α : Type) := Program signature α

abbrev request (cmd : Cmd) : Prog cmd.Reply := @Program.perform signature cmd

abbrev battleService {α : Type} (program : Battle.Prog α) : Prog α :=
  @Program.embed Battle.signature signature α .battle (fun _ reply => reply) program

structure Store where
  battle : Battle.Store
  online : UserId → Bool
  sent : List (UserId × String × String)

structure Choice where
  rooms : List RoomId
  battle : Battle.Choice

def handle (cmd : Cmd) (choice : Choice) (store : Store) : cmd.Reply × Store :=
  match cmd with
  | .battleKeys =>
    (choice.rooms.filter fun roomId => (store.battle.battles roomId).isSome, store)
  | .notify userId reason message =>
    ((), if store.online userId then
      { store with sent := (userId, reason, message) :: store.sent } else store)
  | .battle cmd =>
    let answer := Battle.handle cmd choice.battle store.battle
    (answer.1, { store with battle := answer.2 })

def heartbeatTimeout : ℤ := 2 * 60 * 1000

/-- The expression `lastHeartbeat && now - lastHeartbeat > heartbeatTimeout`. -/
def heartbeatExpired (now : ℤ) (state : BattleState) : Bool :=
  match state.lastHeartbeat with
  | some heartbeat => heartbeat ≠ 0 ∧ now - heartbeat > heartbeatTimeout
  | none => false

def isOrphaned (now : ℤ) (state : BattleState) : Bool :=
  state.status = .active ∧ heartbeatExpired now state

def forfeited (state : BattleState) : BattleState :=
  { state with hp1 := 0, hp2 := 0, status := .ended }

def recoverBattle (roomId : RoomId) (state : BattleState) : Prog Unit := do
  let _ ← battleService (Battle.saveBattleState roomId (forfeited state) none)
  request (.notify state.player1Id "server_crash" "Battle ended due to server restart")
  request (.notify state.player2Id "server_crash" "Battle ended due to server restart")

def checkBattle (now : ℤ) (roomId : RoomId) : Prog Unit := do
  match ← battleService (Battle.getBattleState roomId) with
  | none => return ()
  | some state => if isOrphaned now state then recoverBattle roomId state else return ()

def checkBattles (now : ℤ) : List RoomId → Prog Unit
  | [] => return ()
  | roomId :: rooms => do
      checkBattle now roomId
      checkBattles now rooms

def checkOrphanedBattles : Prog Unit := do
  let battleKeys ← request .battleKeys
  let now ← request (.battle .now)
  checkBattles now battleKeys

def runAlone {α : Type} (choices : ℕ → Choice) (program : Prog α) (store : Store) : Store :=
  (program.run handle (fun _ store => store) choices store).2

section Recovering

variable {choices : ℕ → Choice} {store : Store} {roomId room : RoomId} {state : BattleState}
  {now : ℤ}

theorem notify_battle (userId : UserId) (reason message : String) (choice : Choice) :
    (handle (.notify userId reason message) choice store).2.battle = store.battle := by
  simp only [handle]
  split <;> rfl

theorem recoverBattle_battle :
    (runAlone choices (recoverBattle room state) store).battle =
      store.battle.save room ((forfeited state).stamped (choices 0).battle.now) none := by
  change (handle _ _ (handle _ _ _).2).2.battle = _
  rw [notify_battle, notify_battle]
  rfl

theorem checkBattle_absent (absent : store.battle.battles room = none) :
    runAlone choices (checkBattle now room) store = store := by
  change runAlone _ (match store.battle.battles room with
    | none => return ()
    | some state => if isOrphaned now state then recoverBattle room state else return ()) store = _
  rw [absent]
  rfl

theorem checkBattle_found (found : store.battle.battles room = some state) :
    runAlone choices (checkBattle now room) store =
      if isOrphaned now state then
        runAlone (fun n => choices (n + 1)) (recoverBattle room state) store
      else store := by
  change runAlone _ (match store.battle.battles room with
    | none => return ()
    | some state => if isOrphaned now state then recoverBattle room state else return ()) store = _
  rw [found]
  simp only
  split <;> rfl

theorem checkBattle_other (other : room ≠ roomId ∨
      ∀ state, store.battle.battles roomId = some state → isOrphaned now state = false) :
    (runAlone choices (checkBattle now room) store).battle.battles roomId =
      store.battle.battles roomId := by
  cases found : store.battle.battles room with
  | none => rw [checkBattle_absent found]
  | some state =>
    rw [checkBattle_found found]
    split
    next orphaned =>
      have differs : room ≠ roomId := by
        rcases other with differs | alive
        · exact differs
        · rintro rfl
          rw [alive state found] at orphaned
          cases orphaned
      rw [recoverBattle_battle]
      exact Function.update_of_ne (Ne.symm differs) _ _
    next => rfl

theorem checkBattle_orphaned (found : store.battle.battles roomId = some state)
    (orphaned : isOrphaned now state = true) :
    ∃ final, (runAlone choices (checkBattle now roomId) store).battle.battles roomId =
      some final ∧ final.status = .ended := by
  rw [checkBattle_found found, if_pos orphaned, recoverBattle_battle]
  exact ⟨_, Function.update_self _ _ _, rfl⟩

theorem checkBattles_cons (rooms : List RoomId) :
    ∃ used, runAlone choices (checkBattles now (room :: rooms)) store =
      runAlone (fun n => choices (n + used)) (checkBattles now rooms)
        (runAlone choices (checkBattle now room) store) := by
  rcases Program.run_bind handle (checkBattle now room) (fun _ => checkBattles now rooms)
    (fun _ store => store) choices store with ⟨used, split⟩
  exact ⟨used, congrArg Prod.snd split⟩

theorem checkBattles_alive (rooms : List RoomId)
    (alive : ∀ state, store.battle.battles roomId = some state → isOrphaned now state = false) :
    (runAlone choices (checkBattles now rooms) store).battle.battles roomId =
      store.battle.battles roomId := by
  induction rooms generalizing store choices with
  | nil => rfl
  | cons room rooms ih =>
    rcases checkBattles_cons rooms with ⟨_, split⟩
    have same := @checkBattle_other choices store roomId room now (Or.inr alive)
    rw [split, ih, same]
    rw [same]
    exact alive

theorem checkBattles_orphaned {rooms : List RoomId} (listed : roomId ∈ rooms)
    (found : store.battle.battles roomId = some state) (orphaned : isOrphaned now state = true) :
    ∃ final, (runAlone choices (checkBattles now rooms) store).battle.battles roomId =
      some final ∧ final.status = .ended := by
  induction rooms generalizing store choices with
  | nil => cases listed
  | cons room rooms ih =>
    rcases @checkBattles_cons choices store room now rooms with ⟨_, split⟩
    rw [split]
    by_cases same : room = roomId
    · subst room
      rcases @checkBattle_orphaned choices store roomId state now found orphaned with
        ⟨final, stored, ended⟩
      refine ⟨final, ?_, ended⟩
      rw [checkBattles_alive, stored]
      intro other isStored
      obtain rfl : final = other := Option.some.inj (stored.symm.trans isStored)
      simp [isOrphaned, ended]
    · apply ih
      · exact (List.mem_cons.mp listed).resolve_left (Ne.symm same)
      · rw [checkBattle_other (Or.inl same)]
        exact found

theorem checkOrphanedBattles_ended_iff (listed : roomId ∈ (choices 0).rooms)
    (found : store.battle.battles roomId = some state) :
    (∃ final, (runAlone choices checkOrphanedBattles store).battle.battles roomId = some final ∧
        final.status = .ended) ↔
      state.status = .ended ∨ isOrphaned (choices 1).battle.now state = true := by
  have whole : runAlone choices checkOrphanedBattles store =
      runAlone (fun n => choices (n + 2)) (checkBattles (choices 1).battle.now
        ((choices 0).rooms.filter fun room => (store.battle.battles room).isSome)) store := rfl
  rw [whole]
  cases orphaned : isOrphaned (choices 1).battle.now state with
  | true =>
    refine iff_of_true (checkBattles_orphaned ?_ found orphaned) (Or.inr rfl)
    exact List.mem_filter.mpr ⟨listed, by rw [found]; rfl⟩
  | false =>
    rw [checkBattles_alive, found]
    · simp
    · intro other isStored
      obtain rfl : state = other := Option.some.inj (found.symm.trans isStored)
      exact orphaned

end Recovering

def Recoverable (state : BattleState) : Prop :=
  state.status = .ended ∨
    state.status = .active ∧ ∃ heartbeat, state.lastHeartbeat = some heartbeat ∧ heartbeat ≠ 0

theorem isOrphaned_iff {now written : ℤ} {state : BattleState} (stamped : state.StampedBy written)
    (late : written + heartbeatTimeout < now) :
    isOrphaned now state = true ↔ state.status = .active ∧
      ∃ heartbeat, state.lastHeartbeat = some heartbeat ∧ heartbeat ≠ 0 := by
  rw [isOrphaned, decide_eq_true_iff]
  apply and_congr_right
  intro _
  rw [heartbeatExpired]
  cases has : state.lastHeartbeat with
  | none => simp
  | some heartbeat =>
    have expired : now - heartbeat > heartbeatTimeout := by
      have := stamped heartbeat has
      omega
    simp [expired]

/--
A server stops in any state of any run. If the recovery starts more than two minutes after the
last write of a room, the battle that is stored there is ENDED afterwards exactly if it was
ENDED, or ACTIVE with a heartbeat.
-/
theorem recovery_ends_battle_iff {powTen : ℚ → ℚ} {users : UserId → Option Battle.User}
    {moment : ℤ} {stopped : Battle.TimedState}
    (reached : (Battle.timedServer powTen).Reaches Battle.Forward (Battle.freshTimed users moment)
      stopped) {roomId : RoomId} {state : BattleState}
    (stored : stopped.store.store.battles roomId = some state) {choices : ℕ → Choice}
    {store : Store} (kept : store.battle.battles roomId = stopped.store.store.battles roomId)
    (listed : roomId ∈ (choices 0).rooms)
    (late : stopped.store.written roomId + heartbeatTimeout < (choices 1).battle.now) :
    (∃ final, (runAlone choices checkOrphanedBattles store).battle.battles roomId = some final ∧
        final.status = .ended) ↔ Recoverable state := by
  have stamped := (Battle.timely_of_reaches reached).stored roomId state stored
  rw [checkOrphanedBattles_ended_iff listed (kept.trans stored), isOrphaned_iff stamped late,
    Recoverable]

def restarted (battle : Battle.Store) : Store where
  battle := battle
  online := fun _ => false
  sent := []

def hourLater : Choice where
  rooms := ["r"]
  battle := { (default : Battle.Choice) with now := 3600000 }

/-- A battle in which nothing has been submitted is not ended by the recovery. -/
theorem started_battle_is_not_recovered :
    ∃ stopped, (Battle.timedServer fun _ => 1).Reaches Battle.Forward
        (Battle.freshTimed Battle.newcomer 0) stopped ∧
      stopped.store.written "r" + heartbeatTimeout < hourLater.battle.now ∧
      (runAlone (fun _ => hourLater) checkOrphanedBattles
        (restarted stopped.store.store)).battle.battles "r" =
          some (Battle.activeBattle 500 500) := by
  apply Server.exists_reaches [0] (fun state action => Battle.Forward state action)
    Battle.startMatch
  · intro _ _ _ checked
    exact of_decide_eq_true checked
  · intro _ _
    rfl
  · decide

/-- The match is started by its players and not by the timers of `createMatch`. -/
def readyMatch : List Battle.ServerAction :=
  [.start 0 (.createMatch "r" "a" "b" Battle.sampleProblem 0 none), .start 1 (.ready "r")] ++
    List.replicate 10 (.advance 1 { (default : Battle.Choice) with now := 1000 })

theorem stamped_battle_is_recovered :
    ∃ stopped, (Battle.timedServer fun _ => 1).Reaches Battle.Forward
        (Battle.freshTimed Battle.newcomer 0) stopped ∧
      ∃ final, (runAlone (fun _ => hourLater) checkOrphanedBattles
        (restarted stopped.store.store)).battle.battles "r" = some final ∧
          final.status = .ended := by
  let battle : BattleState :=
    { Battle.activeBattle 500 500 with startTimestamp := 1000, lastHeartbeat := some 1000 }
  have run : ∃ stopped, (Battle.timedServer fun _ => 1).Reaches Battle.Forward
      (Battle.freshTimed Battle.newcomer 0) stopped ∧
        stopped.store.store.battles "r" = some battle ∧
          stopped.store.written "r" + heartbeatTimeout < hourLater.battle.now := by
    apply Server.exists_reaches [0, 1] (fun state action => Battle.Forward state action)
      readyMatch
    · intro _ _ _ checked
      exact of_decide_eq_true checked
    · intro _ _
      rfl
    · decide
  rcases run with ⟨stopped, reached, stored, late⟩
  have recoverable : Recoverable battle := Or.inr ⟨rfl, 1000, rfl, by decide⟩
  exact ⟨stopped, reached, (recovery_ends_battle_iff reached stored rfl
    (List.mem_singleton.mpr rfl) late).mpr recoverable⟩

end CodeClash.Recovery
