import CodeClash.Battle.Footprint

/-!
# Heartbeats

The battle service stamps a state with the time whenever it saves one. The timers of `createMatch`
store states that were never stamped, and the callback of the interval keeps the old stamp. The
battle server gets a clock here and remembers when each room was written last.
-/

namespace CodeClash.Battle

open Async Program Function

/-- The store of the server, the time of the last step, and when each room was written last. -/
structure TimedStore where
  store : Store
  now : ℤ
  written : RoomId → ℤ

namespace TimedStore

def handle (cmd : Cmd) (choice : Choice) (timed : TimedStore) : cmd.Reply × TimedStore :=
  let answer := Battle.handle cmd choice timed.store
  (answer.1,
    { store := answer.2
      now := choice.now
      written := fun roomId =>
        if (cmd.stores roomId).isSome then choice.now else timed.written roomId })

def accept (call : Call) (timed : TimedStore) : Option TimedStore :=
  (Battle.accept call timed.store).map fun store =>
    match call with
    | .createMatch roomId _ _ _ now _ =>
      { store := store, now := now, written := update timed.written roomId now }
    | _ => { timed with store := store }

def happen (event : Environment) (timed : TimedStore) : Option TimedStore :=
  (Battle.happen event timed.store).map fun store => { timed with store := store }

end TimedStore

def timedServer (powTen : ℚ → ℚ) : Server signature TimedStore Call Choice Environment where
  handle := TimedStore.handle
  accept := TimedStore.accept
  body := body powTen
  happen := TimedStore.happen

abbrev TimedState := State signature TimedStore Call

def Forward (state : TimedState) : ServerAction → Prop
  | .advance _ choice => state.store.now ≤ choice.now
  | .start _ (.createMatch _ _ _ _ now _) => state.store.now ≤ now
  | _ => True

instance (state : TimedState) : (action : ServerAction) → Decidable (Forward state action)
  | .advance _ choice => inferInstanceAs (Decidable (state.store.now ≤ choice.now))
  | .start _ (.createMatch _ _ _ _ now _) => inferInstanceAs (Decidable (state.store.now ≤ now))
  | .start _ (.submit _) | .start _ (.forfeit _ _) | .start _ (.ready _)
  | .start _ (.graceTimeout _ _) | .start _ (.timerTick _) | .happen _ => isTrue trivial

def freshTimed (users : UserId → Option User) (moment : ℤ) : TimedState where
  store := { store := (freshServer users).store, now := moment, written := fun _ => moment }
  processes := fun _ => none

def BattleState.StampedBy (moment : ℤ) (state : BattleState) : Prop :=
  ∀ heartbeat, state.lastHeartbeat = some heartbeat → heartbeat ≤ moment

theorem BattleState.StampedBy.mono {earlier later : ℤ} {state : BattleState}
    (stamped : state.StampedBy earlier) (le : earlier ≤ later) : state.StampedBy later :=
  fun heartbeat has => (stamped heartbeat has).trans le

/-- The latest moment a call knows of. Heartbeats it stores are not later. -/
def stamping : Protocol signature ℤ where
  allows moment cmd := ∀ roomId saved, cmd.stores roomId = some saved → saved.1.StampedBy moment
  expects _ _ _ := True
  after moment cmd reply :=
    match cmd, reply with
    | .now, now => max moment now
    | .getBattle _, found => max moment ((found.bind BattleState.lastHeartbeat).getD moment)
    | _, _ => moment

def Stamps {α : Type} (program : Prog α) : Prop :=
  ∀ moment, program.Obeys stamping (fun _ _ => True) moment

def Cmd.StoresNothing (cmd : Cmd) : Prop := ∀ roomId, cmd.stores roomId = none

section Stamping

variable {α β : Type} {roomId : RoomId} {state : BattleState} {cmd : Cmd} {program : Prog α}

theorem stamping_allows {moment : ℤ} (nothing : cmd.StoresNothing) :
    stamping.allows moment cmd := by
  intro roomId _ stored
  rw [nothing roomId] at stored
  cases stored

theorem stamps_bind {next : α → Prog β} (first : Stamps program)
    (rest : ∀ value, Stamps (next value)) : Stamps (program >>= next) :=
  fun moment => (first moment).bind_of_forall fun reached value => rest value reached

theorem stamps_done (value : α) : Stamps (.done value : Prog α) := fun _ => trivial

theorem stamps_request {next : cmd.Reply → Prog β} (nothing : cmd.StoresNothing)
    (rest : ∀ reply, Stamps (next reply)) : Stamps (request cmd >>= next) :=
  fun _ => ⟨stamping_allows nothing, fun reply _ => rest reply _⟩

theorem stamps_of_uses (uses : program.Uses Cmd.StoresNothing) :
    Stamps program := by
  induction program with
  | done value => exact stamps_done value
  | issue _ _ ih => exact stamps_request uses.1 fun reply => ih reply (uses.2 reply)

theorem stamps_quiet (quiet : program.Uses Cmd.Quiet) : Stamps program :=
  stamps_of_uses (uses_mono quiet fun _ quiet => quiet.stores)

theorem stamps_one (nothing : cmd.StoresNothing) : Stamps (request cmd) :=
  stamps_of_uses (uses_perform nothing)

theorem saveBattleState_stamps (roomId : RoomId) (state : BattleState) (strike : Option Strike) :
    Stamps (saveBattleState roomId state strike) := by
  intro moment
  refine obeys_perform_bind (stamping_allows fun _ => rfl) ?_
  intro now _
  refine obeys_perform_bind ?_ fun _ _ => trivial
  intro _ _ stored _ has
  simp only [Cmd.stores] at stored
  split at stored
  · cases stored
    cases has
    exact le_max_right moment now
  · cases stored

theorem stamps_unstamped {strike : Option Strike} {next : Unit → Prog β}
    (unstamped : state.lastHeartbeat = none) (rest : ∀ reply, Stamps (next reply)) :
    Stamps (request (.setBattle roomId state strike) >>= next) := by
  intro _
  refine obeys_perform_bind ?_ fun reply _ => rest reply _
  intro _ _ stored _ has
  simp only [Cmd.stores] at stored
  split at stored
  · cases stored
    cases unstamped.symm.trans has
  · cases stored

theorem permitsRoom_stamps (roomId : RoomId) :
    PermitsRoom (fun _ program => Stamps program) roomId where
  done := stamps_done
  bind := stamps_bind
  quiet _ quiet := stamps_one quiet.stores
  rates _ := stamps_one fun _ => rfl
  saves := saveBattleState_stamps roomId
  reads := stamps_one fun _ => rfl

theorem matchTimers_stamps (roomId : RoomId) (problem : Problem)
    (unstamped : state.lastHeartbeat = none) : Stamps (matchTimers roomId state problem) := by
  refine stamps_unstamped unstamped ?_
  intro _
  apply stamps_bind (stamps_quiet (announceCountdown_quiet _))
  intro _
  apply stamps_request fun _ => rfl
  intro _
  refine stamps_unstamped unstamped ?_
  intro _
  apply stamps_request fun _ => rfl
  intro _
  exact stamps_one fun _ => rfl

theorem timerTick_stamps (roomId : RoomId) : Stamps (timerTick roomId) := by
  intro moment
  refine obeys_perform_bind (stamping_allows fun _ => rfl) ?_
  intro _ _
  split
  · exact stamps_one (fun _ => rfl) _
  rename_i state _
  split
  · exact stamps_one (fun _ => rfl) _
  have stamped : state.StampedBy (stamping.after moment (.getBattle roomId) (some state)) := by
    intro heartbeat has
    simp only [stamping, Option.bind_some, has, Option.getD_some]
    exact le_max_right moment heartbeat
  refine obeys_perform_bind (stamping_allows fun _ => rfl) ?_
  intro timer _
  refine obeys_perform_bind (stamping_allows fun _ => rfl) ?_
  intro _ _
  have closing : (if max 0 (timer.timeLimitSec - timer.elapsedSeconds) ≤ 0 then
      timeoutBattle roomId state else return ()).Obeys stamping (fun _ _ => True)
        (stamping.after moment (.getBattle roomId) (some state)) := by
    split
    · refine obeys_perform_bind ?_ fun _ _ => stamps_one (fun _ => rfl) _
      intro _ _ stored
      simp only [Cmd.stores] at stored
      split at stored
      · cases stored
        exact stamped
      · cases stored
    · trivial
  split
  · exact obeys_perform_bind (stamping_allows fun _ => rfl) fun _ _ => closing
  · exact closing

theorem body_stamps (powTen : ℚ → ℚ) (self : ℕ) (call : Call) : Stamps (body powTen self call) :=
  body_holds powTen self (permitsRoom_stamps call.roomId)
    (fun _ _ _ locking => stamps_one locking.stores)
    (fun _ _ _ _ _ => matchTimers_stamps _ _ rfl) fun roomId _ => timerTick_stamps roomId

end Stamping

/-- No heartbeat is later than the last write of its room. -/
structure Timely (timed : TimedStore) : Prop where
  stored : ∀ roomId battle, timed.store.battles roomId = some battle →
    battle.StampedBy (timed.written roomId)
  written : ∀ roomId, timed.written roomId ≤ timed.now

section Runs

variable {powTen : ℚ → ℚ} {state next : TimedState} {action : ServerAction} {timed : TimedStore}
  {id : ℕ} {call : Call}

variable {moment : ℤ} {cmd : Cmd} {choice : Choice}

theorem after_le (known : moment ≤ choice.now)
    (stored : ∀ roomId battle, timed.store.battles roomId = some battle →
      battle.StampedBy choice.now) :
    stamping.after moment cmd (timed.handle cmd choice).1 ≤ choice.now := by
  cases cmd with
  | now => exact max_le known le_rfl
  | getBattle roomId =>
    refine max_le known ?_
    change (((timed.store.battles roomId).bind BattleState.lastHeartbeat).getD moment) ≤ _
    cases found : timed.store.battles roomId with
    | none => exact known
    | some battle =>
      cases has : battle.lastHeartbeat with
      | none => simpa [has] using known
      | some heartbeat => simpa [has] using stored roomId battle found heartbeat has
  | _ => exact known

theorem Timely.stampedBy (timely : Timely timed) (forward : timed.now ≤ choice.now)
    (roomId : RoomId) (battle : BattleState) (found : timed.store.battles roomId = some battle) :
    battle.StampedBy choice.now :=
  (timely.stored roomId battle found).mono ((timely.written roomId).trans forward)

theorem Timely.handle (timely : Timely timed) (forward : timed.now ≤ choice.now)
    (known : moment ≤ timed.now) (allowed : stamping.allows moment cmd) :
    Timely (timed.handle cmd choice).2 := by
  refine ⟨?_, ?_⟩
  · intro roomId battle found
    change (Battle.handle cmd choice timed.store).2.battles roomId = some battle at found
    rw [handle_battles] at found
    change battle.StampedBy (if (cmd.stores roomId).isSome then choice.now
      else timed.written roomId)
    cases saves : cmd.stores roomId with
    | none =>
      rw [saves] at found
      exact timely.stored roomId battle found
    | some saved =>
      rw [saves] at found
      cases found
      exact (allowed roomId saved saves).mono (known.trans forward)
  · intro roomId
    change (if (cmd.stores roomId).isSome then choice.now else timed.written roomId) ≤ choice.now
    split
    · exact le_rfl
    · exact (timely.written roomId).trans forward

theorem accept_written (forward : Forward state (.start id call))
    (accepted : state.store.accept call = some timed) :
    accept call state.store.store = some timed.store ∧ state.store.now ≤ timed.now ∧
      ∀ roomId, call.Creates roomId ∧ timed.written roomId = timed.now ∨
        ¬call.Creates roomId ∧ timed.written roomId = state.store.written roomId := by
  rcases Option.map_eq_some_iff.mp accepted with ⟨_, inner, rfl⟩
  cases call with
  | createMatch room =>
    refine ⟨inner, forward, ?_⟩
    intro roomId
    by_cases same : roomId = room
    · subst roomId
      exact Or.inl ⟨rfl, update_self _ _ _⟩
    · exact Or.inr ⟨Ne.symm same, update_of_ne same _ _⟩
  | _ => exact ⟨inner, le_rfl, fun _ => Or.inr ⟨not_false, rfl⟩⟩

theorem Timely.accept (timely : Timely state.store) (forward : Forward state (.start id call))
    (accepted : state.store.accept call = some timed) : Timely timed := by
  rcases accept_written forward accepted with ⟨inner, later, written⟩
  refine ⟨?_, ?_⟩
  · intro roomId battle found
    generalize timed.store = after at inner found
    cases accept_cases roomId inner with
    | created =>
      simp only [Store.save, update_self, Option.some.injEq] at found
      subst battle
      intro _ has
      cases has
    | other _ _ notCreate same =>
      rw [same] at found
      rcases written roomId with ⟨creates, _⟩ | ⟨_, kept⟩
      · exact absurd creates notCreate
      · exact kept ▸ timely.stored roomId battle found
  · intro roomId
    rcases written roomId with ⟨_, now⟩ | ⟨_, kept⟩
    · exact now.le
    · exact kept.le.trans ((timely.written roomId).trans later)

theorem timely_of_reaches {users : UserId → Option User}
    (reached : (timedServer powTen).Reaches Forward (freshTimed users moment) state) :
    Timely state.store := by
  refine (reached.related Timely (fun timed _ _ moment => moment ≤ timed.now) (fun _ => rfl)
    (fun id call => body_stamps powTen id call moment) ?_ ?_ ?_ ?_ ?_).1
  · intro _ _ _ _ forward accepted timely
    have later := (accept_written forward accepted).2.1
    exact ⟨timely.accept forward accepted, fun _ _ _ known => known.trans later⟩
  · intro _ _ _ _ happened timely
    rcases Option.map_eq_some_iff.mp happened with ⟨store, inner, rfl⟩
    refine ⟨⟨?_, timely.written⟩, fun _ _ _ _ known => known⟩
    intro roomId battle found
    rcases (happen_cases roomId inner).1 with gone | same
    · cases gone.symm.trans found
    · exact timely.stored roomId battle (same.symm.trans found)
  · intro _ _ _ _ _ _ forward _ allowed timely known
    exact ⟨trivial, timely.handle forward known allowed,
      after_le (known.trans forward) (timely.stampedBy forward),
      fun _ _ _ _ known => known.trans forward⟩
  · exact ⟨fun _ _ found => (nomatch found), fun _ => le_rfl⟩
  · intro _ _
    exact le_rfl

end Runs

end CodeClash.Battle
