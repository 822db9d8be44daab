import CodeClash.Api.Settling
import CodeClash.Api.Timeout
import CodeClash.Async.Ownership

/-!
# The outcome of an API battle

`endBattle` looks neither at the status of the match nor at who is passed to it. If no call
completes a match that is completed already, a match has one owner at most, and the changes of its
room are those that the owner has made.
-/

namespace CodeClash.Api.Events

open Async Function Server
open Judge (Side)

/-- The changes for a room with these players: none, those of the winner, or those of both. -/
inductive Fair (players : Side → UserId) : List Change → Prop where
  | unchanged : Fair players []
  | won (winner : Side) {gain : ℤ} (nonneg : 0 ≤ gain) : Fair players [⟨players winner, gain, 100⟩]
  | settled (winner : Side) {gain : ℤ} (nonneg : 0 ≤ gain) :
      Fair players [⟨players winner, gain, 100⟩, ⟨players winner.other, -gain, 0⟩]

def Store.seats (store : Store) : Seats := fun roomId =>
  (store.base.battles roomId).map Match.player

variable {changes : List Change}

theorem Fair.plays {players : Side → UserId} (fair : Fair players changes)
    {change : Change} (member : change ∈ changes) : ∃ side, players side = change.userId := by
  cases fair with
  | unchanged => cases member
  | won winner =>
    cases List.mem_singleton.mp member
    exact ⟨winner, rfl⟩
  | settled winner =>
    rcases List.mem_pair.mp member with rfl | rfl
    · exact ⟨winner, rfl⟩
    · exact ⟨winner.other, rfl⟩

/-- The changes of a room are fair. Without a match there are none. -/
def Outcome : Option (Side → UserId) → List Change → Prop
  | none, changes => changes = []
  | some players, changes => Fair players changes

theorem Outcome.length_le {seated : Option (Side → UserId)}
    (fair : Outcome seated changes) : changes.length ≤ 2 := by
  cases seated with
  | none =>
    rw [show changes = [] from fair]
    exact Nat.zero_le _
  | some =>
    cases fair with
    | unchanged => exact Nat.zero_le _
    | won => exact Nat.le_succ _
    | settled => exact Nat.le_refl _

def Store.FairOutcome (store : Store) (roomId : RoomId) : Prop :=
  Outcome (store.seats roomId) (store.changes roomId)

def Store.Completed (store : Store) (roomId : RoomId) : Prop :=
  (store.base.battles roomId).map Match.status = some .completed

structure Guarded (state : ServerState) (action : ServerAction) : Prop where
  uncompleted : ∀ roomId matchId result,
    state.issued action = some (.battle roomId (.completeMatch matchId result)) →
      ¬ state.store.Completed matchId
  byPlayer : ∀ id userId roomId, action = .start id (.handleForfeit userId roomId) →
    Plays state.store.seats roomId userId

structure Store.Fresh (store : Store) : Prop where
  changes : ∀ roomId, store.changes roomId = []
  timers : ∀ timer ∈ store.graceTimers, Plays store.seats timer.roomId timer.userId

def Stands (seated : Option (Side → UserId)) (completed : Prop) (changes : List Change) :
    Option Stage → Prop
  | none => Outcome seated changes ∧ (¬completed → changes = [])
  | some (.owesWinner _) => completed ∧ changes = []
  | some (.owesLoser winner gain) => completed ∧ 0 ≤ gain ∧
      ∃ players, seated = some players ∧ changes = [⟨players winner, gain, 100⟩]

/-- A room keeps its players, timers run for its players, and its changes are as its owner says. -/
structure Fits (seats : Seats) (store : Store) (roomId : RoomId) (owner : Option Stage) :
    Prop where
  seated : store.seats roomId = seats roomId
  timers : ∀ timer ∈ store.graceTimers, timer.roomId = roomId → Plays seats roomId timer.userId
  stands : Stands (seats roomId) (store.Completed roomId) (store.changes roomId) owner

section Steps

variable {seats : Seats} {before after store : Store} {roomId : RoomId} {owner : Option Stage}
  {phase : Option (RoomId × Stage)} {choice : Choice}

theorem outcome_nil (seated : Option (Side → UserId)) : Outcome seated [] := by
  cases seated with
  | none => rfl
  | some => exact .unchanged

theorem Fits.congr (fits : Fits seats before roomId owner)
    (battles : after.base.battles roomId = before.base.battles roomId)
    (changes : after.changes roomId = before.changes roomId)
    (timers : after.graceTimers ⊆ before.graceTimers) : Fits seats after roomId owner where
  seated := by
    rw [Store.seats, battles]
    exact fits.seated
  timers timer member := fits.timers timer (timers member)
  stands := by
    rw [Store.Completed, battles, changes]
    exact fits.stands

variable {cmd : Cmd} {userId : UserId} {result : MatchResult} {players : Side → UserId}

theorem Cmd.Neutral.handle_eq (neutral : cmd.Neutral) :
    (handle cmd choice store).2.base.battles = store.base.battles ∧
      (handle cmd choice store).2.changes = store.changes ∧
      (handle cmd choice store).2.graceTimers = store.graceTimers := by
  cases cmd with
  | battle _ cmd =>
    cases cmd with
    | completeMatch => exact neutral.elim
    | updateUser => exact neutral.elim
    | _ => exact ⟨rfl, rfl, rfl⟩
  | startGrace => exact neutral.elim
  | updateSpell =>
    simp only [handle]
    split <;> exact ⟨rfl, rfl, rfl⟩
  | _ => exact ⟨rfl, rfl, rfl⟩

theorem Cmd.Neutral.respects (neutral : cmd.Neutral) :
    Respects (Fits seats) store (handle cmd choice store).2 phase
      (afterReply seats phase cmd (handle cmd choice store).1) := by
  rw [neutral.after_eq]
  rcases neutral.handle_eq with ⟨battles, changes, timers⟩
  refine Respects.of_kept (fun roomId owner fits => ?_) phase
  exact fits.congr (congrFun battles roomId) (congrFun changes roomId)
    (fun _ member => timers ▸ member)

theorem startGrace_respects {side : Side} (plays : Plays seats roomId userId) :
    Respects (Fits seats) store (handle (.startGrace roomId side userId) choice store).2 phase
      phase := by
  refine Respects.of_kept (fun room owner fits => ?_) phase
  refine ⟨fits.seated, fun timer member isRoom => ?_, fits.stands⟩
  rcases List.mem_append.mp member with old | new
  · exact fits.timers timer old isRoom
  · cases List.mem_singleton.mp new
    exact isRoom ▸ plays

theorem complete_player (result : MatchResult) (battle : Match) :
    (battle.complete result).player = battle.player := by
  funext side
  cases side <;> rfl

theorem Fits.complete {battle : Match} (winner : Side)
    (fits : Fits seats store roomId none) (uncompleted : ¬store.Completed roomId)
    (found : store.base.battles roomId = some battle)
    (recorded : after.base.battles roomId = some (battle.complete result))
    (changes : after.changes = store.changes) (timers : after.graceTimers = store.graceTimers) :
    Fits seats after roomId (some (.owesWinner winner)) where
  seated := by
    rw [← fits.seated, Store.seats, Store.seats, recorded, found, Option.map_some, complete_player]
    rfl
  timers timer member := fits.timers timer (timers ▸ member)
  stands := by
    refine ⟨?_, ?_⟩
    · rw [Store.Completed, recorded]
      rfl
    · rw [changes]
      exact fits.stands.2 uncompleted

variable {stage : Stage}

theorem Fits.completed (fits : Fits seats store roomId (some stage)) :
    store.Completed roomId := by
  cases stage with
  | owesWinner => exact fits.stands.1
  | owesLoser => exact fits.stands.1

theorem completeMatch_respects (uncompleted : ¬store.Completed roomId) :
    Respects (Fits seats) store (handle (.battle roomId (.completeMatch roomId result)) choice
        store).2 none
      (afterReply seats none (.battle roomId (.completeMatch roomId result))
        (handle (.battle roomId (.completeMatch roomId result)) choice store).1) := by
  have kept : Respects (Fits seats) store store none none :=
    Respects.of_kept (fun _ _ fits => fits) none
  cases fails : choice.fails with
  | true =>
    simp only [handle, handleBattle, Api.handle, fails]
    exact kept
  | false =>
    cases found : store.base.battles roomId with
    | none =>
      simp only [handle, handleBattle, Api.handle, fails, found]
      exact kept
    | some =>
      simp only [handle, handleBattle, Api.handle, fails, found]
      refine ⟨fun room fits => ?_, fun room stage _ fits => ?_⟩
      · by_cases same : roomId = room
        · subst same
          rw [afterReply, stageOf_self]
          exact fits.complete _ uncompleted found (update_self ..) rfl rfl
        · rw [afterReply, stageOf_of_ne same]
          exact fits.congr (update_of_ne (Ne.symm same) ..) rfl (List.Subset.refl _)
      · have other : roomId ≠ room := by
          rintro rfl
          exact uncompleted fits.completed
        refine ⟨stageOf_of_ne other _, ?_⟩
        exact fits.congr (update_of_ne (Ne.symm other) ..) rfl (List.Subset.refl _)

theorem Fits.release (fits : Fits seats store roomId (some stage)) :
    Fits seats store roomId none where
  seated := fits.seated
  timers := fits.timers
  stands := by
    refine ⟨?_, fun uncompleted => absurd fits.completed uncompleted⟩
    cases stage with
    | owesWinner =>
      rw [fits.stands.2]
      exact outcome_nil _
    | owesLoser winner =>
      rcases fits.stands with ⟨_, nonneg, _, seated, changes⟩
      rw [seated, changes]
      exact .won winner nonneg

theorem Fits.pay {change : Change}
    (seated : seats roomId = some players) (due : stage.Due players change)
    (fits : Fits seats store roomId (some stage))
    (battles : after.base.battles = store.base.battles)
    (changes : after.changes roomId = store.changes roomId ++ [change])
    (timers : after.graceTimers = store.graceTimers) :
    Fits seats after roomId (stage.next change.rankIncrement) where
  seated := by
    rw [Store.seats, battles]
    exact fits.seated
  timers timer member := fits.timers timer (timers ▸ member)
  stands := by
    have completed : after.Completed roomId := by
      rw [Store.Completed, battles]
      exact fits.completed
    cases stage with
    | owesWinner =>
      rcases due with ⟨isWinner, nonneg, xp⟩
      refine ⟨completed, nonneg, players, seated, ?_⟩
      rw [changes, fits.stands.2, ← isWinner, ← xp]
      rfl
    | owesLoser winner =>
      rcases fits.stands with ⟨_, nonneg, _, isSeated, paid⟩
      cases Option.some.inj (seated.symm.trans isSeated)
      refine ⟨?_, fun uncompleted => absurd completed uncompleted⟩
      rw [seated, changes, paid, show change = _ from due]
      exact .settled winner nonneg

theorem updateUser_respects {rankIncrement xpIncrement : ℤ} (seated : seats roomId = some players)
    (due : stage.Due players ⟨userId, rankIncrement, xpIncrement⟩) :
    Respects (Fits seats) store
      (handle (.battle roomId (.updateUser userId rankIncrement xpIncrement)) choice store).2
      (some (roomId, stage)) (afterReply seats (some (roomId, stage))
        (.battle roomId (.updateUser userId rankIncrement xpIncrement))
        (handle (.battle roomId (.updateUser userId rankIncrement xpIncrement)) choice
          store).1) := by
  cases fails : choice.fails with
  | true =>
    simp only [handle, handleBattle, Api.handle, fails, if_true]
    refine ⟨fun room fits => ?_, fun room other _ fits => ⟨rfl, fits⟩⟩
    by_cases same : roomId = room
    · subst same
      rw [stageOf_self] at fits
      exact fits.release
    · rw [stageOf_of_ne same] at fits
      exact fits
  | false =>
    simp only [handle, handleBattle, Api.handle, fails, Bool.false_eq_true, if_false, afterReply,
      Option.bind_some]
    refine ⟨fun room fits => ?_, fun room other unowned fits => ?_⟩
    · by_cases same : roomId = room
      · subst same
        rw [stageOf_self] at fits
        rw [stageOf_map_self]
        exact fits.pay seated due rfl (update_self ..) rfl
      · rw [stageOf_of_ne same] at fits
        rw [stageOf_map_of_ne same]
        exact fits.congr rfl (update_of_ne (Ne.symm same) ..) (List.Subset.refl _)
    · have same : roomId ≠ room := by
        rintro rfl
        rw [stageOf_self] at unowned
        cases unowned
      refine ⟨stageOf_map_of_ne same _, ?_⟩
      exact fits.congr rfl (update_of_ne (Ne.symm same) ..) (List.Subset.refl _)

end Steps

section Runs

variable {powTen : ℚ → ℚ} {seats : Seats} {store : Store}

def Orderly (seats : Seats) (store : Store) : Prop :=
  ∀ roomId, ∃ owner, Fits seats store roomId owner

theorem Orderly.seats_eq (orderly : Orderly seats store) (roomId : RoomId) :
    store.seats roomId = seats roomId := by
  rcases orderly roomId with ⟨_, fits⟩
  exact fits.seated

variable {roomId : RoomId} {call : Call} {next : Store} {owner : Option Stage}

variable {userId : UserId} {state : ServerState} {id : ℕ}

theorem Orderly.plays (orderly : Orderly seats store)
    (plays : Plays store.seats roomId userId) : Plays seats roomId userId := by
  rwa [Plays, orderly.seats_eq] at plays

theorem Orderly.plays_of_mem_activeBattles (orderly : Orderly seats store)
    {entry : RoomId × Match} (active : entry ∈ store.activeBattles userId) :
    Plays seats entry.1 userId := by
  rcases List.mem_filterMap.mp active with ⟨roomId, _, isEntry⟩
  rcases Option.map_eq_some_iff.mp isEntry with ⟨battle, isBattle, rfl⟩
  rcases Option.filter_eq_some_iff.mp isBattle with ⟨found, isActive⟩
  have seated : seats roomId = some battle.player := by
    rw [← orderly.seats_eq, Store.seats, found]
    rfl
  rcases (of_decide_eq_true isActive).1 with first | second
  · exact first ▸ plays_player seated .player1
  · exact second ▸ plays_player seated .player2

theorem Orderly.expects (orderly : Orderly seats store) (cmd : Cmd) (choice : Choice) :
    expectsReply seats cmd (handle cmd choice store).1 := by
  cases cmd with
  | battle _ cmd =>
    cases cmd with
    | findMatch matchId =>
      cases fails : choice.fails with
      | true =>
        simp only [handle, handleBattle, Api.handle, fails, answer, if_true]
        trivial
      | false =>
        cases found : store.base.battles matchId with
        | none =>
          simp only [handle, handleBattle, Api.handle, fails, found, answer]
          trivial
        | some battle =>
          have seated := orderly.seats_eq matchId
          rw [Store.seats, found] at seated
          simp only [handle, handleBattle, Api.handle, fails, found, answer]
          exact seated.symm
    | _ => trivial
  | findActiveBattles =>
    cases fails : choice.fails with
    | true =>
      simp only [handle, fails, answer, if_true]
      trivial
    | false =>
      simp only [handle, fails, answer]
      exact fun entry active => orderly.plays_of_mem_activeBattles active
  | _ => trivial

theorem accept_fits (accepted : accept call store = some next)
    (fits : Fits seats store roomId owner) :
    Fits seats next roomId owner := by
  cases call with
  | graceElapsed =>
    rw [accept, Option.ite_none_right_eq_some] at accepted
    rcases accepted with ⟨_, ⟨⟩⟩
    exact fits.congr rfl rfl fun _ => List.mem_of_mem_erase
  | timerTick =>
    rw [accept, Option.ite_none_right_eq_some] at accepted
    rcases accepted with ⟨_, ⟨⟩⟩
    exact fits.congr rfl rfl (List.Subset.refl _)
  | _ =>
    cases accepted
    exact fits

theorem happen_fits {event : Event} (happened : happen event store = some next)
    (fits : Fits seats store roomId owner) :
    Fits seats next roomId owner := by
  cases event <;> cases happened <;> exact fits.congr rfl rfl (List.Subset.refl _)

theorem Orderly.program_settles (orderly : Orderly seats store)
    (accepted : accept call store = some next)
    (byPlayer : ∀ userId roomId, call = .handleForfeit userId roomId →
      Plays store.seats roomId userId) :
    Settles seats (fun _ => True) (call.program powTen) := by
  refine settling_covers.program call ?_ ?_
  · exact fun userId roomId isForfeit => orderly.plays (byPlayer userId roomId isForfeit)
  · rintro timer rfl
    rw [accept, Option.ite_none_right_eq_some] at accepted
    rcases orderly timer.roomId with ⟨_, fits⟩
    exact fits.timers timer accepted.1.1 rfl

theorem Guarded.respects {choice : Choice} {cmd : Cmd}
    {phase : Option (RoomId × Stage)} (guarded : Guarded state (.advance id choice))
    (issued : state.issued (.advance id choice : ServerAction) = some cmd)
    (allowed : allowsCmd seats phase cmd) :
    Respects (Fits seats) state.store (handle cmd choice state.store).2 phase
      (afterReply seats phase cmd (handle cmd choice state.store).1) := by
  by_cases neutral : cmd.Neutral
  · exact neutral.respects
  · cases cmd with
    | battle _ cmd =>
      cases cmd with
      | completeMatch =>
        rcases allowed with ⟨rfl, rfl, _⟩
        exact completeMatch_respects (guarded.uncompleted _ _ _ issued)
      | updateUser =>
        rcases allowed with ⟨_, _, seated, rfl, due⟩
        exact updateUser_respects seated due
      | _ => exact absurd trivial neutral
    | startGrace => exact startGrace_respects allowed
    | _ => exact absurd trivial neutral

theorem Store.Fresh.fits (fresh : store.Fresh) (roomId : RoomId) :
    Fits store.seats store roomId none where
  seated := rfl
  timers timer member isRoom := isRoom ▸ fresh.timers timer member
  stands := by
    rw [fresh.changes]
    exact ⟨outcome_nil _, fun _ => rfl⟩

theorem Fits.outcome (fits : Fits seats store roomId owner) : store.FairOutcome roomId := by
  rw [Store.FairOutcome, fits.seated]
  cases owner with
  | none => exact fits.stands.1
  | some => exact fits.release.stands.1

theorem Guarded.body_obeys
    (guarded : Guarded state (.start id call)) (accepted : accept call state.store = some next)
    (orderly : Orderly seats state.store) :
    ((server powTen).body id call).Obeys (settling seats) (fun _ _ => True) none := by
  refine Program.obeys_bind.mpr ((orderly.program_settles accepted ?_).mono ?_)
  · rintro userId roomId rfl
    exact guarded.byPlayer id userId roomId rfl
  · intro _ _ _
    trivial

/-- If no match is completed twice and only players forfeit, the changes of a room are those of one
end of the battle at most, for its two players. -/
theorem battle_outcomes_fair (powTen : ℚ → ℚ) {initial state : ServerState}
    (unstarted : ∀ id, initial.processes id = none) (fresh : initial.store.Fresh)
    (reached : (server powTen).Reaches Guarded initial state) (roomId : RoomId) :
    state.store.FairOutcome roomId := by
  have fits : ∃ owner, Fits initial.store.seats state.store roomId owner := by
    refine reached.fits unstarted (fun _ _ _ _ guarded accepted orderly =>
      guarded.body_obeys accepted orderly) ?_ ?_ ?_ ?_ fresh.fits roomId
    · exact fun _ _ _ accepted _ _ => accept_fits accepted
    · exact fun _ _ _ happened _ _ => happen_fits happened
    · exact fun _ cmd choice _ orderly => Orderly.expects orderly cmd choice
    · exact fun _ _ _ _ _ guarded issued allowed => guarded.respects issued allowed
  rcases fits with ⟨_, fits⟩
  exact fits.outcome

end Runs

def sampleServer : ServerState where
  store :=
    { base := sampleStore 100 100
      fields := fun _ => ⟨some .active, false, false, []⟩
      rooms := ["room"]
      spells := fun _ _ => none
      remaining := fun _ => 300
      graceTimers := []
      clock := 0
      changes := fun _ => [] }
  processes _ := none

theorem sampleServer_fresh : sampleServer.store.Fresh := by
  refine ⟨fun _ => rfl, ?_⟩
  intro _ member
  cases member

def forfeit (id : ℕ) (userId : UserId) : List ServerAction :=
  .start id (.handleForfeit userId "room") :: List.replicate 10 (.advance id ⟨false⟩)

theorem sampleServer_reaches (actions : List ServerAction) (changes : List Change)
    (computed : ((server fun _ => 1).steps [0, 1] (fun _ _ => true) sampleServer actions).any
      (fun state => ((state.store.base.battles "room").map fun battle =>
        (battle.player1Id, battle.player2Id)) = some ("ann", "bob") ∧
          state.store.changes "room" = changes) = true) :
    ∃ state, (server fun _ => 1).Reaches anyStep sampleServer state ∧
      state.store.seats "room" = some sampleBattle.player ∧
      state.store.changes "room" = changes := by
  rcases exists_reaches [0, 1] (fun _ _ => true) actions (fun _ _ _ _ => trivial)
    (fun _ _ => rfl) computed with ⟨state, reached, players, isChanges⟩
  rcases Option.map_eq_some_iff.mp players with ⟨_, found, isPair⟩
  rcases Prod.mk.inj isPair with ⟨first, second⟩
  refine ⟨state, reached, ?_, isChanges⟩
  rw [Store.seats, found, Option.map_some, Option.some.injEq]
  funext side
  cases side with
  | player1 => exact first
  | player2 => exact second

/-- The first player forfeits twice and the second gains both times; a user of no battle forfeits
and loses rank. -/
theorem forfeits_are_unfair :
    (∃ state, (server fun _ => 1).Reaches anyStep sampleServer state ∧
      state.store.changes "room" =
        [⟨"bob", 16, 100⟩, ⟨"ann", -16, 0⟩, ⟨"bob", 16, 100⟩, ⟨"ann", -16, 0⟩] ∧
      ¬ state.store.FairOutcome "room") ∧
    ∃ state, (server fun _ => 1).Reaches anyStep sampleServer state ∧
      state.store.changes "room" = [⟨"ann", 16, 100⟩, ⟨"eve", -16, 0⟩] ∧
      ¬ state.store.FairOutcome "room" := by
  refine ⟨?_, ?_⟩
  · rcases sampleServer_reaches (forfeit 0 "ann" ++ forfeit 1 "ann")
      [⟨"bob", 16, 100⟩, ⟨"ann", -16, 0⟩, ⟨"bob", 16, 100⟩, ⟨"ann", -16, 0⟩] (by decide +kernel)
      with ⟨state, reached, _, changes⟩
    refine ⟨state, reached, changes, fun fair => ?_⟩
    rw [Store.FairOutcome, changes] at fair
    exact absurd fair.length_le (by decide)
  · rcases sampleServer_reaches (forfeit 0 "eve") [⟨"ann", 16, 100⟩, ⟨"eve", -16, 0⟩]
      (by decide +kernel) with ⟨state, reached, seated, changes⟩
    refine ⟨state, reached, changes, fun fair => ?_⟩
    rw [Store.FairOutcome, seated, changes] at fair
    rcases Fair.plays fair (List.mem_cons_of_mem _ List.mem_cons_self) with ⟨side, isEve⟩
    cases side <;> exact absurd isEve (by decide)

def forfeitsOwn (store : Store) : ServerAction → Bool
  | .start _ (.handleForfeit userId roomId) => (store.seats roomId).all fun players =>
    players .player1 = userId ∨ players .player2 = userId
  | _ => true

def completesOpen (store : Store) : Option Cmd → Bool
  | some (.battle _ (.completeMatch matchId _)) =>
    (store.base.battles matchId).map Match.status ≠ some .completed
  | _ => true

theorem guarded_of_checks {state : ServerState} {action : ServerAction}
    (checked : (forfeitsOwn state.store action && completesOpen state.store (state.issued action)) =
      true) : Guarded state action := by
  rcases Bool.and_eq_true_iff.mp checked with ⟨own, isOpen⟩
  refine ⟨fun roomId matchId result issued => ?_, ?_⟩
  · rw [issued] at isOpen
    simpa only [completesOpen, Store.Completed, decide_eq_true_eq] using isOpen
  · rintro _ _ _ rfl _ seated
    simp only [forfeitsOwn, seated, Option.all_some, decide_eq_true_eq] at own
    rcases own with first | second
    · exact ⟨.player1, first⟩
    · exact ⟨.player2, second⟩

theorem forfeit_is_settled :
    ∃ state, (server fun _ => 1).Reaches Guarded sampleServer state ∧
      state.store.changes "room" = [⟨"bob", 16, 100⟩, ⟨"ann", -16, 0⟩] ∧
      state.store.FairOutcome "room" := by
  apply exists_reaches_and [0] (fun state action =>
    forfeitsOwn state.store action && completesOpen state.store (state.issued action))
    (forfeit 0 "ann")
  · intro _ _ _ checked
    exact guarded_of_checks checked
  · intro _ _
    rfl
  · decide +kernel
  · intro _ reached
    exact battle_outcomes_fair _ (fun _ => rfl) sampleServer_fresh reached "room"

end CodeClash.Api.Events
