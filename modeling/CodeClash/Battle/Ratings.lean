import CodeClash.Battle.Ended

/-!
# The ratings of a battle

`endBattle` stores ENDED and then updates the rows of the two players. `handleForfeit` does not look
at the status, so a second forfeit rates the battle again. If forfeits find the battle not ended,
and whenever ENDED is stored no other call can still reopen the room or rate it, each effect of the
end is made at most once.
-/

namespace CodeClash.Battle

open Async Server

def Cmd.IsRating (roomId : RoomId) (cmd : Cmd) : Prop :=
  ∃ effect, cmd.rates roomId = some effect

def MayRate (roomId : RoomId) (program : Prog Unit) : Prop :=
  program.Reaches (Cmd.Reads roomId) (Cmd.IsRating roomId)

/-- The step that `process` takes does not end a battle a second time. -/
structure EndsOnceBy (roomId : RoomId) (state : ServerState) (id : ℕ)
    (process : Process signature Call) (cmd : Cmd) : Prop where
  forfeitFindsOpen : process.call.Forfeits → cmd.Reads roomId →
    ∀ battle, state.store.battles roomId = some battle → battle.status ≠ .ended
  endsUndisturbed : cmd.Ends roomId → NoOtherReopens roomId state id
  ratesAlone : cmd.Ends roomId → MayRate roomId process.program →
    ∀ other waiting, other ≠ id → state.processes other = some waiting →
      ¬MayRate roomId waiting.program

/-- A forfeit finds the battle not ended. If the step stores ENDED, no other call can
still reopen the room, and no other call can still rate it if this one does. -/
def EndsOnce (roomId : RoomId) (state : ServerState) (action : ServerAction) : Prop :=
  ∀ id choice process cmd, action = .advance id choice → state.processes id = some process →
    process.program.head? = some cmd → EndsOnceBy roomId state id process cmd

/-- The effects made for the end of the room are those of one end, with one winner and
one loser. -/
def RatedAtMostOnce (roomId : RoomId) (log : List Event) : Prop :=
  ratings roomId log = [] ∨
    ∃ winnerId loserId, winnerId ≠ loserId ∧
      (∃ saved ∈ saves roomId log, saved.1.Decides winnerId loserId) ∧
      AtMostOnce winnerId loserId (ratings roomId log)

/-- A call in this phase holds no copy it could end the battle with. -/
def RoomPhase.Unrated (call : Call) : RoomPhase → Prop
  | unread => True
  | holding none => True
  | holding (some copy) => copy.status = .ended ∧ ¬call.Forfeits
  | settling _ _ => False

section Calls

variable {roomId : RoomId} {call : Call} {phase : RoomPhase}

theorem RoomPhase.Unrated.stores_nothing {saved : BattleState × Option Strike}
    (unrated : phase.Unrated call) : ¬phase.MayStore roomId call saved := by
  intro may
  rcases may.copy with ⟨_, rfl, derived⟩
  exact unrated.2 (derived.endsAgain unrated.1)

theorem RoomPhase.Unrated.rates_nothing {effect : RatingEffect}
    (unrated : phase.Unrated call) : ¬phase.MayRate effect := by
  intro may
  cases phase with
  | unread => exact may
  | settling => exact unrated
  | holding => exact may

theorem RoomPhase.Unrated.after {cmd : Cmd} (unrated : phase.Unrated call)
    (allowed : (following roomId call).allows phase cmd) (noRead : cmd ≠ .getBattle roomId)
    (reply : cmd.Reply) : ((following roomId call).after phase cmd reply).Unrated call := by
  rcases allowed with ⟨stores, rates⟩
  simp only [following, phaseAfter]
  split
  · rename_i saved
    exact absurd (stores _ saved) unrated.stores_nothing
  · rename_i rated
    exact absurd (rates _ rated) unrated.rates_nothing
  · cases cmd <;> simp_all

theorem Follows.not_mayRate {program : Prog Unit} (follows : Follows roomId call phase program)
    (unrated : phase.Unrated call) : ¬MayRate roomId program := by
  apply Program.Obeys.not_reaches _ _ _ follows unrated
  · intro _ _ _
    trivial
  · rintro phase cmd unrated ⟨_, rates⟩ ⟨effect, rated⟩
    exact unrated.rates_nothing (rates effect rated)
  · intro _ _ reply unrated allowed goesOn
    exact unrated.after allowed goesOn reply

end Calls

def RoomPhase.Before : RoomPhase → Prop
  | settling _ _ => False
  | _ => True

def RatesLater (roomId : RoomId) (process : Process signature Call) : Prop :=
  MayRate roomId process.program →
    ∃ phase, Follows roomId process.call phase process.program ∧ phase.Before

/-- The call is the one that rates, and it has issued the updates in `made`; or it
does not rate. -/
def RatesAs (roomId : RoomId) (owner : ℕ) (settled : BattleState) (made : List RatingEffect)
    (id : ℕ) (process : Process signature Call) : Prop :=
  id = owner ∧ Follows roomId process.call (.settling settled made) process.program ∨
    ¬MayRate roomId process.program

/-- Nobody has rated the battle, or one call is rating it and nobody else will. -/
inductive RatingInvariant (roomId : RoomId) (state : ServerState) : Prop where
  | unrated (none : ratings roomId state.store.log = [])
      (calls : ∀ id process, state.processes id = some process → RatesLater roomId process)
  | rated (owner : ℕ) (settled : BattleState) (made : List RatingEffect)
      (ended : HasEnded roomId state.store.log)
      (stored : ∃ strike, (settled, strike) ∈ saves roomId state.store.log)
      (once : settled.RatedOnce made)
      (sublist : (ratings roomId state.store.log).Sublist made)
      (calls : ∀ id process, state.processes id = some process →
        RatesAs roomId owner settled made id process)

section Runs

variable {powTen : ℚ → ℚ} {users : UserId → Option User} {roomId : RoomId}
  {state next : ServerState} {action : ServerAction} {call : Call} {cmd : Cmd} {id : ℕ}

variable {phase : RoomPhase} {store : Store} {choice : Choice} {settled : BattleState}
  {made : List RatingEffect}

theorem RoomPhase.Before.after
    (before : phase.Before) (noEnd : ¬cmd.Ends roomId) (reply : cmd.Reply) :
    ((following roomId call).after phase cmd reply).Before := by
  simp only [following, phaseAfter]
  split
  · rename_i saved strike stores
    have open_ : saved.status ≠ .ended := by
      intro ended
      exact noEnd ⟨_, stores, ended⟩
    simp [RoomPhase.stored, open_, RoomPhase.Before]
  · cases phase with
    | settling => exact before.elim
    | unread => trivial
    | holding => trivial
  · cases cmd with
    | getBattle =>
      simp only
      split
      · trivial
      · exact before
    | _ => exact before

theorem not_mayRate_of_closed {rest : Option BattleState → Prog Unit}
    (guarded : EndsOnceBy roomId state id ⟨call, .issue (.getBattle roomId) rest⟩
      (.getBattle roomId))
    (closed : Closed (state.store.battles roomId))
    (follows : Follows roomId call (.holding (state.store.battles roomId))
      (rest (state.store.battles roomId))) :
    ¬MayRate roomId (rest (state.store.battles roomId)) := by
  apply follows.not_mayRate
  cases stored : state.store.battles roomId with
  | none => trivial
  | some battle =>
    rw [stored] at closed
    refine ⟨closed, ?_⟩
    intro forfeits
    exact guarded.forfeitFindsOpen forfeits rfl battle stored closed

theorem ratingInvariant_start
    (invariant : RatingInvariant roomId state) (accepted : accept call state.store = some store) :
    RatingInvariant roomId
      ⟨store, Function.update state.processes id (some ⟨call, body powTen id call⟩)⟩ := by
  have sameRatings : ratings roomId store.log = ratings roomId state.store.log := by
    cases accept_cases roomId accepted with
    | created => rfl
    | other _ _ _ _ _ sameRatings =>
      exact sameRatings
  cases invariant with
  | unrated none calls =>
    apply RatingInvariant.unrated
    · rw [sameRatings]
      exact none
    · refine forall_updated ?_ calls
      intro _
      refine ⟨_, body_follows powTen id call, ?_⟩
      cases call with
      | createMatch =>
        simp only [Call.startingPhase]
        split <;> trivial
      | _ => trivial
  | rated owner settled made ended stored once sublist calls =>
    cases accept_cases roomId accepted with
    | created _ _ _ _ _ _ unused =>
      rcases stored with ⟨_, present⟩
      rw [unused] at present
      cases present
    | other call _ notCreate _ sameSaves =>
      apply RatingInvariant.rated owner settled made
      · simpa only [HasEnded, sameSaves] using ended
      · rw [sameSaves]
        exact stored
      · exact once
      · rw [sameRatings]
        exact sublist
      · refine forall_updated ?_ calls
        right
        apply (body_follows powTen id call).not_mayRate
        rw [startingPhase_eq_unread notCreate]
        trivial

theorem ratings_of_not_rating (noRating : ¬cmd.IsRating roomId) (choice : Choice) (store : Store) :
    ratings roomId (handle cmd choice store).2.log = ratings roomId store.log := by
  rcases handle_ratings roomId cmd choice store with same | ⟨effect, rates, _⟩
  · exact same
  · exact absurd ⟨effect, rates⟩ noRating

variable {rest : cmd.Reply → Prog Unit}

theorem RatesLater.not_isRating
    (later : RatesLater roomId ⟨call, .issue cmd rest⟩) : ¬cmd.IsRating roomId := by
  rintro ⟨effect, rates⟩
  rcases later (Or.inl ⟨effect, rates⟩) with ⟨phase, ⟨allowed, _⟩, before⟩
  have may := allowed.2 effect rates
  cases phase with
  | unread => exact may
  | holding => exact may
  | settling => exact before

theorem RatesLater.advance (later : RatesLater roomId ⟨call, .issue cmd rest⟩)
    (follows : Follows roomId call phase (.issue cmd rest))
    (noEnd : MayRate roomId (.issue cmd rest) → ¬cmd.Ends roomId) (reply : cmd.Reply) :
    RatesLater roomId ⟨call, rest reply⟩ := by
  intro mayRate
  by_cases reads : cmd = .getBattle roomId
  · subst cmd
    refine ⟨_, follows.2 _ trivial, ?_⟩
    rw [following_after_read]
    trivial
  · have mayRateBefore : MayRate roomId (.issue cmd rest) := Or.inr ⟨reads, _, mayRate⟩
    rcases later mayRateBefore with ⟨_, ⟨_, earlyLater⟩, before⟩
    exact ⟨_, earlyLater _ trivial, before.after (noEnd mayRateBefore) _⟩

theorem ratingInvariant_advance_unrated (tracked : Tracked roomId state)
    (none : ratings roomId state.store.log = [])
    (calls : ∀ id process, state.processes id = some process → RatesLater roomId process)
    (guarded : EndsOnceBy roomId state id ⟨call, .issue cmd rest⟩ cmd)
    (waiting : state.processes id = some ⟨call, .issue cmd rest⟩) :
    RatingInvariant roomId ⟨(handle cmd choice state.store).2, Function.update state.processes id
      (some ⟨call, rest (handle cmd choice state.store).1⟩)⟩ := by
  rcases tracked.calls id _ waiting with ⟨_, follows, _⟩
  have stillNone : ratings roomId (handle cmd choice state.store).2.log = [] :=
    (ratings_of_not_rating (calls id _ waiting).not_isRating choice state.store).trans none
  by_cases endsAndRates : cmd.Ends roomId ∧ MayRate roomId (.issue cmd rest)
  · rcases endsAndRates with ⟨ends, mayRate⟩
    have alone := guarded.ratesAlone ends mayRate
    have endedNow : HasEnded roomId (handle cmd choice state.store).2.log :=
      hasEnded_handle.mpr (Or.inl ends)
    rcases ends with ⟨⟨settled, strike⟩, stores, status⟩
    apply RatingInvariant.rated id settled [] endedNow
    · refine ⟨strike, ?_⟩
      rw [handle_saves, stores]
      exact List.mem_cons_self
    · exact ⟨settled.player1Id, settled.player2Id, Or.inl ⟨rfl, rfl⟩, by simp [AtMostOnce]⟩
    · rw [stillNone]
    · intro other process found
      apply forall_update _ _ found
      · left
        refine ⟨rfl, ?_⟩
        have goesOn := follows.2 (handle cmd choice state.store).1 trivial
        rw [following_after_store stores, RoomPhase.stored, if_pos status] at goesOn
        exact goesOn
      · intro other process differs known
        exact Or.inr (alone other process differs known)
  · apply RatingInvariant.unrated stillNone
    refine forall_updated ?_ calls
    apply (calls id _ waiting).advance follows
    exact fun mayRate ends => endsAndRates ⟨ends, mayRate⟩

theorem settling_advance (follows : Follows roomId call (.settling settled made) (.issue cmd rest))
    (readsNothing : cmd ≠ .getBattle roomId) (once : settled.RatedOnce made) (choice : Choice)
    (sublist : (ratings roomId store.log).Sublist made) :
    ∃ made', settled.RatedOnce made' ∧
      (ratings roomId (handle cmd choice store).2.log).Sublist made' ∧
      Follows roomId call (.settling settled made') (rest (handle cmd choice store).1) := by
  rcases follows with ⟨allowed, later⟩
  have storesNothing : cmd.stores roomId = none := by
    cases stores : cmd.stores roomId with
    | none => rfl
    | some saved => exact (allowed.1 saved stores).elim
  have goesOn := later (handle cmd choice store).1 trivial
  cases rates : cmd.rates roomId with
  | some effect =>
    rw [following_after_rate rates] at goesOn
    refine ⟨effect :: made, allowed.2 effect rates, ?_, goesOn⟩
    rcases handle_ratings roomId cmd choice store with same | ⟨other, rated, added⟩
    · rw [same]
      exact sublist.cons effect
    · rw [rates, Option.some.injEq] at rated
      subst other
      rw [added]
      exact sublist.cons_cons effect
  | none =>
    rw [following_after_other storesNothing rates readsNothing] at goesOn
    refine ⟨made, once, ?_, goesOn⟩
    rw [ratings_of_not_rating (by simp [Cmd.IsRating, rates])]
    exact sublist

theorem ratesAs_advance {owner : ℕ} (choice : Choice)
    (tracked : Tracked roomId state) (closed : Closed (state.store.battles roomId))
    (once : settled.RatedOnce made) (sublist : (ratings roomId state.store.log).Sublist made)
    (own : RatesAs roomId owner settled made id ⟨call, .issue cmd rest⟩)
    (guarded : EndsOnceBy roomId state id ⟨call, .issue cmd rest⟩ cmd)
    (waiting : state.processes id = some ⟨call, .issue cmd rest⟩) :
    ∃ made', (made' = made ∨ id = owner) ∧ settled.RatedOnce made' ∧
      (ratings roomId (handle cmd choice state.store).2.log).Sublist made' ∧
      RatesAs roomId owner settled made' id ⟨call, rest (handle cmd choice state.store).1⟩ := by
  by_cases reads : cmd = .getBattle roomId
  · subst cmd
    refine ⟨made, Or.inl rfl, once, ?_, Or.inr ?_⟩
    · rw [ratings_of_not_rating (by simp [Cmd.IsRating, Cmd.rates])]
      exact sublist
    · rcases tracked.calls id _ waiting with ⟨_, ⟨_, later⟩, _⟩
      apply not_mayRate_of_closed guarded closed
      have follows := later (state.store.battles roomId) trivial
      rw [following_after_read] at follows
      exact follows
  · rcases own with ⟨isOwner, follows⟩ | never
    · rcases settling_advance follows reads once choice sublist with
        ⟨made', once', sublist', goesOn⟩
      exact ⟨made', Or.inr isOwner, once', sublist', Or.inl ⟨isOwner, goesOn⟩⟩
    · rcases Program.not_reaches_issue never with ⟨noRating, goesOn⟩
      refine ⟨made, Or.inl rfl, once, ?_, Or.inr (goesOn reads _)⟩
      rw [ratings_of_not_rating noRating]
      exact sublist

theorem ratingInvariant_advance (tracked : Tracked roomId state)
    (ending : EndedInvariant roomId state) (invariant : RatingInvariant roomId state)
    (guarded : EndsOnceBy roomId state id ⟨call, .issue cmd rest⟩ cmd)
    (waiting : state.processes id = some ⟨call, .issue cmd rest⟩) :
    RatingInvariant roomId ⟨(handle cmd choice state.store).2, Function.update state.processes id
      (some ⟨call, rest (handle cmd choice state.store).1⟩)⟩ := by
  cases invariant with
  | unrated none calls =>
    exact ratingInvariant_advance_unrated tracked none calls guarded waiting
  | rated owner settled _ ended stored once sublist calls =>
    rcases ratesAs_advance choice tracked (ending.sealed ended).closed once sublist
      (calls id _ waiting) guarded waiting with ⟨made', moved, once', sublist', own⟩
    apply RatingInvariant.rated owner settled made'
    · exact hasEnded_handle.mpr (Or.inr ended)
    · rcases stored with ⟨strike, present⟩
      refine ⟨strike, ?_⟩
      rw [handle_saves]
      exact List.mem_append_right _ present
    · exact once'
    · exact sublist'
    · intro other process found
      apply forall_update _ _ found
      · exact own
      · intro other process differs known
        rcases calls other process known with ⟨isOwner, follows⟩ | never
        · rcases moved with _ | movedOwner
          · subst made'
            exact Or.inl ⟨isOwner, follows⟩
          · exact absurd (isOwner.trans movedOwner.symm) differs
        · exact Or.inr never

theorem endsOnce_undisturbed (once : EndsOnce roomId state action) :
    EndsUndisturbed roomId state action := by
  intro id choice cmd _ issued ends
  subst action
  cases found : state.processes id with
  | none => simp [State.issued, found] at issued
  | some process =>
    have head : process.program.head? = some cmd := by
      simpa [State.issued, found] using issued
    exact (once id choice process cmd rfl found head).endsUndisturbed ends

theorem ratingInvariant_step (tracked : Tracked roomId state)
    (ending : EndedInvariant roomId state) (invariant : RatingInvariant roomId state)
    (once : EndsOnce roomId state action) (cases : (server powTen).StepCases state action next) :
    RatingInvariant roomId next := by
  cases cases with
  | start _ _ _ _ accepted => exact ratingInvariant_start invariant accepted
  | advance id choice _ cmd _ waiting =>
    exact ratingInvariant_advance tracked ending invariant (once id choice _ cmd rfl waiting rfl)
      waiting
  | happen _ _ happened =>
    rcases happen_cases roomId happened with ⟨_, sameLog, _⟩
    cases invariant with
    | unrated none calls => exact .unrated (by rw [sameLog]; exact none) calls
    | rated owner settled made ended stored once sublist calls =>
      apply RatingInvariant.rated owner settled made
      · rw [sameLog]
        exact ended
      · rw [sameLog]
        exact stored
      · exact once
      · rw [sameLog]
        exact sublist
      · exact calls

/--
In every run in which forfeits find the battle not ended and no end is disturbed, the
rating effects of the room's end are made at most once: at most one win and one
streak increment for one player, at most one loss and one streak reset for the other.
-/
theorem rated_at_most_once
    (reached : (server powTen).Reaches (EndsOnce roomId) (freshServer users) state) :
    RatedAtMostOnce roomId state.store.log := by
  have tracked := reaches_tracked roomId reached
  have invariant : RatingInvariant roomId state := by
    apply reached.invariant
    · apply RatingInvariant.unrated rfl
      intro _ _ found
      cases found
    · intro _ _ _ before invariant once cases
      have undisturbed := before.mono fun _ _ => endsOnce_undisturbed
      exact ratingInvariant_step (reaches_tracked roomId before)
        (reaches_endedInvariant undisturbed) invariant once cases
  cases invariant with
  | unrated none => exact Or.inl none
  | rated _ settled _ _ stored once sublist =>
    right
    rcases stored with ⟨_, present⟩
    rcases once with ⟨winnerId, loserId, decides, once⟩
    have proper : settled.Proper := tracked.saved _ present
    refine ⟨winnerId, loserId, ?_, ⟨_, present, decides⟩, once.sublist sublist⟩
    rcases decides with ⟨rfl, rfl⟩ | ⟨rfl, rfl⟩
    · exact proper
    · exact proper.symm

end Runs

variable {roomId : RoomId}

theorem RatedAtMostOnce.nodup {log : List Event} (once : RatedAtMostOnce roomId log) :
    ((ratings roomId log).map RatingEffect.kind).Nodup := by
  rcases once with none | ⟨_, _, _, _, distinct, _⟩
  · rw [none]
    exact List.nodup_nil
  · exact distinct

/--
The same player forfeits twice. The second forfeit finds the room ENDED and credits the
winner with a second win.
-/
theorem second_forfeit_rates_again :
    ∃ state, (server fun _ => 1).Reaches anyStep (freshServer newcomer) state ∧
      ¬RatedAtMostOnce "r" state.store.log := by
  have run : ∃ state, (server fun _ => 1).Reaches anyStep (freshServer newcomer) state ∧
      ¬((ratings "r" state.store.log).map RatingEffect.kind).Nodup := by
    apply exists_reaches [0, 1, 2] (fun _ _ => true)
      (startMatch ++
        .start 1 (.forfeit "r" "a") :: List.replicate 8 (.advance 1 default) ++
        .start 2 (.forfeit "r" "a") :: List.replicate 8 (.advance 2 default))
    · intro _ _ _ _
      trivial
    · intro _ _
      rfl
    · decide
  rcases run with ⟨state, reached, twice⟩
  exact ⟨state, reached, fun once => twice once.nodup⟩

def findsOpen (roomId : RoomId) (state : ServerState) (action : ServerAction) : Bool :=
  match state.issued action with
  | some (.getBattle _) => (state.store.battles roomId).all fun battle => battle.status ≠ .ended
  | _ => true

theorem endsOnce_of_sequential {ids : List ℕ} (state : ServerState)
    (action : ServerAction) (only : state.Only ids)
    (checked : (state.sequential ids action && findsOpen roomId state action) = true) :
    EndsOnce roomId state action := by
  rcases Bool.and_eq_true_iff.mp checked with ⟨sequential, finds⟩
  intro id choice _ cmd _ found head
  subst action
  have issued : state.issued (.advance id choice : ServerAction) = some cmd := by
    simpa [State.issued, found] using head
  refine ⟨?_, ?_, ?_⟩
  · intro _ reads _ stored
    rw [reads] at issued
    simpa [findsOpen, issued, stored] using finds
  · exact endsUndisturbed_of_sequential state _ only sequential id choice cmd rfl issued
  · intro _ _ _ _ differs known
    rw [MayRate, sequential_done only sequential differs known]
    intro reaches
    exact reaches

theorem one_forfeit_rates_once :
    ∃ state, (server fun _ => 1).Reaches (EndsOnce "r") (freshServer newcomer) state ∧
      (ratings "r" state.store.log).length = 4 ∧ RatedAtMostOnce "r" state.store.log := by
  apply exists_reaches_and [0, 1]
    (fun state action => state.sequential [0, 1] action && findsOpen "r" state action)
    (startMatch ++ .start 1 (.forfeit "r" "a") :: List.replicate 16 (.advance 1 default))
  · exact endsOnce_of_sequential
  · intro _ _
    rfl
  · decide
  · intro _ reached
    exact rated_at_most_once reached

end CodeClash.Battle
