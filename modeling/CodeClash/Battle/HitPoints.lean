import CodeClash.Battle.Tracking

/-!
# The hit points of a battle

Each judged submission writes back the whole record with the damage taken off. The hit points are
what the strikes have left in every run without forfeits in which, whenever a strike with damage is
written, no other call is still going to write back a copy it holds.
-/

namespace CodeClash.Battle

open Async Function Server

def dealtBy (attacker : UserId) (saved : List (BattleState × Option Strike)) : ℤ :=
  (saved.filterMap fun entry => entry.2.bind fun strike =>
    if strike.attacker = attacker then some strike.damage else none).sum

/-- The hit points of each player are those left by the strikes of the other. -/
def Accounted (saved : List (BattleState × Option Strike)) (state : BattleState) : Prop :=
  state.hp1 = max 0 (initialHp - dealtBy state.player2Id saved) ∧
    state.hp2 = max 0 (initialHp - dealtBy state.player1Id saved)

instance (saved : List (BattleState × Option Strike)) (state : BattleState) :
    Decidable (Accounted saved state) :=
  inferInstanceAs (Decidable (_ ∧ _))

def HitPointsAccounted (roomId : RoomId) (store : Store) : Prop :=
  ∀ battle ∈ store.battles roomId, Accounted (saves roomId store.log) battle

instance (roomId : RoomId) (store : Store) : Decidable (HitPointsAccounted roomId store) :=
  inferInstanceAs (Decidable (∀ battle ∈ store.battles roomId, _))

def Cmd.Writes (roomId : RoomId) (cmd : Cmd) : Prop :=
  ∃ saved, cmd.stores roomId = some saved

def Cmd.Strikes (roomId : RoomId) (cmd : Cmd) : Prop :=
  ∃ state strike, cmd.stores roomId = some (state, some strike) ∧ strike.damage ≠ 0

def Pending (roomId : RoomId) (program : Prog Unit) : Prop :=
  program.Reaches (Cmd.Reads roomId) (Cmd.Writes roomId)

/-- Nobody gives up the room, and a strike with damage is written while no other call
is still going to write to the room. -/
structure StrikesAlone (roomId : RoomId) (state : ServerState) (action : ServerAction) :
    Prop where
  noConcession : ∀ id call, action = .start id call → ¬call.Concedes roomId
  alone : ∀ id choice cmd, action = .advance id choice → state.issued action = some cmd →
    cmd.Strikes roomId → ∀ other process, other ≠ id → state.processes other = some process →
      ¬Pending roomId process.program

section Accounting

variable {saved : List (BattleState × Option Strike)} {copy state : BattleState}

@[simp]
theorem dealtBy_none (attacker : UserId) (state : BattleState) :
    dealtBy attacker ((state, none) :: saved) = dealtBy attacker saved := by
  simp [dealtBy]

@[simp]
theorem dealtBy_some (attacker : UserId) (state : BattleState) (strike : Strike) :
    dealtBy attacker ((state, some strike) :: saved) =
      (if strike.attacker = attacker then strike.damage else 0) + dealtBy attacker saved := by
  simp only [dealtBy, List.filterMap_cons, Option.bind_some]
  split <;> simp_all

variable {strike : Option Strike}

theorem Accounted.struck (accounted : Accounted saved copy)
    (proper : copy.Proper) (player1 : state.player1Id = copy.player1Id)
    (player2 : state.player2Id = copy.player2Id) (struck : copy.Struck strike state) :
    Accounted ((state, strike) :: saved) state := by
  rcases accounted with ⟨hp1, hp2⟩
  cases strike with
  | none =>
    rcases struck with ⟨same1, same2⟩
    simp only [Accounted, dealtBy_none, player1, player2, same1, same2]
    exact ⟨hp1, hp2⟩
  | some strike =>
    rcases strike with ⟨attacker, damage⟩
    rcases struck with ⟨nonneg, participant, hit1, hit2⟩
    change 0 ≤ damage at nonneg
    have attackerIs : copy.player1Id = attacker ∨ copy.player2Id = attacker := by
      simpa [BattleState.isPlayerInBattle] using participant
    simp only [Accounted, dealtBy_some, player1, player2, hit1, hit2]
    rcases attackerIs with rfl | rfl
    · rw [if_neg proper, if_pos rfl]
      simp only [BattleState.applyDamage, if_true]
      split
      · refine ⟨by simpa using hp1, ?_⟩
        simp only
        omega
      · have zero : damage = 0 := by omega
        simpa [zero] using ⟨hp1, hp2⟩
    · rw [if_pos rfl, if_neg proper.symm]
      simp only [BattleState.applyDamage, if_neg proper]
      split
      · refine ⟨?_, by simpa using hp2⟩
        simp only
        omega
      · have zero : damage = 0 := by omega
        simpa [zero] using ⟨hp1, hp2⟩

theorem Accounted.of_no_damage (accounted : Accounted saved copy)
    (harmless : ∀ hit, strike = some hit → hit.damage = 0) :
    Accounted ((state, strike) :: saved) copy := by
  cases strike with
  | none => simpa [Accounted] using accounted
  | some strike =>
    have zero : strike.damage = 0 := harmless strike rfl
    simpa [Accounted, zero] using accounted

end Accounting

/-- The call is in a phase in which any copy it is still going to write back is
accounted for. -/
def HoldsAccounted (roomId : RoomId) (saved : List (BattleState × Option Strike))
    (process : Process signature Call) : Prop :=
  ∃ phase, Follows roomId process.call phase process.program ∧
    ∀ copy, phase = .holding (some copy) → Pending roomId process.program →
      Accounted saved copy ∧ copy.Proper

structure HitPointsInvariant (roomId : RoomId) (state : ServerState) : Prop where
  stored : HitPointsAccounted roomId state.store
  held : ∀ id process, state.processes id = some process →
    HoldsAccounted roomId (saves roomId state.store.log) process
  noConcession : ∀ id process, state.processes id = some process →
    ¬process.call.Concedes roomId

section Runs

variable {powTen : ℚ → ℚ} {users : UserId → Option User} {roomId : RoomId}
  {state next : ServerState} {action : ServerAction}

theorem accounted_opening (player1Id player2Id : UserId) (problem : Problem) (now : ℤ)
    (matchId : Option String) :
    Accounted [(openingState player1Id player2Id problem now matchId, none)]
      (openingState player1Id player2Id problem now matchId) := by
  simp [Accounted, dealtBy, openingState, BattleState.initial, initialHp]

variable {written : BattleState × Option Strike} {id : ℕ} {choice : Choice} {cmd : Cmd}
  {call : Call}

variable {process : Process signature Call} {rest : cmd.Reply → Prog Unit}

theorem HoldsAccounted.of_no_damage {saved : List (BattleState × Option Strike)}
    (holds : HoldsAccounted roomId saved process)
    (harmless : ∀ hit, written.2 = some hit → hit.damage = 0) :
    HoldsAccounted roomId (written :: saved) process := by
  rcases holds with ⟨phase, follows, accounts⟩
  refine ⟨phase, follows, ?_⟩
  intro copy holding pending
  rcases accounts copy holding pending with ⟨accounted, proper⟩
  exact ⟨accounted.of_no_damage harmless, proper⟩

section Steps

variable (invariant : HitPointsInvariant roomId state)

include invariant

theorem noConcession_update {moved : Process signature Call}
    (concedes : ¬moved.call.Concedes roomId) (other : ℕ) (process : Process signature Call)
    (found : update state.processes id (some moved) other = some process) :
    ¬process.call.Concedes roomId := by
  apply forall_update _ _ found
  · exact concedes
  · intro other process _ known
    exact invariant.noConcession other process known

theorem HitPointsInvariant.held_other {other : ℕ}
    (alone : StrikesAlone roomId state (.advance id choice))
    (issued : state.issued (.advance id choice : ServerAction) = some cmd)
    (stores : cmd.stores roomId = some written) (differs : other ≠ id)
    (known : state.processes other = some process) :
    HoldsAccounted roomId (written :: saves roomId state.store.log) process := by
  by_cases harmless : ∀ hit, written.2 = some hit → hit.damage = 0
  · exact (invariant.held other process known).of_no_damage harmless
  · rcases invariant.held other process known with ⟨phase, follows, _⟩
    refine ⟨phase, follows, ?_⟩
    intro _ _ pending
    simp only [not_forall] at harmless
    rcases harmless with ⟨hit, isHit, damages⟩
    have strikes : cmd.Strikes roomId := by
      refine ⟨written.1, hit, ?_, damages⟩
      rw [stores, ← isHit]
    exact absurd pending
      (alone.alone id choice cmd rfl issued strikes other process differs known)

theorem hitPointsInvariant_start {store : Store} (concedes : ¬call.Concedes roomId)
    (accepted : accept call state.store = some store) :
    HitPointsInvariant roomId
      ⟨store, update state.processes id (some ⟨call, body powTen id call⟩)⟩ := by
  cases accept_cases roomId accepted with
  | created player1Id player2Id problem now matchId different unused =>
    refine ⟨?_, ?_, noConcession_update invariant concedes⟩
    · intro battle found
      simp only [Store.save, update_self, Option.mem_def, Option.some.injEq] at found
      subst battle
      rw [saves_save, unused]
      exact accounted_opening player1Id player2Id problem now matchId
    · intro other process found
      rw [saves_save]
      apply forall_update _ _ found
      · refine ⟨_, body_follows powTen id _, ?_⟩
        intro copy holding _
        simp only [Call.startingPhase, if_true, RoomPhase.holding.injEq, Option.some.injEq]
          at holding
        subst copy
        rw [unused]
        exact ⟨accounted_opening player1Id player2Id problem now matchId, different⟩
      · intro other process _ known
        apply (invariant.held other process known).of_no_damage
        intro _ none_eq
        cases none_eq
  | other call _ notCreate sameBattle sameSaves =>
    refine ⟨?_, ?_, noConcession_update invariant concedes⟩
    · intro battle found
      rw [sameBattle] at found
      rw [sameSaves]
      exact invariant.stored battle found
    · intro other process found
      rw [sameSaves]
      apply forall_update _ _ found
      · refine ⟨_, body_follows powTen id call, ?_⟩
        rw [startingPhase_eq_unread notCreate]
        intro _ holding _
        cases holding
      · intro other process _ known
        exact invariant.held other process known

theorem hitPointsInvariant_write (alone : StrikesAlone roomId state (.advance id choice))
    (waiting : state.processes id = some ⟨call, .issue cmd rest⟩)
    (stores : cmd.stores roomId = some written) :
    HitPointsInvariant roomId ⟨(handle cmd choice state.store).2, update state.processes
      id (some ⟨call, rest (handle cmd choice state.store).1⟩)⟩ := by
  have concedes : ¬call.Concedes roomId := invariant.noConcession id _ waiting
  have issued := @State.issued_advance _ _ _ _ Environment _ _ _ _ _ waiting choice
  have saves_eq : saves roomId (handle cmd choice state.store).2.log =
      written :: saves roomId state.store.log := by
    rw [handle_saves, stores]
    rfl
  rcases invariant.held id _ waiting with ⟨_, ⟨allowed, later⟩, accounts⟩
  rcases (allowed.1 written stores).copy with ⟨copy, rfl, may⟩
  rcases accounts copy rfl (Or.inl ⟨written, stores⟩) with ⟨accounted, proper⟩
  have struck : copy.Struck written.2 written.1 :=
    may.hitPoints.resolve_left concedes
  have accountedNow : Accounted (written :: saves roomId state.store.log) written.1 :=
    accounted.struck proper may.player1 may.player2 struck
  refine ⟨?_, ?_, ?_⟩
  · intro battle found
    rw [handle_battles, stores, Option.mem_def, Option.some.injEq] at found
    subst battle
    rw [saves_eq]
    exact accountedNow
  · intro other process found
    rw [saves_eq]
    apply forall_update _ _ found
    · refine ⟨_, later _ trivial, ?_⟩
      intro copyNow holding _
      rw [following_after_store stores, RoomPhase.stored] at holding
      split at holding
      · cases holding
      · simp only [RoomPhase.holding.injEq, Option.some.injEq] at holding
        subst copyNow
        exact ⟨accountedNow, by simpa [BattleState.Proper, may.player1, may.player2]
          using proper⟩
    · intro _ _ differs known
      exact invariant.held_other alone issued stores differs known
  · exact noConcession_update invariant concedes

theorem hitPointsInvariant_other (tracked : Tracked roomId state)
    (waiting : state.processes id = some ⟨call, .issue cmd rest⟩)
    (storesNothing : cmd.stores roomId = none) :
    HitPointsInvariant roomId ⟨(handle cmd choice state.store).2, update state.processes
      id (some ⟨call, rest (handle cmd choice state.store).1⟩)⟩ := by
  have concedes : ¬call.Concedes roomId := invariant.noConcession id _ waiting
  have saves_eq : saves roomId (handle cmd choice state.store).2.log =
      saves roomId state.store.log := by
    rw [handle_saves, storesNothing]
    rfl
  refine ⟨?_, ?_, ?_⟩
  · intro battle found
    rw [handle_battles, storesNothing] at found
    rw [saves_eq]
    exact invariant.stored battle found
  · intro other process found
    rw [saves_eq]
    apply forall_update _ _ found
    · rcases invariant.held id _ waiting with ⟨phase, ⟨_, later⟩, accounts⟩
      refine ⟨_, later _ trivial, ?_⟩
      intro copy holding pending
      by_cases reads : cmd = .getBattle roomId
      · subst cmd
        rw [following_after_read, RoomPhase.holding.injEq] at holding
        exact ⟨invariant.stored copy holding, tracked.stored copy holding⟩
      · have pendingBefore : Pending roomId (.issue cmd rest) := Or.inr ⟨reads, _, pending⟩
        cases rates : cmd.rates roomId with
        | some =>
          rw [following_after_rate rates] at holding
          cases phase with
          | unread => cases holding
          | settling => cases holding
          | holding => exact accounts copy holding pendingBefore
        | none =>
          rw [following_after_other storesNothing rates reads] at holding
          exact accounts copy holding pendingBefore
    · intro other process _ known
      exact invariant.held other process known
  · exact noConcession_update invariant concedes

theorem hitPointsInvariant_step (tracked : Tracked roomId state)
    (alone : StrikesAlone roomId state action)
    (cases : (server powTen).StepCases state action next) : HitPointsInvariant roomId next := by
  cases cases with
  | start id call _ _ accepted =>
    exact hitPointsInvariant_start invariant (alone.noConcession id call rfl) accepted
  | advance _ _ _ cmd _ waiting =>
    cases stores : cmd.stores roomId with
    | some => exact hitPointsInvariant_write invariant alone waiting stores
    | none => exact hitPointsInvariant_other invariant tracked waiting stores
  | happen _ _ happened =>
    rcases happen_cases roomId happened with ⟨battle, sameLog, _⟩
    refine ⟨?_, ?_, invariant.noConcession⟩
    · intro stored found
      rw [sameLog]
      rcases battle with removed | kept
      · rw [removed] at found
        cases found
      · rw [kept] at found
        exact invariant.stored stored found
    · rw [sameLog]
      exact invariant.held

end Steps

/--
In every run without forfeits in which a strike with damage is written only while no
other call is going to write back a copy of the room, the stored hit points account
for every strike written so far: no damage is lost or undone.
-/
theorem hitPoints_accounted
    (reached : (server powTen).Reaches (StrikesAlone roomId) (freshServer users) state) :
    HitPointsAccounted roomId state.store := by
  apply HitPointsInvariant.stored
  apply reached.invariant
  · refine ⟨?_, ?_, ?_⟩
    · intro _ found
      cases found
    · intro id process found
      cases found
    · intro _ _ found
      cases found
  · intro _ _ _ before invariant alone cases
    exact hitPointsInvariant_step invariant (reaches_tracked roomId before) alone cases

end Runs

/--
Both players submit at once. The second to finish writes back its copy from before the
first one's strike, and the damage of the first is lost.
-/
theorem simultaneous_submissions_lose_damage :
    ∃ state, (server fun _ => 1).Reaches anyStep (freshServer fun _ => none) state ∧
      ¬HitPointsAccounted "r" state.store := by
  apply exists_reaches [0, 1, 2] (fun _ _ => true)
    (startMatch ++
      .start 1 (submission "a") :: List.replicate 3 (.advance 1 oneOfTwo) ++
      .start 2 (submission "b") :: List.replicate 3 (.advance 2 oneOfTwo) ++
      List.replicate 9 (.advance 1 oneOfTwo) ++ List.replicate 9 (.advance 2 oneOfTwo))
  · intro _ _ _ _
    trivial
  · intro _ _
    rfl
  · decide

def concession (roomId : RoomId) : ServerAction → Bool
  | .start _ (.forfeit room _) | .start _ (.graceTimeout _ room) => room = roomId
  | _ => false

theorem strikesAlone_of_sequential {roomId : RoomId} {ids : List ℕ} (state : ServerState)
    (action : ServerAction) (only : state.Only ids)
    (checked : (state.sequential ids action && !concession roomId action) = true) :
    StrikesAlone roomId state action := by
  rcases Bool.and_eq_true_iff.mp checked with ⟨sequential, _⟩
  refine ⟨?_, ?_⟩
  · intro id call action_eq _
    subst action
    cases call <;> simp_all [Call.Concedes, concession]
  · intro _ _ _ _ _ _ _ _ differs found
    subst action
    rw [Pending, sequential_done only sequential differs found]
    intro reaches
    exact reaches

theorem one_submission_accounted :
    ∃ state, (server fun _ => 1).Reaches (StrikesAlone "r") (freshServer fun _ => none) state ∧
      (state.store.battles "r").map BattleState.hp2 = some 495 ∧
      HitPointsAccounted "r" state.store := by
  apply exists_reaches_and [0, 1]
    (fun state action => state.sequential [0, 1] action && !concession "r" action)
    (startMatch ++ .start 1 (submission "a") :: List.replicate 20 (.advance 1 oneOfTwo))
  · exact strikesAlone_of_sequential
  · intro _ _
    rfl
  · decide
  · intro _ reached
    exact hitPoints_accounted reached

end CodeClash.Battle
