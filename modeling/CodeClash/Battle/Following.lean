import CodeClash.Battle.Footprint

/-!
# What a call does with its copy of a room

Every writer of a room reads the whole record, keeps the copy across awaits and timers, and writes
it back whole. The protocol `following` says what each phase of that allows: what is stored derives
from the copy in hand, and ratings change only while settling.
-/

namespace CodeClash.Battle

open Async Program

inductive RatingKind where
  | win
  | loss
  | streak
  | reset
deriving DecidableEq, Repr

namespace RatingKind

def subject (winnerId loserId : UserId) : RatingKind → UserId
  | win | streak => winnerId
  | loss | reset => loserId

end RatingKind

def RatingEffect.kind : RatingEffect → RatingKind
  | .won _ _ => .win
  | .lost _ _ => .loss
  | .streakIncremented _ => .streak
  | .streakReset _ => .reset

def AtMostOnce (winnerId loserId : UserId) (effects : List RatingEffect) : Prop :=
  (effects.map RatingEffect.kind).Nodup ∧
    ∀ effect ∈ effects, effect.userId = effect.kind.subject winnerId loserId

variable {winnerId loserId : UserId} {effects : List RatingEffect}

theorem AtMostOnce.cons {effect : RatingEffect} (once : AtMostOnce winnerId loserId effects)
    (fresh : effect.kind ∉ effects.map RatingEffect.kind)
    (subject : effect.userId = effect.kind.subject winnerId loserId) :
    AtMostOnce winnerId loserId (effect :: effects) := by
  rcases once with ⟨distinct, subjects⟩
  refine ⟨?_, ?_⟩
  · simp only [List.map_cons, List.nodup_cons]
    exact ⟨fresh, distinct⟩
  · intro other present
    rcases List.mem_cons.mp present with _ | earlier
    · subst other
      exact subject
    · exact subjects other earlier

theorem AtMostOnce.sublist {fewer : List RatingEffect}
    (once : AtMostOnce winnerId loserId effects) (sublist : fewer.Sublist effects) :
    AtMostOnce winnerId loserId fewer := by
  rcases once with ⟨distinct, subjects⟩
  refine ⟨distinct.sublist (sublist.map _), ?_⟩
  intro effect present
  exact subjects effect (sublist.subset present)

def BattleState.Decides (state : BattleState) (winnerId loserId : UserId) : Prop :=
  winnerId = state.player1Id ∧ loserId = state.player2Id ∨
    winnerId = state.player2Id ∧ loserId = state.player1Id

def BattleState.RatedOnce (state : BattleState) (effects : List RatingEffect) : Prop :=
  ∃ winnerId loserId, state.Decides winnerId loserId ∧ AtMostOnce winnerId loserId effects

namespace Call

def Forfeits : Call → Prop
  | .forfeit _ _ => True
  | _ => False

def Concedes (roomId : RoomId) : Call → Prop
  | .forfeit room _ | .graceTimeout _ room => room = roomId
  | _ => False

end Call

/-- The hit points of `state` are those of `copy` after the strike, if there is one. -/
def BattleState.Struck (copy : BattleState) (strike : Option Strike) (state : BattleState) :
    Prop :=
  match strike with
  | none => state.hp1 = copy.hp1 ∧ state.hp2 = copy.hp2
  | some strike =>
    0 ≤ strike.damage ∧ copy.isPlayerInBattle strike.attacker = true ∧
      state.hp1 = (copy.applyDamage strike.attacker strike.damage).hp1 ∧
      state.hp2 = (copy.applyDamage strike.attacker strike.damage).hp2

structure MayStore (roomId : RoomId) (call : Call) (copy : BattleState)
    (saved : BattleState × Option Strike) : Prop where
  player1 : saved.1.player1Id = copy.player1Id
  player2 : saved.1.player2Id = copy.player2Id
  staysEnded : copy.status = .ended → saved.1.status = .ended
  endsAgain : copy.status = .ended → call.Forfeits
  hitPoints : call.Concedes roomId ∨ copy.Struck saved.2 saved.1

inductive RoomPhase where
  | unread
  | holding (copy : Option BattleState)
  | settling (state : BattleState) (made : List RatingEffect)

namespace RoomPhase

def MayStore (roomId : RoomId) (call : Call) (saved : BattleState × Option Strike) :
    RoomPhase → Prop
  | holding (some copy) => Battle.MayStore roomId call copy saved
  | _ => False

def MayRate (effect : RatingEffect) : RoomPhase → Prop
  | settling state made => state.RatedOnce (effect :: made)
  | _ => False

theorem MayStore.copy {roomId : RoomId} {call : Call} {saved : BattleState × Option Strike}
    {phase : RoomPhase} (may : phase.MayStore roomId call saved) :
    ∃ copy, phase = holding (some copy) ∧ Battle.MayStore roomId call copy saved := by
  cases phase with
  | unread => exact may.elim
  | settling => exact may.elim
  | holding copy =>
    cases copy with
    | none => exact may.elim
    | some copy => exact ⟨copy, rfl, may⟩

def stored (state : BattleState) : RoomPhase :=
  if state.status = .ended then settling state [] else holding (some state)

def rated (effect : RatingEffect) : RoomPhase → RoomPhase
  | settling state made => settling state (effect :: made)
  | phase => phase

end RoomPhase

def phaseAfter (roomId : RoomId) (phase : RoomPhase) (cmd : Cmd) (reply : cmd.Reply) :
    RoomPhase :=
  match cmd.stores roomId, cmd.rates roomId with
  | some (state, _), _ => .stored state
  | none, some effect => phase.rated effect
  | none, none =>
    match cmd, reply with
    | .getBattle room, found => if room = roomId then .holding found else phase
    | _, _ => phase

def following (roomId : RoomId) (call : Call) : Protocol signature RoomPhase where
  allows phase cmd :=
    (∀ saved, cmd.stores roomId = some saved → phase.MayStore roomId call saved) ∧
      ∀ effect, cmd.rates roomId = some effect → phase.MayRate effect
  expects _ _ _ := True
  after := phaseAfter roomId

def Follows (roomId : RoomId) (call : Call) (phase : RoomPhase) {α : Type} (program : Prog α) :
    Prop :=
  program.Obeys (following roomId call) (fun _ _ => True) phase

section Commands

variable {roomId : RoomId} {call : Call} {phase : RoomPhase}

structure Cmd.Neutral (roomId : RoomId) (cmd : Cmd) : Prop where
  storesNothing : cmd.stores roomId = none
  ratesNothing : cmd.rates roomId = none
  noRead : cmd ≠ .getBattle roomId

variable {cmd : Cmd} {α : Type}

theorem Cmd.Quiet.neutral (quiet : cmd.Quiet) : cmd.Neutral roomId := by
  cases cmd <;> simp_all [Cmd.Quiet] <;> constructor <;> simp [Cmd.stores, Cmd.rates]

theorem Cmd.Locking.neutral {userId : UserId} (locking : cmd.Locking userId) :
    cmd.Neutral roomId := by
  cases cmd <;> simp_all [Cmd.Locking] <;> constructor <;> simp [Cmd.stores, Cmd.rates]

theorem Cmd.Within.neutral {room : RoomId} (within : cmd.Within room)
    (other : room ≠ roomId) : cmd.Neutral roomId := by
  cases cmd with
  | clearInterval owner save =>
    simp only [Cmd.Within] at within
    subst owner
    cases save <;> constructor <;> simp [Cmd.stores, Cmd.rates, other]
  | _ =>
    simp only [Cmd.Within] at within
    constructor <;> simp_all [Cmd.stores, Cmd.rates]

theorem Cmd.Neutral.allowed (neutral : cmd.Neutral roomId) :
    (following roomId call).allows phase cmd := by
  refine ⟨?_, ?_⟩
  · intro _ stores
    rw [neutral.storesNothing] at stores
    cases stores
  · intro _ rates
    rw [neutral.ratesNothing] at rates
    cases rates

@[simp]
theorem following_after_read (found : Option BattleState) :
    (following roomId call).after phase (.getBattle roomId) found = .holding found := by
  simp [following, phaseAfter, Cmd.stores, Cmd.rates]

theorem following_after_store {saved : BattleState × Option Strike}
    (stores : cmd.stores roomId = some saved) (reply : cmd.Reply) :
    (following roomId call).after phase cmd reply = .stored saved.1 := by
  simp only [following, phaseAfter, stores]

variable {effect : RatingEffect} {program : Prog α} {state : BattleState}

theorem following_after_rate (rates : cmd.rates roomId = some effect) (reply : cmd.Reply) :
    (following roomId call).after phase cmd reply = phase.rated effect := by
  have storesNothing : cmd.stores roomId = none := by
    cases cmd <;> simp_all [Cmd.rates, Cmd.stores]
  simp only [following, phaseAfter, storesNothing, rates]

theorem following_after_other (storesNothing : cmd.stores roomId = none)
    (ratesNothing : cmd.rates roomId = none) (noRead : cmd ≠ .getBattle roomId)
    (reply : cmd.Reply) : (following roomId call).after phase cmd reply = phase := by
  simp only [following, phaseAfter, storesNothing, ratesNothing]
  cases cmd <;> simp_all

theorem Cmd.Neutral.after_eq (neutral : cmd.Neutral roomId) (reply : cmd.Reply) :
    (following roomId call).after phase cmd reply = phase :=
  following_after_other neutral.storesNothing neutral.ratesNothing neutral.noRead reply

variable {post : RoomPhase → α → Prop}

theorem obeys_of_neutral
    (uses : program.Uses (Cmd.Neutral roomId)) (final : ∀ value, post phase value) :
    program.Obeys (following roomId call) post phase :=
  obeys_of_uses (fun _ neutral => neutral.allowed) (fun _ neutral => neutral.after_eq)
    uses final

theorem obeys_of_quiet (quiet : program.Uses Cmd.Quiet) (final : ∀ value, post phase value) :
    program.Obeys (following roomId call) post phase :=
  obeys_of_neutral (uses_mono quiet fun _ => Cmd.Quiet.neutral) final

theorem obeys_quiet_bind {next : cmd.Reply → Prog α} (quiet : cmd.Quiet)
    (later : ∀ reply, (next reply).Obeys (following roomId call) post phase) :
    (request cmd >>= next).Obeys (following roomId call) post phase := by
  apply obeys_perform_bind quiet.neutral.allowed
  intro reply _
  rw [quiet.neutral.after_eq]
  exact later reply

theorem obeys_read_bind {next : Option BattleState → Prog α}
    (later : ∀ found, (next found).Obeys (following roomId call) post (.holding found)) :
    (getBattleState roomId >>= next).Obeys (following roomId call) post phase := by
  apply obeys_perform_bind
  · exact ⟨by simp [Cmd.stores], by simp [Cmd.rates]⟩
  · intro found _
    rw [following_after_read]
    exact later found

theorem obeys_set_bind {copy : BattleState} {strike : Option Strike} {next : Unit → Prog α}
    (may : MayStore roomId call copy (state, strike))
    (later : (next ()).Obeys (following roomId call) post (.stored state)) :
    (request (.setBattle roomId state strike) >>= next).Obeys (following roomId call) post
      (.holding (some copy)) := by
  have stores : (Cmd.setBattle roomId state strike).stores roomId = some (state, strike) := by
    simp [Cmd.stores]
  apply obeys_perform_bind
  · refine ⟨?_, by simp [Cmd.rates]⟩
    intro saved stored
    rw [stores, Option.some.injEq] at stored
    subst saved
    exact may
  · intro _ _
    rw [following_after_store stores]
    exact later

theorem obeys_rate_bind {made : List RatingEffect} {next : Except Failure Unit → Prog α}
    (may : state.RatedOnce (effect :: made))
    (later : ∀ reply, (next reply).Obeys (following roomId call) post
      (.settling state (effect :: made))) :
    (request (.rate roomId effect) >>= next).Obeys (following roomId call) post
      (.settling state made) := by
  have rates : (Cmd.rate roomId effect).rates roomId = some effect := by simp [Cmd.rates]
  apply obeys_perform_bind
  · refine ⟨by simp [Cmd.stores], ?_⟩
    intro rated rating
    rw [rates, Option.some.injEq] at rating
    subst rated
    exact may
  · intro reply _
    rw [following_after_rate rates]
    exact later reply

end Commands

section Programs

variable {roomId : RoomId} {call : Call} {state : BattleState} {winnerId : UserId}

variable {copy : BattleState} {loserId : UserId} {overrideWinnerId : Option UserId}

theorem saveBattleState_obeys {post : RoomPhase → BattleState → Prop} {strike : Option Strike}
    (may : ∀ now, MayStore roomId call copy (state.stamped now, strike))
    (final : ∀ now, post (.stored (state.stamped now)) (state.stamped now)) :
    (saveBattleState roomId state strike).Obeys (following roomId call) post
      (.holding (some copy)) := by
  apply obeys_quiet_bind (by trivial)
  intro now
  apply obeys_set_bind (may now)
  exact final now

theorem release_obeys {post : RoomPhase → Unit → Prop} {phase : RoomPhase} (userId : UserId)
    (self : ℕ) (final : post phase ()) :
    (releaseDistributedLock userId self).Obeys (following roomId call) post phase := by
  apply obeys_of_neutral
  · exact uses_mono (releaseDistributedLock_locking userId self)
      fun _ => Cmd.Locking.neutral
  · intro _
    exact final

theorem updateBattleStats_obeys
    (decides : state.Decides winnerId loserId) (winnerEloChange loserEloChange : ℤ) :
    (updateBattleStats roomId winnerId loserId winnerEloChange loserEloChange).Obeys
      (following roomId call) (fun reached _ => ∃ made, reached = .settling state made ∧
        AtMostOnce winnerId loserId made ∧ .streak ∉ made.map RatingEffect.kind ∧
        .reset ∉ made.map RatingEffect.kind)
      (.settling state []) := by
  have none : AtMostOnce winnerId loserId [] := by simp [AtMostOnce]
  apply obeys_quiet_bind (by trivial)
  intro firstFirst
  cases firstFirst with
  | true =>
    have won : AtMostOnce winnerId loserId [.won winnerId winnerEloChange] :=
      none.cons (by simp) rfl
    have both : AtMostOnce winnerId loserId
        [.lost loserId loserEloChange, .won winnerId winnerEloChange] :=
      won.cons (by simp [RatingEffect.kind]) rfl
    apply obeys_rate_bind ⟨winnerId, loserId, decides, won⟩
    intro left
    apply obeys_rate_bind ⟨winnerId, loserId, decides, both⟩
    intro right
    exact ⟨_, rfl, both, by simp [RatingEffect.kind], by simp [RatingEffect.kind]⟩
  | false =>
    have lost : AtMostOnce winnerId loserId [.lost loserId loserEloChange] :=
      none.cons (by simp) rfl
    have both : AtMostOnce winnerId loserId
        [.won winnerId winnerEloChange, .lost loserId loserEloChange] :=
      lost.cons (by simp [RatingEffect.kind]) rfl
    apply obeys_rate_bind ⟨winnerId, loserId, decides, lost⟩
    intro _
    apply obeys_rate_bind ⟨winnerId, loserId, decides, both⟩
    intro _
    exact ⟨_, rfl, both, by simp [RatingEffect.kind], by simp [RatingEffect.kind]⟩

theorem settleBattle_follows (powTen : ℚ → ℚ) {settled : BattleState}
    (decides : settled.Decides winnerId loserId) :
    Follows roomId call (.settling settled [])
      (settleBattle powTen roomId state winnerId loserId) := by
  apply obeys_bind.mpr
  apply obeys_of_quiet (getUsers_quiet _ _)
  intro _
  split
  · trivial
  apply obeys_bind.mpr
  apply (updateBattleStats_obeys decides _ _).mono
  rintro _ _ ⟨made, rfl, once, noStreak, noReset⟩
  split
  · trivial
  apply obeys_quiet_bind (by trivial)
  intro _
  apply obeys_bind.mpr
  apply obeys_of_quiet (quiet_of_plain (getUserById_plain _))
  intro _
  split
  · trivial
  apply obeys_bind.mpr
  apply obeys_of_quiet (quiet_of_plain (checkAndGrant_plain _ _))
  intro _
  split
  · trivial
  have withStreak : AtMostOnce winnerId loserId (.streakIncremented winnerId :: made) :=
    once.cons noStreak rfl
  have withReset : AtMostOnce winnerId loserId
      (.streakReset loserId :: .streakIncremented winnerId :: made) :=
    withStreak.cons (by simpa [RatingEffect.kind] using noReset) rfl
  apply obeys_rate_bind ⟨winnerId, loserId, decides, withStreak⟩
  intro _
  split
  · trivial
  apply obeys_rate_bind ⟨winnerId, loserId, decides, withReset⟩
  intro _
  split
  · trivial
  apply obeys_quiet_bind (by trivial)
  intro _
  apply obeys_quiet_bind (by trivial)
  intro _
  trivial

theorem BattleState.decides_loserId (state : BattleState)
    (player : winnerId = state.player1Id ∨ winnerId = state.player2Id) :
    state.Decides winnerId (state.loserId winnerId) := by
  simp only [Decides, loserId]
  by_cases first : winnerId = state.player1Id
  · simp [first]
  · simpa [first] using player

theorem BattleState.winnerId_player (state : BattleState)
    (player : ∀ override, overrideWinnerId = some override →
      override = state.player1Id ∨ override = state.player2Id) :
    state.winnerId overrideWinnerId = state.player1Id ∨
      state.winnerId overrideWinnerId = state.player2Id := by
  have byHitPoints : (if state.hp1 > state.hp2 then state.player1Id else state.player2Id) =
      state.player1Id ∨ (if state.hp1 > state.hp2 then state.player1Id else state.player2Id) =
      state.player2Id := by
    split
    · exact Or.inl rfl
    · exact Or.inr rfl
  simp only [winnerId]
  split
  · rename_i override
    split
    · exact player override rfl
    · exact byHitPoints
  · exact byHitPoints

theorem BattleState.opponentOf_player (state : BattleState) (userId : UserId) :
    state.opponentOf userId = state.player1Id ∨ state.opponentOf userId = state.player2Id := by
  simp only [opponentOf]
  split
  · exact Or.inr rfl
  · exact Or.inl rfl

theorem endBattle_follows (powTen : ℚ → ℚ) (may : ∀ now, MayStore roomId call copy
      ((state.withStatus .ended).stamped now, none))
    (player : ∀ override, overrideWinnerId = some override →
      override = state.player1Id ∨ override = state.player2Id) :
    Follows roomId call (.holding (some copy))
      (endBattle powTen roomId state overrideWinnerId) := by
  apply obeys_bind.mpr
  apply saveBattleState_obeys may
  intro now
  have decides : ((state.withStatus .ended).stamped now).Decides
      (state.winnerId overrideWinnerId) (state.loserId (state.winnerId overrideWinnerId)) :=
    state.decides_loserId (state.winnerId_player player)
  have stored_eq : RoomPhase.stored ((state.withStatus .ended).stamped now) =
      .settling ((state.withStatus .ended).stamped now) [] := rfl
  rw [stored_eq]
  apply Program.Obeys.bind_of_forall (settleBattle_follows powTen decides)
  intro _ _
  trivial

end Programs

section Submitting

variable {call : Call} {submit : SubmitRequest} {state : BattleState} {phase : RoomPhase}

variable {roomId : RoomId} {copy : BattleState}

theorem mayStore_of_same (open_ : copy.status ≠ .ended) (player1 : state.player1Id = copy.player1Id)
    (player2 : state.player2Id = copy.player2Id) (hp1 : state.hp1 = copy.hp1)
    (hp2 : state.hp2 = copy.hp2) :
    MayStore roomId call copy (state, none) where
  player1 := player1
  player2 := player2
  staysEnded ended := absurd ended open_
  endsAgain ended := absurd ended open_
  hitPoints := Or.inr ⟨hp1, hp2⟩

theorem BattleState.stored_stamped {status : Status} (now : ℤ) (open_ : status ≠ .ended) :
    RoomPhase.stored ((state.withStatus status).stamped now) =
      .holding (some ((state.withStatus status).stamped now)) := by
  simp [RoomPhase.stored, open_]

theorem countSubmission_same (state : BattleState) (userId : UserId) :
    (state.countSubmission userId).player1Id = state.player1Id ∧
      (state.countSubmission userId).player2Id = state.player2Id ∧
      (state.countSubmission userId).hp1 = state.hp1 ∧
      (state.countSubmission userId).hp2 = state.hp2 := by
  simp only [BattleState.countSubmission]
  split <;> exact ⟨rfl, rfl, rfl, rfl⟩

theorem applyDamage_players (state : BattleState) (userId : UserId) (damage : ℤ) :
    (state.applyDamage userId damage).player1Id = state.player1Id ∧
      (state.applyDamage userId damage).player2Id = state.player2Id := by
  simp only [BattleState.applyDamage]
  split
  · split <;> exact ⟨rfl, rfl⟩
  · exact ⟨rfl, rfl⟩

theorem mayStore_of_hit {userId : UserId} {damage : ℤ}
    (open_ : copy.status ≠ .ended) (participant : copy.isPlayerInBattle userId = true)
    (nonneg : 0 ≤ damage) (now : ℤ) :
    MayStore roomId call copy
      (((copy.applyDamage userId damage).withStatus .active).stamped now,
        some ⟨userId, damage⟩) where
  player1 := (applyDamage_players copy userId damage).1
  player2 := (applyDamage_players copy userId damage).2
  staysEnded ended := absurd ended open_
  endsAgain ended := absurd ended open_
  hitPoints := Or.inr ⟨nonneg, participant, rfl, rfl⟩

theorem announceResult_follows (powTen : ℚ → ℚ) (summary : JudgeSummary)
    (damage : ℤ) (open_ : state.status ≠ .ended) :
    Follows submit.roomId call (.holding (some state))
      (announceResult powTen submit state summary damage) := by
  apply obeys_bind.mpr
  apply obeys_of_quiet (getUsers_quiet _ _)
  intro _
  split
  · trivial
  apply obeys_quiet_bind (by trivial)
  intro _
  apply obeys_quiet_bind (by trivial)
  intro _
  apply obeys_bind.mpr
  apply obeys_of_quiet (saveSubmission_quiet _ _ _ _)
  intro _
  split
  · have ends : Follows submit.roomId call (.holding (some state))
        (endBattle powTen submit.roomId state none) := by
      apply endBattle_follows
      · intro _
        exact mayStore_of_same open_ rfl rfl rfl rfl
      · intro _ none_eq
        cases none_eq
    apply ends.bind_of_forall
    intro _ _
    trivial
  · trivial

theorem judgeSubmission_follows (powTen : ℚ → ℚ) (self : ℕ)
    (participant : state.isPlayerInBattle submit.userId = true) (active : state.status = .active) :
    Follows submit.roomId call (.holding (some state))
      (judgeSubmission powTen submit self state) := by
  have open_ : state.status ≠ .ended := by
    rw [active]
    decide
  rcases countSubmission_same state submit.userId with ⟨player1, player2, hp1, hp2⟩
  apply obeys_bind.mpr
  apply saveBattleState_obeys
  · intro now
    exact mayStore_of_same open_ player1 player2 hp1 hp2
  intro now
  rw [BattleState.stored_stamped now (by decide)]
  generalize judgingIs : ((state.countSubmission submit.userId).withStatus .judging).stamped now =
    judging
  have judgingStatus : judging.status ≠ .ended := by
    subst judging
    simp
  have judgingParticipant : judging.isPlayerInBattle submit.userId = true := by
    subst judging
    simpa [BattleState.isPlayerInBattle, player1, player2] using participant
  apply obeys_quiet_bind (by trivial)
  intro _
  apply obeys_quiet_bind (by trivial)
  intro _
  apply obeys_bind.mpr
  apply obeys_of_quiet (getProblemData_quiet _)
  intro _
  split
  · apply obeys_quiet_bind (by trivial)
    intro _
    split
    · trivial
    apply obeys_quiet_bind (by trivial)
    intro _
    apply obeys_bind.mpr
    apply saveBattleState_obeys
    · exact mayStore_of_hit judgingStatus judgingParticipant (calculateDamage_nonneg _ _ _ _)
    intro stamp
    rw [BattleState.stored_stamped stamp (by decide)]
    exact announceResult_follows powTen _ _ (by simp)
  · apply obeys_quiet_bind (by trivial)
    intro _
    apply obeys_bind.mpr
    apply saveBattleState_obeys
    · intro stamp
      exact mayStore_of_same judgingStatus rfl rfl rfl rfl
    intro _
    apply obeys_bind.mpr
    apply release_obeys
    trivial

theorem refuse_follows (self : ℕ) (text : String) :
    Follows submit.roomId call phase (refuse submit self text) := by
  apply obeys_bind.mpr
  apply release_obeys
  apply obeys_quiet_bind (by trivial)
  intro _
  trivial

theorem trySubmit_follows (powTen : ℚ → ℚ) (self : ℕ) :
    Follows submit.roomId call phase (trySubmit powTen submit self) := by
  apply obeys_bind.mpr
  apply obeys_of_neutral
  · exact uses_mono (acquireDistributedLock_locking _ _) fun _ => Cmd.Locking.neutral
  intro _
  split
  · apply obeys_read_bind
    intro _
    split
    · exact refuse_follows _ _
    · split
      · exact refuse_follows _ _
      · rename_i participant
        split
        · exact refuse_follows _ _
        · rename_i active
          exact judgeSubmission_follows powTen self (by simpa using participant)
            (not_not.mp active)
  · apply obeys_quiet_bind (by trivial)
    intro _
    trivial

theorem resetJudging_follows :
    Follows submit.roomId call phase (resetJudging submit) := by
  apply obeys_quiet_bind (by trivial)
  intro _
  apply obeys_read_bind
  intro _
  split
  · trivial
  · rename_i copy
    split
    · rename_i judging
      apply obeys_bind.mpr
      apply saveBattleState_obeys
      · intro now
        apply mayStore_of_same (by simp [judging]) <;> rfl
      · intro _
        trivial
    · trivial

theorem handleSubmit_follows (powTen : ℚ → ℚ) (self : ℕ) :
    Follows submit.roomId call phase (handleSubmit powTen submit self) := by
  apply (trySubmit_follows powTen self).bind_of_forall
  intro _ _
  split
  · exact release_obeys _ _ trivial
  · apply resetJudging_follows.bind_of_forall
    intro _ _
    exact release_obeys _ _ trivial

end Submitting

section Bodies

variable {roomId : RoomId}

theorem concede_players (state : BattleState) (userId : UserId) :
    (state.concede userId).player1Id = state.player1Id ∧
      (state.concede userId).player2Id = state.player2Id := by
  simp only [BattleState.concede]
  split <;> exact ⟨rfl, rfl⟩

variable {call : Call} {phase : RoomPhase}

variable {copy : BattleState}

theorem concede_follows (powTen : ℚ → ℚ) (userId : UserId)
    (concedes : call.Concedes roomId) (again : copy.status = .ended → call.Forfeits) :
    Follows roomId call (.holding (some copy))
      (endBattle powTen roomId (copy.concede userId) (some (copy.opponentOf userId))) := by
  rcases concede_players copy userId with ⟨player1, player2⟩
  apply endBattle_follows
  · intro _
    exact
      { player1 := player1
        player2 := player2
        staysEnded := fun _ => rfl
        endsAgain := again
        hitPoints := Or.inl concedes }
  · intro override override_eq
    simp only [Option.some.injEq] at override_eq
    subst override
    rw [player1, player2]
    exact copy.opponentOf_player userId

theorem handleForfeit_follows (powTen : ℚ → ℚ) (userId : UserId) :
    Follows roomId (.forfeit roomId userId) phase (handleForfeit powTen roomId userId) := by
  apply obeys_read_bind
  intro _
  split
  · exact obeys_of_quiet (uses_perform trivial) fun _ => trivial
  · split
    · exact obeys_of_quiet (uses_perform trivial) fun _ => trivial
    · exact concede_follows powTen userId rfl fun _ => trivial

theorem handleGraceTimeout_follows (powTen : ℚ → ℚ) (userId : UserId) :
    Follows roomId (.graceTimeout userId roomId) phase
      (handleGraceTimeout powTen userId roomId) := by
  apply obeys_read_bind
  intro _
  split
  · exact obeys_of_quiet (uses_perform trivial) fun _ => trivial
  · split
    · rename_i copy active
      have again : copy.status = .ended → (Call.graceTimeout userId roomId).Forfeits := by
        rw [active]
        intro ended
        cases ended
      have concedes : (Call.graceTimeout userId roomId).Concedes roomId := rfl
      apply (concede_follows powTen userId concedes again).bind_of_forall
      intro _ _
      exact obeys_of_quiet (uses_perform trivial) fun _ => trivial
    · exact obeys_of_quiet (uses_perform trivial) fun _ => trivial

theorem startCountdown_follows :
    Follows roomId call phase (startCountdown roomId) := by
  apply obeys_read_bind
  intro _
  split
  · trivial
  · split
    · trivial
    · rename_i copy waiting
      have open_ : copy.status ≠ .ended := by
        rw [not_not.mp waiting]
        decide
      apply obeys_bind.mpr
      apply saveBattleState_obeys
      · intro now
        exact mayStore_of_same open_ rfl rfl rfl rfl
      intro now
      rw [BattleState.stored_stamped now (by decide)]
      apply obeys_bind.mpr
      apply obeys_of_quiet (announceCountdown_quiet roomId)
      intro _
      apply obeys_quiet_bind (by trivial)
      intro _
      apply obeys_bind.mpr
      apply saveBattleState_obeys
      · intro stamp
        apply mayStore_of_same (by simp) <;> rfl
      intro _
      exact obeys_of_quiet (uses_perform trivial) fun _ => trivial

theorem matchTimers_follows {state : BattleState} (problem : Problem)
    (open_ : state.status ≠ .ended) :
    Follows roomId call (.holding (some state)) (matchTimers roomId state problem) := by
  apply obeys_set_bind
  · exact mayStore_of_same open_ rfl rfl rfl rfl
  apply obeys_bind.mpr
  apply obeys_of_quiet (announceCountdown_quiet roomId)
  intro _
  apply obeys_quiet_bind (by trivial)
  intro startedAt
  have may : MayStore roomId call (state.withStatus .countdown)
      ({ (state.withStatus .countdown).withStatus .active with startTimestamp := startedAt },
        none) := by
    apply mayStore_of_same (by simp) <;> rfl
  apply obeys_set_bind may
  apply obeys_of_neutral
  · apply uses_perform_bind
    · exact Cmd.Quiet.neutral (by trivial)
    intro _
    apply uses_perform
    constructor <;> simp [Cmd.stores, Cmd.rates]
  · intro _
    trivial

theorem timeoutBattle_follows (open_ : copy.status ≠ .ended) :
    Follows roomId call (.holding (some copy)) (timeoutBattle roomId copy) := by
  apply obeys_perform_bind
  · refine ⟨?_, by simp [Cmd.rates]⟩
    intro saved stores
    simp only [Cmd.stores, if_true, Option.some.injEq] at stores
    subst saved
    exact mayStore_of_same open_ rfl rfl rfl rfl
  · intro _ _
    exact obeys_of_quiet (uses_perform trivial) fun _ => trivial

theorem clear_follows :
    Follows roomId call phase (request (.clearInterval roomId none)) := by
  refine ⟨⟨by simp [Cmd.stores], by simp [Cmd.rates]⟩, ?_⟩
  intro _ _
  trivial

theorem timerTick_follows :
    Follows roomId call phase (timerTick roomId) := by
  apply obeys_read_bind
  intro _
  split
  · exact clear_follows
  · rename_i copy
    split
    · exact clear_follows
    · rename_i active
      have open_ : copy.status ≠ .ended := by
        rw [not_not.mp active]
        decide
      apply obeys_quiet_bind (by trivial)
      intro _
      apply obeys_quiet_bind (by trivial)
      intro _
      apply obeys_bind.mpr
      apply obeys_of_quiet
      · split
        · exact uses_perform trivial
        · trivial
      intro _
      split
      · exact timeoutBattle_follows open_
      · trivial

def Call.startingPhase (roomId : RoomId) : Call → RoomPhase
  | .createMatch room player1Id player2Id problem now matchId =>
    if room = roomId then
      .holding (some (openingState player1Id player2Id problem now matchId))
    else .unread
  | _ => .unread

theorem startingPhase_eq_unread (notCreate : ¬call.Creates roomId) :
    call.startingPhase roomId = .unread := by
  cases call with
  | createMatch => exact if_neg notCreate
  | _ => rfl

theorem body_follows (powTen : ℚ → ℚ) (self : ℕ) (call : Call) :
    Follows roomId call (call.startingPhase roomId) (body powTen self call) := by
  by_cases same : call.roomId = roomId
  · subst roomId
    cases call with
    | submit => exact handleSubmit_follows powTen self
    | forfeit _ userId => exact handleForfeit_follows powTen userId
    | ready => exact startCountdown_follows
    | graceTimeout userId => exact handleGraceTimeout_follows powTen userId
    | createMatch =>
      simp only [Call.startingPhase, Call.roomId, if_true]
      apply matchTimers_follows
      intro ended
      cases ended
    | timerTick => exact timerTick_follows
  · apply obeys_of_neutral
    · exact uses_mono (body_within powTen self call) fun _ within => within.neutral same
    · intro _
      trivial

end Bodies

end CodeClash.Battle
