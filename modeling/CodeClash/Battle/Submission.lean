import CodeClash.Battle.Footprint

/-!
# What a submission does

The specification of `handleSubmit` for a call that nobody disturbs: the stored battle is ACTIVE,
the lock is free, nothing is rejected, and nothing else touches the room, the user's lock or the
rows of the players. The rest of the store may change between any two commands.
-/

namespace CodeClash.Battle

open Async Program Function

namespace BattleState

def hpOf (state : BattleState) (userId : UserId) : ℤ :=
  if state.player1Id = userId then state.hp1 else state.hp2

def opponentHp (state : BattleState) (userId : UserId) : ℤ :=
  if state.player1Id = userId then state.hp2 else state.hp1

def opponentCount (state : BattleState) (userId : UserId) : ℕ :=
  if state.player1Id = userId then state.sub2Count else state.sub1Count

end BattleState

/-- A counted submission of `userId` that deals the damage to the other player. -/
structure Hit (userId : UserId) (damage : ℤ) (battle final : BattleState) : Prop where
  player1 : final.player1Id = battle.player1Id
  player2 : final.player2Id = battle.player2Id
  ownHp : final.hpOf userId = battle.hpOf userId
  ownCount : final.submissionCount userId = battle.submissionCount userId + 1
  opponentHp : final.opponentHp userId = max 0 (battle.opponentHp userId - damage)
  opponentCount : final.opponentCount userId = battle.opponentCount userId

def RatesWin (winnerId loserId : UserId) (made : List RatingEffect) : Prop :=
  ∃ winnerEloChange loserEloChange,
    made.Perm [.won winnerId winnerEloChange, .lost loserId loserEloChange,
      .streakIncremented winnerId, .streakReset loserId]

/-- What a submission of `userId` with the given damage makes of a battle, and the updates
of user rows it makes. -/
structure SubmissionResult (userId : UserId) (damage : ℤ) (battle final : BattleState)
    (made : List RatingEffect) : Prop extends Hit userId damage battle final where
  status : final.status = if final.opponentHp userId = 0 then .ended else .active
  rated : final.status = .ended → RatesWin userId (battle.opponentOf userId) made
  unrated : final.status ≠ .ended → made = []

/-- The store after the submission: the result is stored, its updates are made, and
neither key of the lock remains. -/
structure SubmissionOutcome (roomId : RoomId) (userId : UserId) (damage : ℤ)
    (battle : BattleState) (before after : Store) : Prop where
  stored : ∃ final made, after.battles roomId = some final ∧
    ratings roomId after.log = made ++ ratings roomId before.log ∧
      SubmissionResult userId damage battle final made
  unlocked : after.locks userId = none
  valueless : after.lockValues userId = none

section Hits

variable {userId : UserId} {damage : ℤ} {battle final : BattleState}

theorem Hit.withStatus (hit : Hit userId damage battle final) (status : Status) :
    Hit userId damage battle (final.withStatus status) := { hit with }

theorem Hit.stamped (hit : Hit userId damage battle final) (now : ℤ) :
    Hit userId damage battle (final.stamped now) := { hit with }

theorem countSubmission_startTimestamp :
    (battle.countSubmission userId).startTimestamp = battle.startTimestamp := by
  rw [BattleState.countSubmission]
  split <;> rfl

theorem hit_of_submission {judging : BattleState} (alive1 : 0 < battle.hp1)
    (alive2 : 0 < battle.hp2) (nonneg : 0 ≤ damage)
    (counted : ∃ now, judging = ((battle.countSubmission userId).withStatus .judging).stamped now) :
    Hit userId damage battle (judging.applyDamage userId damage) := by
  rcases counted with ⟨_, rfl⟩
  have spared {hp : ℤ} (alive : 0 < hp) (harmless : ¬0 < damage) : max 0 (hp - damage) = hp := by
    omega
  by_cases first : battle.player1Id = userId <;> by_cases hurts : 0 < damage <;> constructor <;>
    simp [BattleState.countSubmission, BattleState.applyDamage, BattleState.hpOf,
      BattleState.opponentHp, BattleState.opponentCount, BattleState.submissionCount, first, hurts,
      spared alive1, spared alive2]

theorem Hit.over_iff (hit : Hit userId damage battle final) (alive : 0 < battle.hpOf userId) :
    final.hp1 ≤ 0 ∨ final.hp2 ≤ 0 ↔ final.opponentHp userId = 0 := by
  have ownAlive : 0 < final.hpOf userId := by
    rw [hit.ownHp]
    exact alive
  have nonneg : 0 ≤ final.opponentHp userId := by
    rw [hit.opponentHp]
    exact le_max_left _ _
  simp only [BattleState.hpOf, BattleState.opponentHp] at ownAlive nonneg ⊢
  split at ownAlive <;> rename_i first <;> simp only [first, if_true, if_false] at nonneg ⊢ <;>
    omega

theorem Hit.winner (hit : Hit userId damage battle final) (alive : 0 < battle.hpOf userId)
    (participant : battle.isPlayerInBattle userId = true)
    (exhausted : final.opponentHp userId = 0) :
    final.winnerId none = userId ∧ final.loserId userId = battle.opponentOf userId := by
  have ownAlive : 0 < final.hpOf userId := by
    rw [hit.ownHp]
    exact alive
  simp only [BattleState.isPlayerInBattle, decide_eq_true_eq] at participant
  rw [BattleState.loserId, BattleState.opponentOf, BattleState.winnerId, hit.player1, hit.player2]
  simp only [BattleState.hpOf, BattleState.opponentHp, hit.player1] at ownAlive exhausted
  by_cases first : battle.player1Id = userId
  · simp only [first, if_true] at ownAlive exhausted ⊢
    exact ⟨if_pos (by omega), trivial⟩
  · have second : battle.player2Id = userId := participant.resolve_left first
    simp only [first, if_false] at ownAlive exhausted ⊢
    exact ⟨by rw [if_neg (by omega), second], if_neg (Ne.symm first)⟩

end Hits

theorem ratesWin_of_perm {winnerId loserId : UserId} {winnerEloChange loserEloChange : ℤ}
    {made : List RatingEffect}
    (permuted : made.Perm [.won winnerId winnerEloChange, .lost loserId loserEloChange]) :
    RatesWin winnerId loserId (.streakReset loserId :: .streakIncremented winnerId :: made) := by
  refine ⟨winnerEloChange, loserEloChange, ?_⟩
  have streaks : List.Perm ([.streakReset loserId, .streakIncremented winnerId] ++ made)
      (made ++ [.streakIncremented winnerId, .streakReset loserId]) :=
    List.perm_append_comm.trans ((List.Perm.swap _ _ _).append_left made)
  exact streaks.trans (permuted.append_right _)

/-- Nobody else touches the room, the lock of the user or the existence of user rows. -/
structure LeavesAlone (roomId : RoomId) (userId : UserId) (meanwhile : Store → Store) :
    Prop where
  battle : ∀ store, (meanwhile store).battles roomId = store.battles roomId
  lock : ∀ store, (meanwhile store).locks userId = store.locks userId
  value : ∀ store, (meanwhile store).lockValues userId = store.lockValues userId
  ratings : ∀ store, ratings roomId (meanwhile store).log = ratings roomId store.log
  rows : ∀ store user, store.users user ≠ none → (meanwhile store).users user ≠ none

/-- No call is rejected, the problem is found, and the judge returns the summary. -/
structure Answers (problem : Problem) (summary : JudgeSummary) (choice : Choice) : Prop where
  succeeds : choice.fails = false
  problem : choice.problem = some problem
  summary : choice.summary = summary

def announcedWinner (roomId : RoomId) (sent : Recipient × Message) : Option UserId :=
  match sent with
  | (.room room, .ended winnerId _ _ _ _ _ _ _) => if room = roomId then some winnerId else none
  | _ => none

def Cmd.announces (roomId : RoomId) : Cmd → Option UserId
  | .emit recipient message => announcedWinner roomId (recipient, message)
  | _ => none

structure SubmitView where
  steps : ℕ
  battle : Option BattleState
  lock : Option ℕ
  value : Option ℕ
  made : List RatingEffect
  announced : List UserId

namespace SubmitView

def atStep (view : SubmitView) (steps : ℕ) : SubmitView := { view with steps := steps }

def tick (view : SubmitView) : SubmitView := view.atStep (view.steps + 1)

def withBattle (view : SubmitView) (state : BattleState) : SubmitView :=
  { view with battle := some state }

def withLock (view : SubmitView) (lock : Option ℕ) : SubmitView := { view with lock := lock }

def withValue (view : SubmitView) (value : Option ℕ) : SubmitView := { view with value := value }

def adding (view : SubmitView) (effects : List RatingEffect) : SubmitView :=
  { view with made := effects ++ view.made }

def announcing (view : SubmitView) (winner : Option UserId) : SubmitView :=
  { view with announced := winner.toList ++ view.announced }

end SubmitView

structure Setting where
  submit : SubmitRequest
  choices : ℕ → Choice
  HasRow : UserId → Prop

def undisturbed (setting : Setting) : Protocol signature SubmitView where
  allows _ _ := True
  expects view cmd reply :=
    match cmd, reply with
    | .now, now => now = (setting.choices view.steps).now
    | .getBattle room, found => room = setting.submit.roomId → found = view.battle
    | .setLock user _, success => user = setting.submit.userId → success = view.lock.isNone
    | .getLockValue user _, found => user = setting.submit.userId → found = view.value
    | .findProblem _, found =>
      found = answer (setting.choices view.steps).fails (setting.choices view.steps).problem
    | .judge _ _ _, judged =>
      judged = answer (setting.choices view.steps).fails (setting.choices view.steps).summary
    | .findUser _, found => ∃ user, found = answer (setting.choices view.steps).fails user
    | .rate _ effect, updated =>
      setting.HasRow effect.userId → (setting.choices view.steps).fails = false → updated = .ok ()
    | .findAchievements _, found =>
      ∃ earned, found = answer (setting.choices view.steps).fails earned
    | _, _ => True
  after view cmd reply :=
    match cmd, reply with
    | .setBattle room state _, _ =>
      if room = setting.submit.roomId then view.tick.withBattle state else view.tick
    | .clearInterval room (some state), _ =>
      if room = setting.submit.roomId then view.tick.withBattle state else view.tick
    | .setLock user token, success =>
      if user = setting.submit.userId ∧ success = true then view.tick.withLock (some token)
      else view.tick
    | .setLockValue user token, _ =>
      if user = setting.submit.userId then view.tick.withValue (some token) else view.tick
    | .evalUnlock user token _, _ =>
      if user = setting.submit.userId ∧ view.value = some token then view.tick.withLock none
      else view.tick
    | .delLockValue user, _ =>
      if user = setting.submit.userId then view.tick.withValue none else view.tick
    | .rate room effect, .ok _ =>
      if room = setting.submit.roomId then view.tick.adding [effect] else view.tick
    | .emit recipient message, _ =>
      view.tick.announcing (announcedWinner setting.submit.roomId (recipient, message))
    | _, _ => view.tick

section Specifications

variable {setting : Setting} {view : SubmitView} {α : Type}

theorem undisturbed_after_quiet {cmd : Cmd} (quiet : cmd.Quiet)
    (silent : cmd.announces setting.submit.roomId = none) (reply : cmd.Reply) :
    (undisturbed setting).after view cmd reply = view.tick := by
  cases cmd with
  | emit => exact congrArg view.tick.announcing silent
  | _ => first | rfl | exact absurd quiet not_false

theorem Cmd.Plain.silent {cmd : Cmd} (plain : cmd.Plain) (roomId : RoomId) :
    cmd.announces roomId = none := by
  cases cmd with
  | emit => exact plain.elim
  | _ => rfl

theorem undisturbed_after_setBattle (state : BattleState) (strike : Option Strike)
    (reply : Unit) :
    (undisturbed setting).after view (.setBattle setting.submit.roomId state strike) reply =
      view.tick.withBattle state :=
  if_pos rfl

theorem undisturbed_after_rate (effect : RatingEffect) :
    (undisturbed setting).after view (.rate setting.submit.roomId effect) (.ok ()) =
      view.tick.adding [effect] :=
  if_pos rfl

theorem undisturbed_after_setLock (token : ℕ) :
    (undisturbed setting).after view (.setLock setting.submit.userId token) true =
      view.tick.withLock (some token) :=
  if_pos ⟨rfl, rfl⟩

theorem undisturbed_after_setLockValue (token : ℕ) (reply : Unit) :
    (undisturbed setting).after view (.setLockValue setting.submit.userId token) reply =
      view.tick.withValue (some token) :=
  if_pos rfl

theorem undisturbed_after_getLockValue (caller : ℕ) (found : Option ℕ) :
    (undisturbed setting).after view (.getLockValue setting.submit.userId caller) found =
      view.tick := rfl

theorem undisturbed_after_evalUnlock {token : ℕ} (held : view.value = some token) (caller : ℕ)
    (reply : Unit) :
    (undisturbed setting).after view (.evalUnlock setting.submit.userId token caller) reply =
      view.tick.withLock none :=
  if_pos ⟨rfl, held⟩

theorem undisturbed_after_delLockValue (reply : Unit) :
    (undisturbed setting).after view (.delLockValue setting.submit.userId) reply =
      view.tick.withValue none :=
  if_pos rfl

theorem quiet_step {post : SubmitView → α → Prop} {cmd : Cmd} {next : cmd.Reply → Prog α}
    (quiet : cmd.Quiet) (silent : cmd.announces setting.submit.roomId = none)
    (later : ∀ reply, (undisturbed setting).expects view cmd reply →
      (next reply).Obeys (undisturbed setting) post view.tick) :
    (request cmd >>= next).Obeys (undisturbed setting) post view := by
  apply obeys_perform_bind trivial
  intro reply expected
  rw [undisturbed_after_quiet quiet silent]
  exact later reply expected

theorem announce_step {post : SubmitView → α → Prop} {message : Message} {winnerId : UserId}
    {next : Unit → Prog α}
    (announces : announcedWinner setting.submit.roomId (.room setting.submit.roomId, message) =
      some winnerId)
    (later : (next ()).Obeys (undisturbed setting) post
      (view.tick.announcing (some winnerId))) :
    (request (.emit (.room setting.submit.roomId) message) >>= next).Obeys (undisturbed setting)
      post view := by
  apply obeys_perform_bind trivial
  intro _ _
  rw [← announces] at later
  exact later

theorem plain_spec {post : SubmitView → α → Prop} {program : Prog α}
    (uses : program.Uses Cmd.Plain) (final : ∀ steps value, post (view.atStep steps) value) :
    program.Obeys (undisturbed setting) post view := by
  induction program generalizing view with
  | done value => exact final view.steps value
  | issue _ _ ih =>
    rcases uses with ⟨plain, later⟩
    refine ⟨trivial, ?_⟩
    intro reply _
    rw [undisturbed_after_quiet plain.quiet (plain.silent _)]
    apply ih reply (later reply)
    intro steps value
    exact final steps value

theorem undisturbed_after_battle {cmd : Cmd} (keeps : cmd.stores setting.submit.roomId = none)
    (reply : cmd.Reply) : ((undisturbed setting).after view cmd reply).battle = view.battle := by
  cases cmd with
  | setBattle room =>
    have elsewhere : room ≠ setting.submit.roomId := by
      rintro rfl
      simp [Cmd.stores] at keeps
    simp only [undisturbed, elsewhere, if_false]
    rfl
  | clearInterval room save =>
    cases save with
    | none => rfl
    | some =>
      have elsewhere : room ≠ setting.submit.roomId := by
        rintro rfl
        simp [Cmd.stores] at keeps
      simp only [undisturbed, elsewhere, if_false]
      rfl
  | rate =>
    cases reply with
    | error => rfl
    | ok =>
      simp only [undisturbed]
      split <;> rfl
  | _ =>
    simp only [undisturbed]
    first | rfl | split <;> rfl

theorem keeps_spec {post : SubmitView → α → Prop} {program : Prog α}
    (keeps : program.Uses fun cmd => Cmd.stores setting.submit.roomId cmd = none)
    (final : ∀ reached value, reached.battle = view.battle → post reached value) :
    program.Obeys (undisturbed setting) post view := by
  induction program generalizing view with
  | done value => exact final view value rfl
  | issue _ _ ih =>
    rcases keeps with ⟨keepsFirst, keepsLater⟩
    refine ⟨trivial, ?_⟩
    intro reply _
    apply ih reply (keepsLater reply)
    intro reached value same
    exact final reached value (same.trans (undisturbed_after_battle keepsFirst reply))

theorem release_keeps {post : SubmitView → Unit → Prop} {self : ℕ}
    (final : ∀ reached, reached.battle = view.battle → post reached ()) :
    (releaseDistributedLock setting.submit.userId self).Obeys (undisturbed setting) post view :=
  keeps_spec (uses_mono (releaseDistributedLock_locking _ self)
    fun _ locking => locking.stores _) fun reached _ => final reached

variable {state battle : BattleState} {post : SubmitView → Except Failure Unit → Prop}
  {problem : Problem} {summary : JudgeSummary} {testCase : TestCase} {testCases : List TestCase}
  {damage : ℤ}

theorem save_spec {post : SubmitView → BattleState → Prop} {strike : Option Strike} (final : post
      ((view.atStep (view.steps + 2)).withBattle
        (state.stamped (setting.choices view.steps).now))
      (state.stamped (setting.choices view.steps).now)) :
    (saveBattleState setting.submit.roomId state strike).Obeys (undisturbed setting) post view := by
  apply quiet_step (by trivial) rfl
  rintro _ rfl
  refine ⟨trivial, ?_⟩
  intro _ _
  rw [undisturbed_after_setBattle]
  exact final

/-- One of the two lookups after the `steps` commands is rejected. -/
def Setting.LookupRejected (setting : Setting) (steps : ℕ) : Prop :=
  (setting.choices (steps + 1)).fails = true ∨ (setting.choices (steps + 2)).fails = true

theorem lookup_spec {post : SubmitView → Except Failure (Option User × Option User) → Prop}
    {first second : UserId}
    (rejected : setting.LookupRejected view.steps → ∀ failure,
      post (view.atStep (view.steps + 3)) (.error failure))
    (found : ¬setting.LookupRejected view.steps → ∀ users,
      post (view.atStep (view.steps + 3)) (.ok users)) :
    (promiseAll (getUserById first) (getUserById second)).Obeys (undisturbed setting) post
      view := by
  apply quiet_step (by trivial) rfl
  intro order _
  cases order <;>
  · apply quiet_step (by trivial) rfl
    rintro _ ⟨_, rfl⟩
    apply quiet_step (by trivial) rfl
    rintro _ ⟨_, rfl⟩
    cases firstFails : (setting.choices view.tick.steps).fails <;>
      cases secondFails : (setting.choices view.tick.tick.steps).fails
    · apply found
      rintro (fails | fails)
      · exact absurd (firstFails.symm.trans fails) Bool.false_ne_true
      · exact absurd (secondFails.symm.trans fails) Bool.false_ne_true
    · exact rejected (Or.inr secondFails) _
    · exact rejected (Or.inl firstFails) _
    · exact rejected (Or.inl firstFails) _

theorem announceResult_spec (powTen : ℚ → ℚ)
    (rejected : setting.LookupRejected view.steps → ∀ failure,
      post (view.atStep (view.steps + 3)) (.error failure))
    (ends : ¬setting.LookupRejected view.steps → state.hp1 ≤ 0 ∨ state.hp2 ≤ 0 → ∀ steps,
      (endBattle powTen setting.submit.roomId state none).Obeys (undisturbed setting)
        (fun reached _ => post reached (.ok ())) (view.atStep steps))
    (goesOn : ¬(state.hp1 ≤ 0 ∨ state.hp2 ≤ 0) → ∀ steps, post (view.atStep steps) (.ok ())) :
    (announceResult powTen setting.submit state summary damage).Obeys (undisturbed setting) post
      view := by
  apply obeys_bind.mpr
  apply lookup_spec rejected
  rintro found ⟨_, _⟩
  apply quiet_step (by trivial) rfl
  intro _ _
  apply quiet_step (by trivial) (by split_ifs <;> rfl)
  intro _ _
  apply obeys_bind.mpr
  apply plain_spec (saveSubmission_plain setting.submit state summary damage)
  intro _ _
  split
  · rename_i defeated
    apply obeys_bind.mpr
    exact ends found defeated _
  · rename_i alive
    exact goesOn alive _

/-- The problem that the command after `steps` commands finds has test cases. -/
def Setting.Finds (setting : Setting) (steps : ℕ) (problem : Problem) (testCase : TestCase)
    (testCases : List TestCase) : Prop :=
  (setting.choices steps).fails = false ∧ (setting.choices steps).problem = some problem ∧
    problem.testCases = .array (testCase :: testCases)

theorem getProblemData_spec {post : SubmitView → Option Problem × List TestCase → Prop}
    {problemId : ProblemId}
    (final : ∀ data, (∀ problem testCase testCases, data = (some problem, testCase :: testCases) ↔
      setting.Finds view.steps problem testCase testCases) → post view.tick data) :
    (getProblemData problemId).Obeys (undisturbed setting) post view := by
  apply quiet_step (by trivial) rfl
  rintro _ rfl
  cases fails : (setting.choices view.steps).fails with
  | true =>
    apply final
    simp [Setting.Finds, fails]
  | false =>
    cases found : (setting.choices view.steps).problem with
    | none =>
      apply final
      simp [Setting.Finds, found]
    | some problem =>
      cases column : problem.testCases with
      | text =>
        simp only [answer, Bool.false_eq_true, if_false, column]
        apply final
        grind [Setting.Finds]
      | array =>
        simp only [answer, Bool.false_eq_true, if_false, column]
        apply final
        grind [Setting.Finds]

/-- The damage of a submission whose judging starts after `steps` commands. -/
def Setting.damageAt (setting : Setting) (problem : Problem) (battle : BattleState)
    (steps : ℕ) : ℤ :=
  calculateDamage (setting.choices (steps + 5)).summary
    ((setting.choices (steps + 6)).now - battle.startTimestamp)
    (orElse problem.timeLimitMs 300000) (orElse problem.p50RuntimeMs 1000)

theorem judgeSubmission_spec (powTen : ℚ → ℚ) (self : ℕ)
    (alive1 : 0 < battle.hp1) (alive2 : 0 < battle.hp2)
    (missing : (∀ problem testCase testCases,
      ¬setting.Finds (view.steps + 4) problem testCase testCases) → ∀ reached final,
        reached.battle = some final → final.status = .active → final.hp1 = battle.hp1 →
          final.hp2 = battle.hp2 → post reached (.ok ()))
    (rejected : (setting.choices (view.steps + 5)).fails = true → ∀ steps final failure,
      final.hp1 = battle.hp1 → final.hp2 = battle.hp2 →
        post ((view.atStep steps).withBattle final) (.error failure))
    (judged : ∀ problem testCase testCases,
      setting.Finds (view.steps + 4) problem testCase testCases →
        (setting.choices (view.steps + 5)).fails = false → ∀ hit, hit.status = .active →
          Hit setting.submit.userId (setting.damageAt problem battle view.steps) battle hit →
            (announceResult powTen setting.submit hit (setting.choices (view.steps + 5)).summary
              (setting.damageAt problem battle view.steps)).Obeys (undisturbed setting) post
              ((view.atStep (view.steps + 9)).withBattle hit)) :
    (judgeSubmission powTen setting.submit self battle).Obeys (undisturbed setting) post
      view := by
  apply obeys_bind.mpr
  apply save_spec
  generalize counted : ((battle.countSubmission setting.submit.userId).withStatus .judging).stamped
    (setting.choices view.steps).now = judging
  have sameHp : judging.hp1 = battle.hp1 ∧ judging.hp2 = battle.hp2 := by
    rw [← counted, BattleState.countSubmission]
    split <;> exact ⟨rfl, rfl⟩
  apply quiet_step (by trivial) rfl
  intro _ _
  apply quiet_step (by trivial) rfl
  intro _ _
  apply obeys_bind.mpr
  apply getProblemData_spec
  intro data found
  have absent (notFound : ∀ problem testCase testCases,
      data ≠ (some problem, testCase :: testCases)) (problem : Problem) (testCase : TestCase)
      (testCases : List TestCase) : ¬setting.Finds (view.steps + 4) problem testCase testCases :=
    fun finds => notFound problem testCase testCases ((found _ _ _).mpr finds)
  have reopened (notFound : ∀ problem testCase testCases,
      data ≠ (some problem, testCase :: testCases)) (view : SubmitView) :
      (do
        request (.emit (.caller setting.submit.userId) (.submitError "Problem data not found"))
        let _ ← saveBattleState setting.submit.roomId (judging.withStatus .active) none
        releaseDistributedLock setting.submit.userId self
        return .ok () : Prog (Except Failure Unit)).Obeys (undisturbed setting) post view := by
    apply quiet_step (by trivial) rfl
    intro _ _
    apply obeys_bind.mpr
    apply save_spec
    apply obeys_bind.mpr
    apply release_keeps
    intro reached same
    exact missing (absent notFound) reached _ same rfl sameHp.1 sameHp.2
  rcases data with ⟨_ | problem, _ | ⟨testCase, testCases⟩⟩
  · exact reopened (by simp) _
  · exact reopened (by simp) _
  · exact reopened (by simp) _
  have finds := (found problem testCase testCases).mp rfl
  apply quiet_step (by trivial) rfl
  intro reply expected
  have isAnswer : reply = answer (setting.choices (view.steps + 5)).fails
    (setting.choices (view.steps + 5)).summary := expected
  subst isAnswer
  cases fails : (setting.choices (view.steps + 5)).fails with
  | true => exact rejected fails _ judging .rejected sameHp.1 sameHp.2
  | false =>
    apply quiet_step (by trivial) rfl
    rintro _ rfl
    have sameStart : judging.startTimestamp = battle.startTimestamp := by
      rw [← counted, BattleState.stamped_startTimestamp, BattleState.withStatus_startTimestamp,
        countSubmission_startTimestamp]
    have hit := hit_of_submission alive1 alive2
      (calculateDamage_nonneg _ _ _ _ : 0 ≤ setting.damageAt problem battle view.steps)
      ⟨_, counted.symm⟩
    apply obeys_bind.mpr
    apply save_spec
    rw [sameStart]
    exact judged problem testCase testCases finds fails _ rfl
      ((hit.withStatus .active).stamped _)

theorem acquire_spec {post : SubmitView → Bool → Prop} {self : ℕ}
    (held : view.lock ≠ none → post view.tick false)
    (free : view.lock = none →
      post ((((view.atStep (view.steps + 2)).withLock (some self)).withValue (some self))) true) :
    (acquireDistributedLock setting.submit.userId self).Obeys (undisturbed setting) post
      view := by
  refine ⟨trivial, ?_⟩
  intro success expected
  cases isHeld : view.lock with
  | some =>
    have refused : success = false := by
      rw [expected rfl, isHeld]
      rfl
    subst refused
    have kept : (undisturbed setting).after view (.setLock setting.submit.userId self) false =
        view.tick := if_neg (by simp)
    rw [kept]
    exact held (by simp [isHeld])
  | none =>
    have acquired : success = true := by
      rw [expected rfl, isHeld]
      rfl
    subst acquired
    rw [undisturbed_after_setLock]
    refine ⟨trivial, ?_⟩
    intro _ _
    rw [undisturbed_after_setLockValue]
    exact free isHeld

theorem release_spec {post : SubmitView → Unit → Prop} {self token : ℕ}
    (held : view.value = some token)
    (final : ∀ steps, post (((view.atStep steps).withLock none).withValue none) ()) :
    (releaseDistributedLock setting.submit.userId self).Obeys (undisturbed setting) post
      view := by
  refine ⟨trivial, ?_⟩
  intro found expected
  have foundToken : found = some token := (expected rfl).trans held
  subst foundToken
  rw [undisturbed_after_getLockValue]
  refine ⟨trivial, ?_⟩
  intro reply _
  have stillHeld : view.tick.value = some token := held
  rw [undisturbed_after_evalUnlock stillHeld]
  refine ⟨trivial, ?_⟩
  intro _ _
  rw [undisturbed_after_delLockValue]
  exact final _

theorem trySubmit_spec (powTen : ℚ → ℚ) (self : ℕ)
    (stored : view.battle = some battle) (active : battle.status = .active)
    (refused : view.lock ≠ none ∨ battle.isPlayerInBattle setting.submit.userId = false →
      ∀ reached, reached.battle = some battle → post reached (.ok ()))
    (judges : view.lock = none → battle.isPlayerInBattle setting.submit.userId = true →
      (judgeSubmission powTen setting.submit self battle).Obeys (undisturbed setting) post
        (((view.atStep (view.steps + 3)).withLock (some self)).withValue (some self))) :
    (trySubmit powTen setting.submit self).Obeys (undisturbed setting) post view := by
  apply obeys_bind.mpr
  apply acquire_spec
  · intro held
    apply quiet_step (by trivial) rfl
    intro _ _
    exact refused (Or.inl held) _ stored
  · intro free
    apply obeys_perform_bind trivial
    intro found expected
    have foundBattle : found = some battle := (expected rfl).trans stored
    subst foundBattle
    cases participant : battle.isPlayerInBattle setting.submit.userId with
    | false =>
      simp only [participant, if_true]
      apply obeys_bind.mpr
      apply release_keeps
      intro _ same
      apply quiet_step (by trivial) rfl
      intro _ _
      exact refused (Or.inr participant) _ (same.trans stored)
    | true =>
      simp only [participant, active, ne_eq, not_true_eq_false, if_false, Bool.true_eq_false]
      exact judges free participant

section Answered

variable (answers : ∀ n, (setting.choices n).fails = false)

include answers

theorem not_lookupRejected (steps : ℕ) : ¬setting.LookupRejected steps := by
  simp [Setting.LookupRejected, answers]

theorem rate_step {post : SubmitView → α → Prop} {effect : RatingEffect}
    {next : Except Failure Unit → Prog α} (hasRow : setting.HasRow effect.userId)
    (later : (next (.ok ())).Obeys (undisturbed setting) post (view.tick.adding [effect])) :
    (request (.rate setting.submit.roomId effect) >>= next).Obeys (undisturbed setting) post
      view := by
  apply obeys_perform_bind trivial
  intro updated expected
  have succeeded : updated = .ok () := expected hasRow (answers _)
  subst succeeded
  rw [undisturbed_after_rate]
  exact later

theorem updateBattleStats_spec {post : SubmitView → Except Failure (Unit × Unit) → Prop}
    {winnerId loserId : UserId} {winnerEloChange loserEloChange : ℤ}
    (winnerRow : setting.HasRow winnerId) (loserRow : setting.HasRow loserId)
    (final : ∀ steps made,
      made.Perm [.won winnerId winnerEloChange, .lost loserId loserEloChange] →
        post ((view.atStep steps).adding made) (.ok ((), ()))) :
    (updateBattleStats setting.submit.roomId winnerId loserId winnerEloChange loserEloChange).Obeys
      (undisturbed setting) post view := by
  apply quiet_step (by trivial) rfl
  intro order _
  cases order with
  | true =>
    apply rate_step answers (by exact winnerRow)
    apply rate_step answers (by exact loserRow)
    exact final _ [.lost loserId loserEloChange, .won winnerId winnerEloChange]
      (List.Perm.swap _ _ _)
  | false =>
    apply rate_step answers (by exact loserRow)
    apply rate_step answers (by exact winnerRow)
    exact final _ [.won winnerId winnerEloChange, .lost loserId loserEloChange]
      (List.Perm.refl _)

theorem checkAndGrant_spec {post : SubmitView → Except Failure (List Achievement) → Prop}
    {userId : UserId} {stats : AchievementStats}
    (final : ∀ steps earned, post (view.atStep steps) (.ok earned)) :
    (checkAndGrant userId stats).Obeys (undisturbed setting) post view := by
  apply quiet_step (by trivial) rfl
  rintro _ ⟨earnedIds, rfl⟩
  rw [answers _]
  apply obeys_bind.mpr
  apply plain_spec (grantAll_plain userId stats earnedIds ACHIEVEMENTS)
  intro steps newlyEarned
  exact final steps newlyEarned

theorem settleBattle_spec (powTen : ℚ → ℚ) {winnerId loserId : UserId}
    (winnerRow : setting.HasRow winnerId) (loserRow : setting.HasRow loserId)
    (final : ∀ steps made, RatesWin winnerId loserId made →
      post (((view.atStep steps).adding made).announcing (some winnerId)) (.ok ())) :
    (settleBattle powTen setting.submit.roomId state winnerId loserId).Obeys
      (undisturbed setting) post view := by
  apply obeys_bind.mpr
  apply lookup_spec fun rejected => absurd rejected (not_lookupRejected answers _)
  rintro _ ⟨_, _⟩
  apply obeys_bind.mpr
  apply updateBattleStats_spec answers winnerRow loserRow
  intro _ _ permuted
  apply quiet_step (by trivial) rfl
  intro _ _
  apply quiet_step (by trivial) rfl
  rintro _ ⟨_, rfl⟩
  rw [answers _]
  apply obeys_bind.mpr
  apply checkAndGrant_spec answers
  intro _ _
  apply rate_step answers (by exact winnerRow)
  apply rate_step answers (by exact loserRow)
  refine announce_step (if_pos rfl) ?_
  apply quiet_step (by trivial) rfl
  intro _ _
  exact final _ _ (ratesWin_of_perm permuted)

theorem endBattle_spec (powTen : ℚ → ℚ) {post : SubmitView → Unit → Prop}
    {override : Option UserId} {winnerId loserId : UserId}
    (winner : state.winnerId override = winnerId) (loser : state.loserId winnerId = loserId)
    (winnerRow : setting.HasRow winnerId) (loserRow : setting.HasRow loserId)
    (final : ∀ steps now made, RatesWin winnerId loserId made →
      post ((((view.atStep steps).withBattle ((state.withStatus .ended).stamped now)).adding
        made).announcing (some winnerId)) ()) :
    (endBattle powTen setting.submit.roomId state override).Obeys (undisturbed setting) post
      view := by
  subst winner loser
  apply obeys_bind.mpr
  apply save_spec
  apply obeys_bind.mpr
  apply settleBattle_spec answers powTen winnerRow loserRow
  intro steps made rates
  exact final steps _ made rates

theorem storeResult_spec (powTen : ℚ → ℚ)
    (participant : battle.isPlayerInBattle setting.submit.userId = true)
    (alive : 0 < battle.hpOf setting.submit.userId) (ownRow : setting.HasRow setting.submit.userId)
    (opponentRow : setting.HasRow (battle.opponentOf setting.submit.userId))
    (active : state.status = .active) (hit : Hit setting.submit.userId damage battle state)
    (final : ∀ steps settled made winner,
      SubmissionResult setting.submit.userId damage battle settled made →
        post ((((view.atStep steps).withBattle settled).adding made).announcing winner)
          (.ok ())) :
    (announceResult powTen setting.submit state summary damage).Obeys
      (undisturbed setting) post (view.withBattle state) := by
  have over_iff := hit.over_iff alive
  apply announceResult_spec powTen
    (fun rejected => absurd rejected (not_lookupRejected answers _))
  · intro _ defeated _
    have exhausted := over_iff.mp defeated
    rcases hit.winner alive participant exhausted with ⟨winner, loser⟩
    apply endBattle_spec answers powTen winner loser ownRow opponentRow
    intro steps now _ rates
    apply final
    refine ⟨(hit.withStatus .ended).stamped now, ?_, ?_, ?_⟩
    · exact (if_pos exhausted).symm
    · intro _
      exact rates
    · intro notEnded
      exact absurd rfl notEnded
  · intro goesOn steps
    have notExhausted : state.opponentHp setting.submit.userId ≠ 0 :=
      fun exhausted => goesOn (over_iff.mpr exhausted)
    apply final steps state [] none
    refine ⟨hit, ?_, ?_, ?_⟩
    · rw [active, if_neg notExhausted]
    · intro ended
      rw [active] at ended
      cases ended
    · intro _
      rfl

end Answered

theorem handleSubmit_spec (powTen : ℚ → ℚ) (self : ℕ)
    (answers : ∀ n, Answers problem summary (setting.choices n))
    (hasTests : problem.testCases = .array (testCase :: testCases))
    (stored : view.battle = some battle) (active : battle.status = .active)
    (participant : battle.isPlayerInBattle setting.submit.userId = true)
    (alive1 : 0 < battle.hp1) (alive2 : 0 < battle.hp2) (free : view.lock = none)
    (ownRow : setting.HasRow setting.submit.userId)
    (opponentRow : setting.HasRow (battle.opponentOf setting.submit.userId)) :
    (handleSubmit powTen setting.submit self).Obeys (undisturbed setting)
      (fun reached _ => (∃ final made, reached.battle = some final ∧
        reached.made = made ++ view.made ∧ SubmissionResult setting.submit.userId
          (setting.damageAt problem battle (view.steps + 3)) battle final made) ∧
        reached.lock = none ∧ reached.value = none) view := by
  have alive : 0 < battle.hpOf setting.submit.userId := by
    rw [BattleState.hpOf]
    split
    · exact alive1
    · exact alive2
  have finds (steps : ℕ) : setting.Finds steps problem testCase testCases :=
    ⟨(answers steps).succeeds, (answers steps).problem, hasTests⟩
  apply obeys_bind.mpr
  apply trySubmit_spec powTen self stored active
  · rintro (held | stranger)
    · exact absurd free held
    · rw [participant] at stranger
      cases stranger
  · intro _ _
    apply judgeSubmission_spec powTen self alive1 alive2
    · intro missing
      exact absurd (finds _) (missing _ _ _)
    · intro fails
      rw [(answers _).succeeds] at fails
      cases fails
    · intro found _ _ isFound _ hit isActive isHit
      have same : found = problem := by
        have isProblem := isFound.2.1
        rw [(answers _).problem] at isProblem
        exact (Option.some.inj isProblem).symm
      subst same
      rw [(answers _).summary]
      apply storeResult_spec (fun n => (answers n).succeeds) powTen participant alive ownRow
        opponentRow isActive isHit
      intro _ settled made _ result
      apply release_spec rfl
      intro _
      exact ⟨⟨settled, made, rfl, rfl, result⟩, rfl, rfl⟩

end Specifications

/-- The store has what the view says, and the rows that must exist. -/
structure Setting.Agrees (setting : Setting) (steps : ℕ) (store : Store) (view : SubmitView) :
    Prop where
  steps : view.steps = steps
  battle : store.battles setting.submit.roomId = view.battle
  lock : store.locks setting.submit.userId = view.lock
  value : store.lockValues setting.submit.userId = view.value
  made : ratings setting.submit.roomId store.log = view.made
  rows : ∀ user, setting.HasRow user → store.users user ≠ none

section Stores

variable {setting : Setting} {steps : ℕ} {store : Store} {view : SubmitView}
  (agrees : setting.Agrees steps store view)

include agrees

theorem Setting.Agrees.meanwhile {change : Store → Store}
    (leaves : LeavesAlone setting.submit.roomId setting.submit.userId change) :
    setting.Agrees steps (change store) view where
  steps := agrees.steps
  battle := (leaves.battle store).trans agrees.battle
  lock := (leaves.lock store).trans agrees.lock
  value := (leaves.value store).trans agrees.value
  made := (leaves.ratings store).trans agrees.made
  rows user hasRow := leaves.rows store user (agrees.rows user hasRow)

theorem Setting.Agrees.expects (cmd : Cmd) :
    (undisturbed setting).expects view cmd (handle cmd (setting.choices steps) store).1 := by
  have sameSteps := agrees.steps
  subst sameSteps
  cases cmd with
  | now => rfl
  | getBattle =>
    rintro rfl
    exact agrees.battle
  | setLock =>
    rintro rfl
    simp only [handle, Store.setLock, agrees.lock]
    cases view.lock <;> rfl
  | getLockValue =>
    rintro rfl
    simp only [handle, Store.getLockValue, agrees.value]
    cases view.value <;> rfl
  | findProblem => rfl
  | judge => rfl
  | findUser => exact ⟨_, rfl⟩
  | rate _ effect =>
    intro hasRow succeeds
    rcases Option.ne_none_iff_exists'.mp (agrees.rows effect.userId hasRow) with ⟨_, found⟩
    simp [handle, Store.rate, succeeds, found]
  | findAchievements => exact ⟨_, rfl⟩
  | _ => trivial

theorem Setting.Agrees.tick :
    setting.Agrees (steps + 1) store view.tick :=
  { agrees with steps := congrArg (· + 1) agrees.steps }

theorem Setting.Agrees.save (room : RoomId)
    (state : BattleState) (strike : Option Strike) :
    setting.Agrees steps (store.save room state strike)
      (if room = setting.submit.roomId then view.withBattle state else view) := by
  split
  · rename_i same
    subst room
    exact { agrees with battle := update_self _ _ _ }
  · rename_i differs
    have others := update_of_ne (Ne.symm differs) (some state) store.battles
    exact { agrees with battle := others.trans agrees.battle }

theorem Setting.Agrees.rate (room : RoomId)
    (effect : RatingEffect) (row : User) :
    setting.Agrees steps
      { store with
        users := update store.users effect.userId (some row)
        log := .rated room effect :: store.log }
      (if room = setting.submit.roomId then view.adding [effect] else view) := by
  have rows (user : UserId) (hasRow : setting.HasRow user) :
      update store.users effect.userId (some row) user ≠ none := by
    by_cases same : user = effect.userId
    · subst user
      simp
    · rw [update_of_ne same]
      exact agrees.rows user hasRow
  split
  · rename_i same
    refine { agrees with made := ?_, rows := rows }
    simp [ratings, same, SubmitView.adding, ← agrees.made]
  · rename_i differs
    refine { agrees with made := ?_, rows := rows }
    simp [ratings, differs, ← agrees.made]

theorem Setting.Agrees.setLock (user : UserId)
    (lock : Option ℕ) {log : List Event}
    (unrated : ratings setting.submit.roomId log = ratings setting.submit.roomId store.log) :
    setting.Agrees steps
      { store with locks := update store.locks user lock, log := log }
      (if user = setting.submit.userId then view.withLock lock else view) := by
  have made := unrated.trans agrees.made
  split
  · rename_i same
    subst user
    exact { agrees with lock := update_self _ _ _, made := made }
  · rename_i differs
    have others := update_of_ne (Ne.symm differs) lock store.locks
    exact { agrees with lock := others.trans agrees.lock, made := made }

theorem Setting.Agrees.setLockValue (user : UserId)
    (value : Option ℕ) :
    setting.Agrees steps
      { store with lockValues := update store.lockValues user value }
      (if user = setting.submit.userId then view.withValue value else view) := by
  split
  · rename_i same
    subst user
    exact { agrees with value := update_self _ _ _ }
  · rename_i differs
    have others := update_of_ne (Ne.symm differs) value store.lockValues
    exact { agrees with value := others.trans agrees.value }

theorem Setting.Agrees.evalUnlock (user : UserId)
    (token caller : ℕ) :
    setting.Agrees steps (store.evalUnlock user token caller)
      (if user = setting.submit.userId ∧ view.value = some token then view.withLock none
      else view) := by
  have logged : setting.Agrees steps { store with log := .released user caller :: store.log }
      view := { agrees with }
  have freed := agrees.setLock user none
    (rfl : ratings setting.submit.roomId
      (.released user caller :: .deleted user ((store.locks user).getD 0) caller :: store.log) = _)
  by_cases same : user = setting.submit.userId
  · subst user
    rw [Store.evalUnlock, agrees.value]
    by_cases matched : view.value = some token
    · simp only [matched, and_self, if_true] at freed ⊢
      cases held : store.locks setting.submit.userId with
      | some => simpa [held] using freed
      | none => exact { agrees with lock := held }
    · simpa only [matched, and_false, if_false] using logged
  · simp only [same, false_and, if_false] at freed ⊢
    rw [Store.evalUnlock]
    split
    · cases held : store.locks user with
      | some => simpa [held] using freed
      | none => exact logged
    · exact logged

theorem Setting.Agrees.after {choice : Choice} (cmd : Cmd) :
    setting.Agrees (steps + 1) (handle cmd choice store).2
      ((undisturbed setting).after view cmd (handle cmd choice store).1) := by
  have ticked := agrees.tick
  cases cmd with
  | setBattle room state strike => exact ticked.save room state strike
  | clearInterval room save =>
    cases save with
    | none => exact { ticked with }
    | some state =>
      have cleared : setting.Agrees (steps + 1) (store.clearInterval room) view.tick :=
        { ticked with }
      exact cleared.save room state none
  | rate room effect =>
    simp only [handle, Store.rate]
    cases choice.fails with
    | true => exact ticked
    | false =>
      cases store.users effect.userId with
      | none => exact ticked
      | some => exact ticked.rate room effect _
  | setLock user token =>
    simp only [handle, Store.setLock]
    cases held : store.locks user with
    | some =>
      simp only [undisturbed, Bool.false_eq_true, and_false, if_false]
      exact ticked
    | none =>
      simp only [undisturbed, and_true]
      exact ticked.setLock user (some token) rfl
  | setLockValue user => exact ticked.setLockValue user _
  | getLockValue user =>
    simp only [handle, Store.getLockValue]
    cases store.lockValues user with
    | some => exact ticked
    | none => exact { ticked with }
  | evalUnlock user token caller => exact ticked.evalUnlock user token caller
  | delLockValue user => exact ticked.setLockValue user none
  | createAchievement =>
    simp only [handle]
    split
    · exact ticked
    · exact { ticked with }
  | _ => exact { ticked with }

end Stores

/-- The setting of a call that starts with the store, and what the call sees then. -/
def Setting.start (submit : SubmitRequest) (choices : ℕ → Choice) (store : Store) : Setting where
  submit := submit
  choices := choices
  HasRow user := store.users user ≠ none

def SubmitView.start (submit : SubmitRequest) (store : Store) : SubmitView where
  steps := 0
  battle := store.battles submit.roomId
  lock := store.locks submit.userId
  value := store.lockValues submit.userId
  made := ratings submit.roomId store.log
  announced := []

theorem Setting.agrees_start (submit : SubmitRequest) (choices : ℕ → Choice) (store : Store) :
    (Setting.start submit choices store).Agrees 0 store (.start submit store) :=
  ⟨rfl, rfl, rfl, rfl, rfl, fun _ found => found⟩

/--
A submission of a participant to an ACTIVE battle in which both players have hit points,
with a free lock, answered calls and a problem with test cases, that runs undisturbed. It
counts, it takes the computed damage from the opponent and from nobody else, it ends the
battle exactly when the opponent has no hit points left, and only then rates it, as a win
of the submitter. The clock is read for the damage at the call's tenth command.
-/
theorem handleSubmit_correct (powTen : ℚ → ℚ) (submit : SubmitRequest) (self : ℕ)
    {meanwhile : ℕ → Store → Store} {choices : ℕ → Choice} {store : Store}
    {battle : BattleState} {problem : Problem} {summary : JudgeSummary} {testCase : TestCase}
    {testCases : List TestCase}
    (stored : store.battles submit.roomId = some battle) (active : battle.status = .active)
    (alive1 : 0 < battle.hp1) (alive2 : 0 < battle.hp2)
    (participant : battle.isPlayerInBattle submit.userId = true)
    (free : store.locks submit.userId = none) (row1 : store.users battle.player1Id ≠ none)
    (row2 : store.users battle.player2Id ≠ none)
    (hasTests : problem.testCases = .array (testCase :: testCases))
    (leaves : ∀ n, LeavesAlone submit.roomId submit.userId (meanwhile n))
    (answers : ∀ n, Answers problem summary (choices n)) :
    SubmissionOutcome submit.roomId submit.userId
      (calculateDamage summary ((choices 9).now - battle.startTimestamp)
        (orElse problem.timeLimitMs 300000) (orElse problem.p50RuntimeMs 1000))
      battle store ((handleSubmit powTen submit self).run handle meanwhile choices store).2 := by
  have ownRow : store.users submit.userId ≠ none := by
    rcases of_decide_eq_true participant with isFirst | isSecond
    · rwa [← isFirst]
    · rwa [← isSecond]
  have opponentRow : store.users (battle.opponentOf submit.userId) ≠ none := by
    rw [BattleState.opponentOf]
    split
    · exact row2
    · exact row1
  have obeys : (handleSubmit powTen submit self).Obeys
      (undisturbed (.start submit choices store)) _ (.start submit store) :=
    handleSubmit_spec powTen self answers hasTests stored active participant alive1 alive2 free
      ownRow opponentRow
  rcases obeys.run (fun n _ _ related => related.meanwhile (leaves n))
    (fun _ cmd _ _ related _ => ⟨related.expects cmd, related.after cmd⟩)
    (Setting.agrees_start submit choices store) with
    ⟨n, reached, related, ⟨final, made, storedLast, madeLast, result⟩, lockLast, valueLast⟩
  rw [← (answers 8).summary]
  refine ⟨⟨final, made, ?_, ?_, result⟩, ?_, ?_⟩
  · exact related.battle.trans storedLast
  · exact related.made.trans madeLast
  · exact related.lock.trans lockLast
  · exact related.value.trans valueLast

theorem last_hit_correct :
    SubmissionOutcome (sampleSubmit "a").roomId (sampleSubmit "a").userId
      (calculateDamage oneOfTwo.summary (oneOfTwo.now - (activeBattle 500 5).startTimestamp)
        (orElse sampleProblem.timeLimitMs 300000) (orElse sampleProblem.p50RuntimeMs 1000))
      (activeBattle 500 5) ((freshServer newcomer).store.save "r" (activeBattle 500 5) none)
      ((handleSubmit (fun _ => 1) (sampleSubmit "a") 1).run handle (fun _ store => store)
        (fun _ => oneOfTwo)
        ((freshServer newcomer).store.save "r" (activeBattle 500 5) none)).2 := by
  have stored : ((freshServer newcomer).store.save "r" (activeBattle 500 5) none).battles
      (sampleSubmit "a").roomId = some (activeBattle 500 5) := by
    simp [Store.save, sampleSubmit]
  have leaves (_ : ℕ) : LeavesAlone (sampleSubmit "a").roomId (sampleSubmit "a").userId
      fun store => store :=
    ⟨fun _ => rfl, fun _ => rfl, fun _ => rfl, fun _ => rfl, fun _ _ found => found⟩
  have answers (_ : ℕ) : Answers sampleProblem oneOfTwo.summary oneOfTwo := ⟨rfl, rfl, rfl⟩
  have outcome := handleSubmit_correct (fun _ => 1) (sampleSubmit "a") 1 stored rfl (by decide)
    (by decide) (by decide) rfl (by decide) (by decide) rfl leaves answers
  exact outcome

end CodeClash.Battle
