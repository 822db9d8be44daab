import CodeClash.Battle.Submission

/-!
# Knock-outs under failing calls

A submission stores its damage before it looks up the names of the players, and only afterwards ends
a battle in which a player has no hit points left. A call that runs alone leaves the status in step
with the hit points, unless it takes the last hit points and a lookup is rejected.
-/

namespace CodeClash.Battle

open Async Program

/-- An ACTIVE battle has hit points left on both sides, and no submission is pending. -/
def BattleState.InStep (state : BattleState) : Prop :=
  (state.status = .active → 0 < state.hp1 ∧ 0 < state.hp2) ∧ state.status ≠ .judging

/--
The submission takes the opponent's last hit points, and the lookup of a player is
rejected. The problem is looked up at the eighth command of the call, the judge runs at
the ninth, the clock is read for the damage at the tenth, and the players are looked up
at the fourteenth and fifteenth.
-/
structure KnockoutLost (submit : SubmitRequest) (battle : BattleState) (store : Store)
    (choices : ℕ → Choice) : Prop where
  unlocked : store.locks submit.userId = none
  participant : battle.isPlayerInBattle submit.userId = true
  knocksOut : ∃ problem testCase testCases,
    (choices 7).fails = false ∧ (choices 7).problem = some problem ∧
      problem.testCases = .array (testCase :: testCases) ∧ (choices 8).fails = false ∧
        battle.opponentHp submit.userId ≤
          calculateDamage (choices 8).summary ((choices 9).now - battle.startTimestamp)
            (orElse problem.timeLimitMs 300000) (orElse problem.p50RuntimeMs 1000)
  lookupRejected : (choices 13).fails = true ∨ (choices 14).fails = true

section Specifications

variable {setting : Setting} {view : SubmitView} {state before after : BattleState} {damage : ℤ}
  {lost : Prop}

/-- The submission that is judged after `steps` commands takes the last hit points. -/
def Setting.KnocksOut (setting : Setting) (steps : ℕ) (battle : BattleState) : Prop :=
  ∃ problem testCase testCases, setting.Finds (steps + 4) problem testCase testCases ∧
    (setting.choices (steps + 5)).fails = false ∧
      battle.opponentHp setting.submit.userId ≤ setting.damageAt problem battle steps

/-- What the `try` block leaves: a battle that is in step unless the knock-out is lost, or
a rejection and a battle in JUDGING that goes on. -/
inductive Leaves (lost : Prop) (reached : SubmitView) : Except Failure Unit → Prop where
  | settled (final : BattleState) (value : Except Failure Unit)
      (stored : reached.battle = some final) (status : final.status ≠ .judging)
      (inStep : final.InStep ↔ ¬lost) : Leaves lost reached value
  | judging (final : BattleState) (failure : Failure) (stored : reached.battle = some final)
      (alive1 : 0 < final.hp1) (alive2 : 0 < final.hp2) (kept : ¬lost) :
      Leaves lost reached (.error failure)

theorem leaves_of_alive {value : Except Failure Unit} (stored : view.battle = some state)
    (status : state.status ≠ .judging) (alive1 : 0 < state.hp1) (alive2 : 0 < state.hp2)
    (kept : ¬lost) : Leaves lost view value :=
  .settled state value stored status
    ⟨fun _ => kept, fun _ => ⟨fun _ => ⟨alive1, alive2⟩, status⟩⟩

theorem Hit.alive_iff {userId : UserId}
    (hit : Hit userId damage before after) (alive : 0 < before.hpOf userId) :
    0 < after.hp1 ∧ 0 < after.hp2 ↔ ¬before.opponentHp userId ≤ damage := by
  have gone_iff := hit.over_iff alive
  have left := hit.opponentHp
  constructor
  · rintro ⟨_, _⟩ _
    have zero : after.opponentHp userId = 0 := by
      rw [left]
      omega
    rcases gone_iff.mpr zero with gone | gone <;> omega
  · intro _
    have notOver : ¬(after.hp1 ≤ 0 ∨ after.hp2 ≤ 0) := by
      intro gone
      have zero := gone_iff.mp gone
      rw [left] at zero
      omega
    omega

theorem endBattle_ends (powTen : ℚ → ℚ) {post : SubmitView → Unit → Prop}
    {override : Option UserId}
    (final : ∀ reached ended, reached.battle = some ended → ended.status = .ended →
      post reached ()) :
    (endBattle powTen setting.submit.roomId state override).Obeys (undisturbed setting) post
      view := by
  have permits : PermitsEnding (fun _ program => program.Uses fun cmd : Cmd =>
      cmd.stores setting.submit.roomId = none) setting.submit.roomId :=
    ⟨uses_composes _, fun _ plain => uses_perform (plain.quiet.stores _),
      fun _ => uses_perform rfl, fun _ => uses_perform rfl⟩
  apply obeys_bind.mpr
  apply save_spec
  apply obeys_bind.mpr
  apply keeps_spec (settleBattle_holds permits powTen _ _ _)
  intro reached _ same
  exact final reached _ same rfl

theorem announceResult_leaves (powTen : ℚ → ℚ) {summary : JudgeSummary}
    (active : after.status = .active) (hit : Hit setting.submit.userId damage before after)
    (alive : 0 < before.hpOf setting.submit.userId) :
    (announceResult powTen setting.submit after summary damage).Obeys (undisturbed setting)
      (Leaves (before.opponentHp setting.submit.userId ≤ damage ∧
        setting.LookupRejected view.steps)) (view.withBattle after) := by
  have alive_iff := hit.alive_iff alive
  have notJudging : after.status ≠ .judging := by
    rw [active]
    decide
  apply announceResult_spec powTen
  · intro rejected _
    have isRejected : setting.LookupRejected view.steps := rejected
    refine .settled after _ rfl notJudging ?_
    simp only [isRejected, and_true, ← alive_iff]
    exact ⟨fun inStep => inStep.1 active, fun alive => ⟨fun _ => alive, notJudging⟩⟩
  · intro found _ _
    apply endBattle_ends powTen
    intro reached ended stored isEnded
    refine .settled ended _ stored (by simp [isEnded]) ?_
    have notLost : ¬setting.LookupRejected view.steps := found
    simp [BattleState.InStep, isEnded, notLost]
  · intro goesOn _
    simp only [not_or, not_le] at goesOn
    apply leaves_of_alive rfl notJudging goesOn.1 goesOn.2
    rintro ⟨exhausted, _⟩
    exact alive_iff.mp goesOn exhausted

theorem judgeSubmission_leaves (powTen : ℚ → ℚ) (self : ℕ)
    (alive1 : 0 < state.hp1) (alive2 : 0 < state.hp2) :
    (judgeSubmission powTen setting.submit self state).Obeys (undisturbed setting)
      (Leaves (setting.KnocksOut view.steps state ∧ setting.LookupRejected (view.steps + 9)))
      view := by
  have alive : 0 < state.hpOf setting.submit.userId := by
    rw [BattleState.hpOf]
    split
    · exact alive1
    · exact alive2
  apply judgeSubmission_spec powTen self alive1 alive2
  · intro missing reached final stored isActive same1 same2
    rw [← same1] at alive1
    rw [← same2] at alive2
    apply leaves_of_alive stored (by simp [isActive]) alive1 alive2
    rintro ⟨⟨_, _, _, finds, _⟩, _⟩
    exact missing _ _ _ finds
  · intro fails _ final failure same1 same2
    rw [← same1] at alive1
    rw [← same2] at alive2
    refine .judging final failure rfl alive1 alive2 ?_
    rintro ⟨⟨_, _, _, _, succeeds, _⟩, _⟩
    rw [fails] at succeeds
    cases succeeds
  · intro problem testCase testCases finds succeeds _ isActive isHit
    have knocksOut_iff : setting.KnocksOut view.steps state ↔
        state.opponentHp setting.submit.userId ≤
          setting.damageAt problem state view.steps := by
      constructor
      · rintro ⟨_, _, _, ⟨_, isOther, _⟩, _, exhausted⟩
        rw [finds.2.1, Option.some.injEq] at isOther
        subst isOther
        exact exhausted
      · intro exhausted
        exact ⟨problem, testCase, testCases, finds, succeeds, exhausted⟩
    rw [knocksOut_iff]
    exact announceResult_leaves powTen isActive isHit alive

/-- The submission takes the last hit points, and the lookup of a player is rejected. -/
def Setting.Loses (setting : Setting) (view : SubmitView) (battle : BattleState) : Prop :=
  view.lock = none ∧ battle.isPlayerInBattle setting.submit.userId = true ∧
    setting.KnocksOut (view.steps + 3) battle ∧ setting.LookupRejected (view.steps + 12)

theorem trySubmit_leaves (powTen : ℚ → ℚ) (self : ℕ) (stored : view.battle = some state)
    (active : state.status = .active) (alive1 : 0 < state.hp1) (alive2 : 0 < state.hp2) :
    (trySubmit powTen setting.submit self).Obeys (undisturbed setting)
      (Leaves (setting.Loses view state)) view := by
  apply trySubmit_spec powTen self stored active
  · intro refused _ same
    apply leaves_of_alive same (by simp [active]) alive1 alive2
    rintro ⟨free, participant, _⟩
    rcases refused with held | stranger
    · exact held free
    · rw [participant] at stranger
      cases stranger
  · intro free participant
    simp only [Setting.Loses, free, participant, true_and]
    exact judgeSubmission_leaves powTen self alive1 alive2

theorem resetJudging_spec {post : SubmitView → Unit → Prop} (stored : view.battle = some state)
    (final : ∀ reached reset, reached.battle = some reset → reset.hp1 = state.hp1 →
      reset.hp2 = state.hp2 → reset.status ≠ .judging → (state.status ≠ .judging → reset = state) →
        post reached ()) :
    (resetJudging setting.submit).Obeys (undisturbed setting) post view := by
  apply quiet_step (by trivial) rfl
  intro _ _
  apply obeys_perform_bind trivial
  intro found expected
  have isState : found = some state := (expected rfl).trans stored
  subst isState
  simp only
  split
  · rename_i judging
    apply obeys_bind.mpr
    apply save_spec
    exact final _ _ rfl rfl rfl (by simp) fun notJudging => absurd judging notJudging
  · rename_i notJudging
    exact final _ state stored rfl rfl notJudging fun _ => rfl

theorem handleSubmit_leaves (powTen : ℚ → ℚ) (self : ℕ) (stored : view.battle = some state)
    (active : state.status = .active) (alive1 : 0 < state.hp1) (alive2 : 0 < state.hp2) :
    (handleSubmit powTen setting.submit self).Obeys (undisturbed setting)
      (fun reached _ => ∃ final, reached.battle = some final ∧
        (final.InStep ↔ ¬setting.Loses view state)) view := by
  apply obeys_bind.mpr
  apply (trySubmit_leaves powTen self stored active alive1 alive2).mono
  rintro _ value leaves
  cases leaves with
  | settled final value stored status inStep =>
    cases value with
    | ok =>
      apply release_keeps
      intro _ same
      exact ⟨final, same.trans stored, inStep⟩
    | error =>
      apply obeys_bind.mpr
      apply resetJudging_spec stored
      intro _ reset stored _ _ _ same
      rw [same status] at stored
      apply release_keeps
      intro _ same
      exact ⟨final, same.trans stored, inStep⟩
  | judging _ _ stored alive1 alive2 kept =>
    apply obeys_bind.mpr
    apply resetJudging_spec stored
    intro _ reset stored same1 same2 status _
    rw [← same1] at alive1
    rw [← same2] at alive2
    apply release_keeps
    intro _ same
    exact ⟨reset, same.trans stored,
      iff_of_true ⟨fun _ => ⟨alive1, alive2⟩, status⟩ kept⟩

end Specifications

/--
A submission to an ACTIVE battle with hit points left on both sides that runs alone, with
any choice of the calls that are rejected, leaves the stored status in step with the
stored hit points exactly if it loses no knock-out.
-/
theorem knockout_kept_iff (powTen : ℚ → ℚ) (submit : SubmitRequest) (self : ℕ)
    (choices : ℕ → Choice) {store : Store} {battle : BattleState}
    (stored : store.battles submit.roomId = some battle) (active : battle.status = .active)
    (alive1 : 0 < battle.hp1) (alive2 : 0 < battle.hp2) :
    (∃ final, ((handleSubmit powTen submit self).run handle (fun _ store => store) choices
        store).2.battles submit.roomId = some final ∧ final.InStep) ↔
      ¬KnockoutLost submit battle store choices := by
  have obeys : (handleSubmit powTen submit self).Obeys
      (undisturbed (.start submit choices store)) _ (.start submit store) :=
    handleSubmit_leaves powTen self stored active alive1 alive2
  have run := obeys.run (fun _ _ _ related => related)
    (fun _ cmd _ _ related _ => ⟨related.expects cmd, related.after cmd⟩)
    (Setting.agrees_start submit choices store)
  rcases run with ⟨_, _, related, final, isFinal, inStep_iff⟩
  have storedLast : ((handleSubmit powTen submit self).run handle (fun _ store => store) choices
      store).2.battles submit.roomId = some final := related.battle.trans isFinal
  have lost_iff : KnockoutLost submit battle store choices ↔
      (Setting.start submit choices store).Loses (.start submit store) battle := by
    constructor
    · rintro ⟨unlocked, participant,
        ⟨problem, testCase, testCases, succeeds, found, isArray, judged, exhausted⟩, rejected⟩
      exact ⟨unlocked, participant,
        ⟨problem, testCase, testCases, ⟨succeeds, found, isArray⟩, judged, exhausted⟩, rejected⟩
    · rintro ⟨unlocked, participant,
        ⟨problem, testCase, testCases, ⟨succeeds, found, isArray⟩, judged, exhausted⟩, rejected⟩
      exact ⟨unlocked, participant,
        ⟨problem, testCase, testCases, succeeds, found, isArray, judged, exhausted⟩, rejected⟩
  rw [lost_iff, ← inStep_iff, storedLast]
  constructor
  · rintro ⟨_, same, inStep⟩
    cases same
    exact inStep
  · intro inStep
    exact ⟨final, rfl, inStep⟩

def lookupRejected (n : ℕ) : Choice := if n = 13 then { oneOfTwo with fails := true } else oneOfTwo

theorem rejected_lookup_loses_knockout :
    ¬∃ final, ((handleSubmit (fun _ => 1) (sampleSubmit "a") 1).run handle (fun _ store => store)
      lookupRejected ((freshServer newcomer).store.save "r" (activeBattle 500 5) none)).2.battles
        (sampleSubmit "a").roomId = some final ∧ final.InStep := by
  have run : ((handleSubmit (fun _ => 1) (sampleSubmit "a") 1).run handle (fun _ store => store)
      lookupRejected ((freshServer newcomer).store.save "r" (activeBattle 500 5) none)).2.battles
        (sampleSubmit "a").roomId = some
          { activeBattle 500 0 with sub1Count := 1, lastHeartbeat := some 0 } := by
    decide
  rw [run]
  rintro ⟨_, ⟨⟩, inStep, _⟩
  exact absurd (inStep rfl).2 (by decide)

theorem answered_lookup_keeps_knockout :
    ∃ final, ((handleSubmit (fun _ => 1) (sampleSubmit "a") 1).run handle (fun _ store => store)
      (fun _ => oneOfTwo)
      ((freshServer newcomer).store.save "r" (activeBattle 500 5) none)).2.battles
        (sampleSubmit "a").roomId = some final ∧ final.InStep := by
  have stored : ((freshServer newcomer).store.save "r" (activeBattle 500 5) none).battles
      (sampleSubmit "a").roomId = some (activeBattle 500 5) := by
    simp [Store.save, sampleSubmit]
  apply (knockout_kept_iff (fun _ => 1) (sampleSubmit "a") 1 (fun _ => oneOfTwo) stored rfl
    (by decide) (by decide)).mpr
  rintro ⟨_, _, _, rejected | rejected⟩ <;> cases rejected

end CodeClash.Battle
