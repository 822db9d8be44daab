import CodeClash.Engine.Battle
import Mathlib.Data.List.Induction

/-!
# Clean-up of expired spells

The engine looks at active spells only to find the first shield that has not ended. Two lists of
active spells in which the same spells are still to end, in the same order, serve it alike, and a
clean-up replaces one such list by another.
-/

namespace CodeClash.Engine

variable {battle : BattleState} {now : ℤ} {spells spells' : List ActiveSpell} {call : Timed}

def Alike (now : ℤ) (spells spells' : List ActiveSpell) : Prop :=
  ∀ later, now ≤ later → spells.filter (fun spell => Ahead later spell.endTime) =
    spells'.filter fun spell => Ahead later spell.endTime

@[simp]
theorem player_spells (battle : BattleState) (spells : List ActiveSpell) (side : Side) :
    { battle with spells := spells }.player side = battle.player side := by
  cases side <;> rfl

@[simp]
theorem modify_spells (battle : BattleState) (spells : List ActiveSpell)
    (change : BattlePlayer → BattlePlayer) (side : Side) :
    { battle with spells := spells }.modify change side =
      { battle.modify change side with spells := spells } := by
  cases side <;> rfl

theorem spells_modify (battle : BattleState) (change : BattlePlayer → BattlePlayer) (side : Side) :
    (battle.modify change side).spells = battle.spells := by
  cases side <;> rfl

theorem find_activeShield (now : ℤ) (targetId : UserId) (spells : List ActiveSpell) :
    spells.find? (activeShield now targetId) =
      (spells.filter fun spell => Ahead now spell.endTime).find? (activeShield now targetId) := by
  rw [List.find?_filter]
  congr 1
  funext spell
  simp [activeShield]

theorem applyDamage_alike (alike : Alike now battle.spells spells) (targetId : UserId)
    (damage : ℚ) : applyDamage now { battle with spells := spells } targetId damage =
      { applyDamage now battle targetId damage with spells := spells } := by
  have same : actualDamage now { battle with spells := spells } targetId damage =
      actualDamage now battle targetId damage := by
    simp only [actualDamage]
    rw [find_activeShield, ← alike now le_rfl, ← find_activeShield]
  rw [applyDamage, same, modify_spells]
  rfl

theorem applySpellEffect_alike (alike : Alike now battle.spells spells) (cast : ActiveSpell) :
    applySpellEffect now { battle with spells := spells } cast =
      { applySpellEffect now battle cast with spells := spells } ∧
    (applySpellEffect now battle cast).spells = battle.spells := by
  unfold applySpellEffect
  split
  · exact ⟨applyDamage_alike alike _ _, spells_modify _ _ _⟩
  · exact ⟨rfl, rfl⟩

theorem alike_cleanup (alike : Alike now spells spells') (later : now ≤ call.1) :
    Alike call.1 (spells.filter fun spell => Ahead call.1 spell.endTime) spells' := by
  intro moment isLater
  rw [List.filter_filter, ← alike moment (later.trans isLater)]
  congr 1
  funext spell
  rw [Bool.and_eq_left_iff_imp, Ahead, Ahead]
  simp only [Option.any_eq_true, decide_eq_true_eq]
  exact fun ⟨date, isDate, ahead⟩ => ⟨date, isDate, isLater.trans_lt ahead⟩

theorem perform_alike (alike : Alike now battle.spells spells) (later : now ≤ call.1)
    (stays : call.2 ≠ .cleanupExpiredSpells) : ∃ spells',
      perform { battle with spells := spells } call =
        ((perform battle call).1, { (perform battle call).2 with spells := spells' }) ∧
      Alike call.1 (perform battle call).2.spells spells' := by
  have kept : Alike call.1 battle.spells spells :=
    fun moment isLater => alike moment (later.trans isLater)
  rcases call with ⟨now, operation⟩
  cases operation with
  | applyDamage targetId damage =>
    refine ⟨spells, ?_, ?_⟩
    · rw [perform, applyDamage_alike kept]
      rfl
    · rw [perform, applyDamage, spells_modify]
      exact kept
  | cleanupExpiredSpells => exact absurd rfl stays
  | updateBattleStatus status =>
    exact ⟨spells, by cases status <;> rfl, by cases status <;> exact kept⟩
  | castSpell id casterId spellId =>
    have caster : BattleState.sideOf { battle with spells := spells } casterId =
      battle.sideOf casterId := rfl
    simp only [perform, castSpell, caster, player_spells, modify_spells]
    cases ready : readySpell now (battle.player (battle.sideOf casterId)) spellId with
    | error message => exact ⟨spells, rfl, kept⟩
    | ok spell =>
      have cast : activeSpell now id { battle with spells := spells } casterId spell =
          activeSpell now id battle casterId spell := by
        simp only [activeSpell, spellTarget, player_spells, caster]
      rw [← spells_modify battle (·.using now spellId) (battle.sideOf casterId)] at kept
      rcases applySpellEffect_alike kept (activeSpell now id battle casterId spell) with
        ⟨affected, same⟩
      refine ⟨spells ++ [activeSpell now id battle casterId spell], ?_, ?_⟩
      · simp only [cast, affected]
      · intro moment isLater
        simp only [List.filter_append, same, kept moment isLater]

def withoutCleanup (calls : List Timed) : List Timed :=
  calls.filter (·.2 ≠ .cleanupExpiredSpells)

theorem after_alike (battle : BattleState) {calls : List Timed}
    (chronological : Chronological calls) :
    ∃ spells, after battle (withoutCleanup calls) = { after battle calls with spells := spells } ∧
      ∀ last, (∀ call ∈ calls, call.1 ≤ last) → Alike last (after battle calls).spells spells := by
  induction calls using List.reverseRecOn with
  | nil => exact ⟨battle.spells, rfl, fun _ _ _ _ => rfl⟩
  | append_singleton calls call ih =>
    rw [Chronological, List.pairwise_append] at chronological
    rcases ih chronological.1 with ⟨spells, plain, alike⟩
    have alike := alike call.1 fun earlier isEarlier =>
      chronological.2.2 earlier isEarlier call List.mem_cons_self
    suffices ∃ spells',
        after battle (withoutCleanup (calls ++ [call])) =
          { after battle (calls ++ [call]) with spells := spells' } ∧
        Alike call.1 (after battle (calls ++ [call])).spells spells' by
      rcases this with ⟨spells', plain, alike⟩
      refine ⟨spells', plain, fun last latest moment isLater => alike moment ?_⟩
      exact (latest call (List.mem_append_right _ List.mem_cons_self)).trans isLater
    rw [withoutCleanup, List.filter_append, after_append, after_append, ← withoutCleanup, plain]
    by_cases stays : call.2 = .cleanupExpiredSpells
    · rcases call with ⟨now, operation⟩
      cases stays
      exact ⟨spells, rfl, alike_cleanup alike le_rfl⟩
    · rcases perform_alike alike le_rfl stays with ⟨spells', same, alike'⟩
      refine ⟨spells', ?_, alike'⟩
      have kept : [call].filter (·.2 ≠ .cleanupExpiredSpells) = [call] := by simp [stays]
      rw [kept]
      exact congrArg Prod.snd same

/-- Clean-ups change neither hit points nor the winner nor the outcome of a later call. -/
theorem cleanup_invisible (battle : BattleState) (calls : List Timed)
    (chronological : Chronological calls) :
    let cleaned := after battle calls
    let plain := after battle (withoutCleanup calls)
    (∀ side, (cleaned.player side).hp = (plain.player side).hp) ∧
    getWinner cleaned = getWinner plain ∧
    ∀ call, Chronological (calls ++ [call]) →
      (perform cleaned call).1 = (perform plain call).1 := by
  intro cleaned plain
  rcases after_alike battle chronological with ⟨spells, same, alike⟩
  simp only [plain, same]
  refine ⟨fun side => by cases side <;> rfl, rfl, fun call chronological' => ?_⟩
  rw [Chronological, List.pairwise_append] at chronological'
  by_cases stays : call.2 = .cleanupExpiredSpells
  · rcases call with ⟨now, operation⟩
    cases stays
    rfl
  · rcases perform_alike (alike call.1 fun earlier isEarlier =>
      chronological'.2.2 earlier isEarlier call List.mem_cons_self) le_rfl stays with ⟨_, same', _⟩
    exact (congrArg Prod.fst same').symm

theorem cleanup_invisible_between :
    let barrier : Spell := ⟨"shield", 30, none, ⟨.shield, 20, some 10, some .self⟩⟩
    let player (userId : UserId) : BattlePlayer := ⟨userId, 500, 500, "", "python", true, [barrier]⟩
    let battle := createBattle "b" (player "u") (player "v") "p" 900
    getWinner (after battle [(0, .castSpell "s" "u" "shield"), (5000, .cleanupExpiredSpells),
        (6000, .applyDamage "u" 515), (11000, .cleanupExpiredSpells)]) =
      getWinner (after battle [(0, .castSpell "s" "u" "shield"), (6000, .applyDamage "u" 515)]) :=
  (cleanup_invisible _ [(0, .castSpell "s" "u" "shield"), (5000, .cleanupExpiredSpells),
    (6000, .applyDamage "u" 515), (11000, .cleanupExpiredSpells)]
    (by unfold Chronological; decide)).2.1

end CodeClash.Engine
