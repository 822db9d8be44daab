import CodeClash.Engine.Battle

/-!
# Hit points over sequences of calls

A call uses a spell of a player or hits one, and neither makes a player stronger.
-/

namespace CodeClash.Engine

variable {battle : BattleState} {now : ℤ} {player next last : BattlePlayer} {call : Timed}
  {calls : List Timed}

/-- The call deals no negative damage. -/
def Hurts (call : Timed) : Prop :=
  ∀ targetId damage, call.2 = .applyDamage targetId damage → 0 ≤ damage

structure Sound (player : BattlePlayer) : Prop where
  alive : 0 ≤ player.hp
  values : ∀ spell ∈ player.spells, 0 ≤ spell.effect.value

/-- The player is the same one and no stronger. -/
structure Declines (player next : BattlePlayer) : Prop where
  sound : Sound next
  userId : next.userId = player.userId
  hp : next.hp ≤ player.hp

theorem Declines.trans (declines : Declines player next) (again : Declines next last) :
    Declines player last :=
  ⟨again.sound, again.userId.trans declines.userId, again.hp.trans declines.hp⟩

theorem Sound.refl (sound : Sound player) : Declines player player := ⟨sound, rfl, le_rfl⟩

theorem Sound.hit (sound : Sound player) {damage : ℚ} (nonneg : 0 ≤ damage) :
    Declines player (player.hit damage) :=
  ⟨⟨le_max_left _ _, sound.values⟩, rfl, max_le sound.alive (sub_le_self _ nonneg)⟩

theorem Sound.use (now : ℤ) (spellId : SpellId) (sound : Sound player) :
    Declines player (player.using now spellId) := by
  refine ⟨⟨sound.alive, ?_⟩, rfl, le_rfl⟩
  have values := sound.values
  simp only [BattlePlayer.using]
  generalize player.spells = spells at values ⊢
  induction spells with
  | nil => exact values
  | cons spell spells ih => grind [useSpell]

section Calls

variable (sound : ∀ side, Sound (battle.player side)) (side : Side)

include sound

theorem modify_declines {change : BattlePlayer → BattlePlayer}
    (declines : ∀ {player}, Sound player → Declines player (change player)) (target : Side) :
    Declines (battle.player side) ((battle.modify change target).player side) := by
  cases target <;> cases side
  exacts [declines (sound _), (sound _).refl, (sound _).refl, declines (sound _)]

theorem applyDamage_declines {targetId : UserId} {damage : ℚ} (nonneg : 0 ≤ damage) :
    Declines (battle.player side) ((applyDamage now battle targetId damage).player side) := by
  refine modify_declines sound side (fun sound => sound.hit ?_) _
  unfold actualDamage
  split
  · exact le_max_left _ _
  · exact nonneg

theorem castSpell_declines (id : String) (casterId : UserId) (spellId : SpellId) :
    Declines (battle.player side) ((castSpell now id battle casterId spellId).2.player side) := by
  cases ready : readySpell now (battle.player (battle.sideOf casterId)) spellId with
  | error =>
    simp only [castSpell, ready]
    exact (sound side).refl
  | ok spell =>
    have value : 0 ≤ spell.effect.value := by
      have values := (sound (battle.sideOf casterId)).values
      unfold readySpell at ready
      grind
    have used (side : Side) :=
      modify_declines sound side (Sound.use now spellId) (battle.sideOf casterId)
    simp only [castSpell, ready, applySpellEffect]
    refine (used side).trans ?_
    split
    · exact applyDamage_declines (fun side => (used side).sound) side value
    · exact (used side).sound.refl

theorem perform_declines (hurts : Hurts call) :
    Declines (battle.player side) ((perform battle call).2.player side) := by
  rcases call with ⟨now, operation⟩
  cases operation with
  | applyDamage => exact applyDamage_declines sound side (hurts _ _ rfl)
  | castSpell => exact castSpell_declines sound side _ _ _
  | cleanupExpiredSpells => exact (sound side).refl
  | updateBattleStatus status => cases status <;> exact (sound side).refl

theorem after_declines (hurts : ∀ call ∈ calls, Hurts call) :
    Declines (battle.player side) ((after battle calls).player side) := by
  induction calls generalizing battle with
  | nil => exact (sound side).refl
  | cons call calls ih =>
    rw [List.forall_mem_cons] at hurts
    have declines (side : Side) := perform_declines sound side hurts.1
    exact (declines side).trans (ih (fun side => (declines side).sound) hurts.2)

end Calls

/-- Hit points never grow or become negative, and a battle that is decided stays decided; the
winner changes only if the first player is brought down as well. -/
theorem defeat_is_final (battle : BattleState) (sound : ∀ side, Sound (battle.player side))
    (calls : List Timed) (hurts : ∀ call ∈ calls, Hurts call) :
    let next := after battle calls
    (∀ side, 0 ≤ (next.player side).hp ∧ (next.player side).hp ≤ (battle.player side).hp) ∧
    ∀ winner, getWinner battle = some winner →
      getWinner next = some winner ∨ getWinner next = some battle.player2.userId := by
  intro next
  have declines (side : Side) : Declines (battle.player side) (next.player side) :=
    after_declines sound side hurts
  refine ⟨fun side => ⟨(declines side).sound.alive, (declines side).hp⟩, ?_⟩
  rcases declines .first with ⟨_, user1, hp1⟩
  rcases declines .second with ⟨_, user2, hp2⟩
  unfold BattleState.player at user1 hp1 user2 hp2
  unfold getWinner
  grind

theorem defeat_is_final_knocked_out :
    let player (userId : UserId) : BattlePlayer := ⟨userId, 1, 1, "", "python", true, []⟩
    let created := createBattle "b" (player "u") (player "v") "p" 900
    let battle := after created [(0, .applyDamage "u" 200), (1, .applyDamage "v" 600)]
    let next := after battle [(2, .applyDamage "v" 50), (3, .applyDamage "u" 100)]
    getWinner battle = some "u" ∧
      (0 ≤ (next.player .first).hp ∧ (next.player .first).hp ≤ (battle.player .first).hp) ∧
      (getWinner next = some "u" ∨ getWinner next = some battle.player2.userId) := by
  intro player created battle next
  have sound (side : Side) : Sound (created.player side) := by
    cases side <;> exact ⟨Nat.ofNat_nonneg 500, by rintro _ ⟨⟩⟩
  have soundNext (side : Side) : Sound (battle.player side) :=
    (after_declines sound side (by simp [Hurts])).sound
  rcases defeat_is_final battle soundNext [(2, .applyDamage "v" 50), (3, .applyDamage "u" 100)]
    (by simp [Hurts]) with ⟨bounds, decided⟩
  have wins : getWinner battle = some "u" := by decide +kernel
  exact ⟨wins, bounds .first, decided "u" wins⟩

end CodeClash.Engine
