import CodeClash.Engine.Battle
import Mathlib.Algebra.Order.BigOperators.Group.List
import Mathlib.Tactic.Linarith

/-!
# The tower shield

The shield of `getAvailableSpells` has no duration, so it ends when it is cast, and `applyDamage`
looks for shields that end later.
-/

namespace CodeClash.Engine

open BattleState

def towerShield : Spell := ⟨"tower_shield", 120, none, ⟨.shield, 50, none, some .self⟩⟩

def getAvailableSpells : List Spell :=
  [⟨"oracle_hint", 60, none, ⟨.hint, 1, none, some .self⟩⟩,
    ⟨"time_freeze", 90, none, ⟨.freeze, 15, some 15, some .self⟩⟩, towerShield,
    ⟨"double_damage", 150, none, ⟨.doubleDamage, 2, none, some .self⟩⟩,
    ⟨"debug_ray", 180, none, ⟨.debug, 1, none, some .opponent⟩⟩,
    ⟨"code_wipe", 60, none, ⟨.wipe, 1, none, some .opponent⟩⟩]

structure Hit where
  now : ℤ
  damage : ℚ
deriving DecidableEq

def hitAll (targetId : UserId) (battle : BattleState) (hits : List Hit) : BattleState :=
  hits.foldl (fun battle hit => applyDamage hit.now battle targetId hit.damage) battle

def total (hits : List Hit) : ℚ := (hits.map Hit.damage).sum

def hpOf (battle : BattleState) (userId : UserId) : ℚ :=
  (battle.player (battle.sideOf userId)).hp

/-- The hits that follow take what they do beyond the first 50 points. -/
def Blocks (battle : BattleState) (targetId : UserId) (hits : List Hit) : Prop :=
  hpOf battle targetId - hpOf (hitAll targetId battle hits) targetId =
    min (hpOf battle targetId) (max 0 (total hits - 50))

variable {battle : BattleState} {now : ℤ} {targetId : UserId} {hits : List Hit}

def Bare (battle : BattleState) (targetId : UserId) (now : ℤ) : Prop :=
  ∀ later, now ≤ later → ∀ spell ∈ battle.spells, activeShield later targetId spell = false

theorem spells_applyDamage (damage : ℚ) :
    (applyDamage now battle targetId damage).spells = battle.spells := by
  unfold applyDamage
  cases battle.sideOf targetId <;> rfl

theorem hpOf_applyDamage (damage : ℚ) :
    hpOf (applyDamage now battle targetId damage) targetId =
      max 0 (hpOf battle targetId - actualDamage now battle targetId damage) := by
  have sameSide (side : Side) (change : ℚ) :
      (battle.modify (·.hit change) side).sideOf targetId = battle.sideOf targetId := by
    cases side <;> rfl
  rw [hpOf, applyDamage, sameSide, hpOf]
  cases battle.sideOf targetId <;> rfl

theorem Bare.actualDamage_eq (bare : Bare battle targetId now) {later : ℤ} (isLater : now ≤ later)
    (damage : ℚ) : actualDamage later battle targetId damage = damage := by
  have none : battle.spells.find? (activeShield later targetId) = none := by
    rw [List.find?_eq_none]
    exact fun spell member => Bool.eq_false_iff.mp (bare later isLater spell member)
  rw [actualDamage, none]

theorem total_nonneg (harm : ∀ hit ∈ hits, 0 ≤ hit.damage) : 0 ≤ total hits :=
  List.sum_nonneg (by simpa using harm)

theorem Bare.hpOf_hitAll (bare : Bare battle targetId now) (later : ∀ hit ∈ hits, now ≤ hit.now)
    (harm : ∀ hit ∈ hits, 0 ≤ hit.damage) (alive : 0 ≤ hpOf battle targetId) :
    hpOf (hitAll targetId battle hits) targetId = max 0 (hpOf battle targetId - total hits) := by
  induction hits generalizing battle with
  | nil => simp [hitAll, total, alive]
  | cons hit hits ih =>
    rw [List.forall_mem_cons] at later harm
    have next : Bare (applyDamage hit.now battle targetId hit.damage) targetId now := by
      unfold Bare
      rwa [spells_applyDamage]
    have left := @hpOf_applyDamage battle hit.now targetId hit.damage
    rw [bare.actualDamage_eq later.1] at left
    have rest := ih next later.2 harm.2 (by rw [left]; exact le_max_left _ _)
    have sum : total (hit :: hits) = hit.damage + total hits := List.sum_cons
    rw [left] at rest
    rw [hitAll, List.foldl_cons, ← hitAll, rest, sum]
    have nonneg := total_nonneg harm.2
    rcases le_total (hpOf battle targetId - hit.damage) 0 with low | high
    · rw [max_eq_left low, max_eq_left (by linarith), max_eq_left (by linarith)]
    · rw [max_eq_right high, sub_sub]

theorem Bare.blocks_iff (bare : Bare battle targetId now) (later : ∀ hit ∈ hits, now ≤ hit.now)
    (harm : ∀ hit ∈ hits, 0 ≤ hit.damage) (alive : 0 ≤ hpOf battle targetId) :
    Blocks battle targetId hits ↔
      total hits = 0 ∨ hpOf battle targetId = 0 ∨ hpOf battle targetId ≤ total hits - 50 := by
  have nonneg := total_nonneg harm
  rw [Blocks, bare.hpOf_hitAll later harm alive]
  generalize total hits = damage at nonneg
  generalize hpOf battle targetId = hp at alive
  grind

variable {id : String} {casterId : UserId} {spell : Spell}

theorem readySpell_id {caster : BattlePlayer} {spellId : SpellId}
    (ready : readySpell now caster spellId = .ok spell) : spell.id = spellId := by
  unfold readySpell at ready
  split at ready
  · cases ready
  · next found =>
    split_ifs at ready
    cases ready
    simpa using List.find?_some found

theorem effect_of_available (isShield : spell.id = "tower_shield")
    (available : { spell with lastUsed := none } ∈ getAvailableSpells) :
    spell.effect = ⟨.shield, 50, none, some .self⟩ := by
  simp only [getAvailableSpells, towerShield, List.mem_cons, Spell.mk.injEq, isShield] at available
  simp_all

theorem hpOf_using (spellId : SpellId) (side : Side) (spells : List ActiveSpell) :
    hpOf { battle.modify (·.using now spellId) side with spells := spells } targetId =
      hpOf battle targetId := by
  by_cases first : targetId = battle.player1.userId <;> cases side <;>
    simp [hpOf, sideOf, BattleState.modify, player, BattlePlayer.using, first]

theorem castSpell_eq
    (ready : readySpell now (battle.player (battle.sideOf casterId)) "tower_shield" = .ok spell)
    (isShield : spell.effect.type = .shield) :
    (castSpell now id battle casterId "tower_shield").2.spells =
        battle.spells ++ [activeSpell now id battle casterId spell] ∧
      hpOf (castSpell now id battle casterId "tower_shield").2 casterId = hpOf battle casterId := by
  simp only [castSpell, ready, applySpellEffect, activeSpell, isShield]
  refine ⟨?_, hpOf_using _ _ _⟩
  cases battle.sideOf casterId <;> rfl

theorem activeShield_of_le {later : ℤ} {other : ActiveSpell} (le : now ≤ later)
    (active : activeShield later targetId other = true) :
    activeShield now targetId other = true := by
  simp only [activeShield, decide_eq_true_eq, Ahead, Option.any_eq_true] at active ⊢
  grind

/-- The shield that is cast is over at once. -/
theorem activeShield_cast {later : ℤ} (instant : spell.effect.duration = none) (le : now ≤ later) :
    activeShield later targetId (activeSpell now id battle casterId spell) = false := by
  have ended : Ahead later (newDate (now + spell.effect.duration.getD 0 * 1000)) = false := by
    rw [instant, Option.getD_none, zero_mul, add_zero, newDate]
    split_ifs <;> simp [Ahead, le]
  simp [activeShield, activeSpell, ended]

/-- The shield blocks only where it does not matter. -/
theorem tower_shield_blocks_iff (now : ℤ) (id : String) (battle : BattleState) (casterId : UserId)
    (spell : Spell) (hits : List Hit)
    (ready : readySpell now (battle.player (battle.sideOf casterId)) "tower_shield" = .ok spell)
    (available : { spell with lastUsed := none } ∈ getAvailableSpells)
    (others : ∀ other ∈ battle.spells, activeShield now casterId other = false)
    (later : ∀ hit ∈ hits, now ≤ hit.now) (harm : ∀ hit ∈ hits, 0 ≤ hit.damage)
    (alive : 0 ≤ hpOf battle casterId) :
    Blocks (castSpell now id battle casterId "tower_shield").2 casterId hits ↔
      total hits = 0 ∨ hpOf battle casterId = 0 ∨ hpOf battle casterId ≤ total hits - 50 := by
  have effect := effect_of_available (readySpell_id ready) available
  have shape : spell.effect.type = .shield := by rw [effect]
  have cast := @castSpell_eq _ _ id _ _ ready shape
  rw [← cast.2] at alive ⊢
  refine @Bare.blocks_iff _ now _ _ ?_ later harm alive
  intro later isLater other member
  rw [cast.1, List.mem_append, List.mem_singleton] at member
  rcases member with earlier | rfl
  · by_contra active
    have activeNow := activeShield_of_le isLater (Bool.of_not_eq_false active)
    rw [others other earlier] at activeNow
    cases activeNow
  · exact activeShield_cast (by rw [effect]) isLater

def ada : BattlePlayer := ⟨"ada", 500, 500, "", "python", true, [towerShield]⟩

def sampleBattle : BattleState :=
  ⟨"battle", ada, { ada with userId := "bob" }, "puzzle", .active, some 0, none, 900, []⟩

theorem towerShield_ready :
    readySpell 0 (sampleBattle.player (sampleBattle.sideOf "ada")) "tower_shield" =
      .ok towerShield := by
  simp [readySpell, sampleBattle, sideOf, player, ada, towerShield, isSpellOnCooldown]

/-- Two hits of 600 points in all take the 500 that the player has, with or without a shield. -/
theorem tower_shield_blocks_fatal :
    Blocks (castSpell 0 "spell" sampleBattle "ada" "tower_shield").2 "ada" [⟨0, 250⟩, ⟨9, 350⟩] :=
  (tower_shield_blocks_iff 0 "spell" sampleBattle "ada" towerShield [⟨0, 250⟩, ⟨9, 350⟩]
    towerShield_ready (by simp [getAvailableSpells, towerShield]) (by simp [sampleBattle])
    (by simp) (by norm_num) (by decide +kernel)).mpr (Or.inr (Or.inr (by decide +kernel)))

/-- A hit of 50 points right after the cast is taken in full. -/
theorem shield_lets_damage_through :
    ¬Blocks (castSpell 0 "spell" sampleBattle "ada" "tower_shield").2 "ada" [⟨0, 50⟩] := by
  unfold Blocks
  decide +kernel

end CodeClash.Engine
