import CodeClash.Spell.Service

/-!
# What `getMana` and `castSpell` do

Both functions run alone here, under arbitrary choices of the environment at each command. `reading`
says what `getMana` returns, what it stores and how many commands it issues; `CastCases` lists the
ways in which `castSpell` can end, with the store that each leaves.
-/

namespace CodeClash.Spell

open Async
open Battle (UserId RoomId TestCases Failure)

variable {α : Type}

def alone (choices : ℕ → Choice) (program : Prog α) (store : Store) : α × Store :=
  program.run handle (fun _ store => store) choices store

@[simp]
theorem alone_done (choices : ℕ → Choice) (value : α) (store : Store) :
    alone choices (.done value) store = (value, store) := rfl

@[simp]
theorem alone_issue (choices : ℕ → Choice) (cmd : Cmd) (next : cmd.Reply → Prog α)
    (store : Store) :
    alone choices (.issue cmd next) store =
      alone (fun n => choices (n + 1)) (next (handle cmd (choices 0) store).1)
        (handle cmd (choices 0) store).2 := rfl

structure Reading where
  mana : ManaState
  store : Store
  used : ℕ

/-- What `getMana` returns and leaves, and the number of its commands. -/
def reading (roomId : RoomId) (userId : UserId) (choices : ℕ → Choice) (store : Store) : Reading :=
  match store.mana.get (choices 0).now (manaKey roomId userId) with
  | none => ⟨.full (choices 1).now, store, 2⟩
  | some mana =>
    if 0 < mana.regenAmount (choices 1).now then
      ⟨mana.regenerate (choices 1).now,
        store.setMana (choices 2).now roomId userId (mana.regenerate (choices 1).now), 3⟩
    else ⟨mana, store, 2⟩

section Reading

variable {roomId : RoomId} {userId : UserId} {choices : ℕ → Choice} {store : Store}

theorem getMana_bind (next : ManaState → Prog α) :
    alone choices (getMana roomId userId >>= next) store =
      alone (fun n => choices (n + (reading roomId userId choices store).used))
        (next (reading roomId userId choices store).mana)
        (reading roomId userId choices store).store := by
  rw [reading]
  cases found : store.mana.get (choices 0).now (manaKey roomId userId) with
  | none => simp [getMana, handle, found]
  | some mana =>
    by_cases due : 0 < mana.regenAmount (choices 1).now
    · simp [getMana, handle, found, due]
    · simp [getMana, handle, found, due]

theorem getMana_reading :
    alone choices (getMana roomId userId) store =
      ((reading roomId userId choices store).mana,
        (reading roomId userId choices store).store) := by
  have bound := @getMana_bind _ roomId userId choices store .done
  rwa [Program.bind_done] at bound

@[simp]
theorem reading_cooldowns : (reading roomId userId choices store).store.cooldowns =
    store.cooldowns := by
  rw [reading]
  split
  · rfl
  · split <;> rfl

@[simp]
theorem reading_effects : (reading roomId userId choices store).store.effects =
    store.effects := by
  rw [reading]
  split
  · rfl
  · split <;> rfl

end Reading

def succeeded (result : Except Failure CastResult) : Bool :=
  match result with
  | .ok (.success _ _) => true
  | _ => false

/-- The ways in which `castSpell` ends once it has read the mana, with the result and the
store that it leaves. -/
inductive CastCases (roomId : RoomId) (casterId : UserId) (spellType : String)
    (choices : ℕ → Choice) (seen : Reading) : Except Failure CastResult × Store → Prop where
  | poor (text : String) (less : seen.mana.lessThan (SPELL_COSTS spellType) = true) :
      CastCases roomId casterId spellType choices seen (.ok (.failure text), seen.store)
  | cooling (text : String) (enough : seen.mana.lessThan (SPELL_COSTS spellType) = false)
      (alive : seen.store.cooldowns.get (choices seen.used).now
        (cooldownKey roomId casterId spellType) ≠ none) :
      CastCases roomId casterId spellType choices seen (.ok (.failure text), seen.store)
  | rejected (enough : seen.mana.lessThan (SPELL_COSTS spellType) = false)
      (ready : seen.store.cooldowns.get (choices seen.used).now
        (cooldownKey roomId casterId spellType) = none)
      (unknown : cooldownSec spellType = none) :
      CastCases roomId casterId spellType choices seen
        (.error .rejected, seen.store.setMana (choices (seen.used + 1)).now roomId casterId
          (seen.mana.deduct (SPELL_COSTS spellType)))
  | cast (effect : SpellEffect) (hintText : Option String) (seconds : ℤ) (final : Store)
      (enough : seen.mana.lessThan (SPELL_COSTS spellType) = false)
      (ready : seen.store.cooldowns.get (choices seen.used).now
        (cooldownKey roomId casterId spellType) = none)
      (known : cooldownSec spellType = some seconds)
      (mana : final.mana = (seen.store.setMana (choices (seen.used + 1)).now roomId casterId
        (seen.mana.deduct (SPELL_COSTS spellType))).mana)
      (cooldowns : final.cooldowns = seen.store.cooldowns.setEx (choices (seen.used + 2)).now
        (cooldownKey roomId casterId spellType) (seconds * 1000) ()) :
      CastCases roomId casterId spellType choices seen (.ok (.success effect hintText), final)

section Casting

variable {roomId : RoomId} {casterId targetId : UserId} {spellType : String}
  {testCases : List (String × String)} {choices : ℕ → Choice} {store : Store}

theorem applySpell_run : ∃ effect hintText final,
    alone choices (applySpell roomId casterId targetId spellType testCases) store =
      (.success effect hintText, final) ∧
    final.mana = store.mana ∧ final.cooldowns = store.cooldowns := by
  rw [applySpell]
  split
  · exact ⟨_, _, _, rfl, rfl, rfl⟩
  · split
    · exact ⟨_, _, _, rfl, rfl, rfl⟩
    · split
      · exact ⟨_, _, _, rfl, rfl, rfl⟩
      · exact ⟨_, _, _, rfl, rfl, rfl⟩

theorem castSpell_cases :
    CastCases roomId casterId spellType choices (reading roomId casterId choices store)
      (alone choices (castSpell roomId casterId targetId spellType testCases) store) := by
  rw [castSpell, getMana_bind]
  generalize reading roomId casterId choices store = seen
  cases less : seen.mana.lessThan (SPELL_COSTS spellType) with
  | true => exact .poor _ less
  | false =>
    cases ready : seen.store.cooldowns.get (choices seen.used).now
        (cooldownKey roomId casterId spellType) with
    | some entry =>
      simp [handle, ready]
      exact .cooling _ less (by simp [ready])
    | none =>
      cases known : cooldownSec spellType with
      | none =>
        simp [handle, ready, Store.setCooldown]
        rw [Nat.add_comm 1]
        exact .rejected less ready known
      | some seconds =>
        simp [handle, ready, Store.setCooldown]
        rw [Nat.add_comm 1, Nat.add_comm 2]
        rw [alone, Program.run_bind_done, ← alone]
        rcases applySpell_run with ⟨effect, hintText, final, run, mana, cooldowns⟩
        rw [run]
        exact .cast effect hintText seconds final less ready known mana cooldowns

end Casting

end CodeClash.Spell
