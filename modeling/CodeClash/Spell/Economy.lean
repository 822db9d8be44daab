import CodeClash.Spell.Casting
import Mathlib.Tactic.Linarith

/-!
# The spell economy

One caster makes any sequence of calls of `getMana` and `castSpell` in one room, one after the other
and each at one moment. What has been spent and what is left never exceed the initial mana and what
was due up to the last regeneration. A mana key that expires has been idle for two hours, in which
more than a full bar was due.
-/

namespace CodeClash.Spell

open Async
open Battle (UserId RoomId)

inductive SpellType where
  | hint
  | timeFreeze
  | slow
deriving DecidableEq, Repr

namespace SpellType

def name : SpellType → String
  | hint => "hint"
  | timeFreeze => "time_freeze"
  | slow => "slow"

def cost (spell : SpellType) : ℤ := (SPELL_COSTS spell.name).getD 0

def cooldown (spell : SpellType) : ℤ := (SPELL_COOLDOWNS spell.name).getD 0

theorem costs_name (spell : SpellType) : SPELL_COSTS spell.name = some spell.cost := by
  cases spell <;> rfl

theorem cooldownSec_name (spell : SpellType) :
    cooldownSec spell.name = some (spell.cooldown / 1000) := by
  cases spell <;> simp [cooldownSec, SPELL_COOLDOWNS, name, cooldown] <;> norm_num

theorem cost_nonneg (spell : SpellType) : 0 ≤ spell.cost := by
  cases spell <;> decide

theorem cooldown_seconds (spell : SpellType) : spell.cooldown / 1000 * 1000 = spell.cooldown := by
  cases spell <;> decide

theorem name_injective {first second : SpellType} (same : first.name = second.name) :
    first = second := by
  cases first <;> cases second <;> first | rfl | simp [name] at same

end SpellType

inductive Call where
  | getMana
  | castSpell (targetId : UserId) (spell : SpellType) (testCases : List (String × String))

/-- A call, with the moment at which it is made and the random number it may draw. -/
structure TimedCall where
  call : Call
  now : ℤ
  random : ℕ

def TimedCall.choice (made : TimedCall) : Choice := ⟨made.now, made.random, false⟩

structure Cast where
  spell : SpellType
  castAt : ℤ
deriving DecidableEq, Repr

structure Record where
  store : Store
  casts : List Cast

section Calls

variable (roomId : RoomId) (casterId : UserId)

def play (record : Record) (made : TimedCall) : Record :=
  match made.call with
  | .getMana =>
    { record with store := (alone (fun _ => made.choice) (getMana roomId casterId)
        record.store).2 }
  | .castSpell targetId spell testCases =>
    let ended := alone (fun _ => made.choice)
      (castSpell roomId casterId targetId spell.name testCases) record.store
    { store := ended.2
      casts := if succeeded ended.1 then ⟨spell, made.now⟩ :: record.casts else record.casts }

def playAll (store : Store) (calls : List TimedCall) : Record :=
  calls.foldl (play roomId casterId) ⟨store, []⟩

end Calls

def spent (casts : List Cast) : ℤ := (casts.map fun cast => cast.spell.cost).sum

def upTo (t : ℤ) (casts : List Cast) : List Cast := casts.filter fun cast => cast.castAt ≤ t

/-- What is left together with what has been spent is covered by the initial mana and what was due
up to the last regeneration. -/
structure ManaState.Balanced (mana : ManaState) (t0 now spent : ℤ) : Prop where
  covered : ∃ current, mana.current = some current ∧ 0 ≤ current ∧ current ≤ 100 ∧
    (spent + current) * 6000 ≤ 600000 + (mana.lastRegenAt - t0)
  max : mana.max = 100
  started : t0 ≤ mana.lastRegenAt
  past : mana.lastRegenAt ≤ now

namespace ManaState

variable {mana : ManaState} {t0 now later spent : ℤ}

theorem regenAmount_eq (mana : ManaState) (now : ℤ) :
    mana.regenAmount now = (now - mana.lastRegenAt) / 6000 := by
  have quotient : ((now - mana.lastRegenAt : ℤ) : ℚ) / MANA_REGEN_INTERVAL * MANA_REGEN_RATE =
      ((now - mana.lastRegenAt : ℤ) : ℚ) / ((6000 : ℕ) : ℚ) := by
    simp only [MANA_REGEN_INTERVAL, MANA_REGEN_RATE]
    push_cast
    ring
  rw [regenAmount, quotient, Rat.floor_intCast_div_natCast]
  rfl

theorem Balanced.mono (balanced : mana.Balanced t0 now spent) (le : now ≤ later) :
    mana.Balanced t0 later spent :=
  { balanced with past := balanced.past.trans le }

theorem full_balanced (le : t0 ≤ now) (covered : spent * 6000 ≤ now - t0) :
    (full now).Balanced t0 now spent :=
  ⟨⟨100, rfl, by decide, le_rfl, by simp only [full]; omega⟩, rfl, le, le_rfl⟩

theorem Balanced.regenerate (balanced : mana.Balanced t0 now spent) (le : now ≤ later)
    (due : 0 < mana.regenAmount later) : (mana.regenerate later).Balanced t0 later spent := by
  rcases balanced.covered with ⟨current, isCurrent, _, _, _⟩
  have past := balanced.past
  have started := balanced.started
  rw [regenAmount_eq] at due
  refine ⟨⟨min 100 (current + (later - mana.lastRegenAt) / 6000), ?_, ?_, ?_, ?_⟩, ?_, ?_, ?_⟩
  · simp [ManaState.regenerate, balanced.max, isCurrent, regenAmount_eq]
  · omega
  · omega
  · simp only [ManaState.regenerate]
    omega
  · exact balanced.max
  · simp only [ManaState.regenerate]
    omega
  · exact le_rfl

theorem Balanced.deduct {cost : ℤ} (balanced : mana.Balanced t0 now spent) (nonneg : 0 ≤ cost)
    (enough : mana.lessThan (some cost) = false) :
    (mana.deduct (some cost)).Balanced t0 now (spent + cost) := by
  rcases balanced.covered with ⟨current, isCurrent, _, _, _⟩
  simp only [lessThan, isCurrent, Option.getD_some, decide_eq_false_iff_not] at enough
  refine ⟨⟨current - cost, ?_, ?_, ?_, ?_⟩, balanced.max, balanced.started, balanced.past⟩
  · simp [ManaState.deduct, isCurrent]
  · omega
  · omega
  · simp only [ManaState.deduct]
    omega

theorem Balanced.full_of_idle (balanced : mana.Balanced t0 now spent)
    (idle : mana.lastRegenAt + 7200000 ≤ later) : (full later).Balanced t0 later spent := by
  rcases balanced.covered with ⟨_, _, _, _, _⟩
  have started := balanced.started
  apply full_balanced <;> omega

end ManaState

/-- The stored mana is in balance and lives for two hours after its last regeneration, every cast
has a cooldown key that lasts long enough, casts of one spell are spaced, and what was spent is
covered at every moment. -/
structure Solvent (roomId : RoomId) (casterId : UserId) (t0 now : ℤ) (record : Record) :
    Prop where
  absent : record.store.mana (manaKey roomId casterId) = none → record.casts = []
  stored : ∀ mana expiresAt, record.store.mana (manaKey roomId casterId) = some ⟨mana, expiresAt⟩ →
    mana.Balanced t0 now (spent record.casts) ∧ mana.lastRegenAt + 7200000 ≤ expiresAt
  cooling : ∀ cast ∈ record.casts, ∃ entry,
    record.store.cooldowns (cooldownKey roomId casterId cast.spell.name) = some entry ∧
      cast.castAt + cast.spell.cooldown ≤ entry.expiresAt
  spaced : record.casts.Pairwise fun newer older =>
    newer.spell = older.spell → older.castAt + older.spell.cooldown ≤ newer.castAt
  past : ∀ cast ∈ record.casts, cast.castAt ≤ now
  covered : ∀ t, t0 ≤ t → spent (upTo t record.casts) * 6000 ≤ 600000 + (t - t0)

section Invariant

variable {roomId : RoomId} {casterId : UserId} {t0 now : ℤ} {record : Record} {choice : Choice}

theorem Solvent.reading_balanced (solvent : Solvent roomId casterId t0 now record)
    (started : t0 ≤ now) (le : now ≤ choice.now) :
    (reading roomId casterId (fun _ => choice) record.store).mana.Balanced t0 choice.now
      (spent record.casts) := by
  rw [reading]
  cases found : record.store.mana.get choice.now (manaKey roomId casterId) with
  | none =>
    cases stored : record.store.mana (manaKey roomId casterId) with
    | none =>
      apply ManaState.full_balanced
      · omega
      · rw [solvent.absent stored]
        simp [spent]
        omega
    | some entry =>
      have expired := Keys.Expiring.get_eq_none_iff.mp found entry stored
      rcases solvent.stored _ _ stored with ⟨balanced, lives⟩
      exact balanced.full_of_idle (lives.trans expired)
  | some mana =>
    rcases Keys.Expiring.get_eq_some_iff.mp found with ⟨_, _, stored⟩
    have balanced := (solvent.stored _ _ stored).1
    by_cases due : 0 < mana.regenAmount choice.now
    · simp only [due, if_true]
      exact balanced.regenerate le due
    · simp only [due, if_false]
      exact balanced.mono le

theorem Solvent.mono {later : ℤ} (solvent : Solvent roomId casterId t0 now record)
    (le : now ≤ later) : Solvent roomId casterId t0 later record :=
  { solvent with
    stored mana expiresAt stored :=
      ⟨(solvent.stored mana expiresAt stored).1.mono le, (solvent.stored mana expiresAt stored).2⟩
    past cast made := (solvent.past cast made).trans le }

variable {mana : ManaState} {spell : SpellType} {store : Store} {made : TimedCall}

theorem Solvent.setMana (solvent : Solvent roomId casterId t0 now record)
    (balanced : mana.Balanced t0 now (spent record.casts)) :
    Solvent roomId casterId t0 now ⟨record.store.setMana now roomId casterId mana, record.casts⟩ :=
  { solvent with
    absent missing := by
      simp [Store.setMana] at missing
    stored other expiresAt stored := by
      simp only [Store.setMana, Keys.Expiring.setEx_self, Option.some.injEq, Keys.Entry.mk.injEq,
        manaSeconds] at stored
      rcases stored with ⟨rfl, rfl⟩
      have past := balanced.past
      exact ⟨balanced, by omega⟩ }

theorem Solvent.reading (solvent : Solvent roomId casterId t0 now record) (started : t0 ≤ now)
    (le : now ≤ choice.now) :
    Solvent roomId casterId t0 choice.now
      ⟨(Spell.reading roomId casterId (fun _ => choice) record.store).store, record.casts⟩ := by
  have balanced := solvent.reading_balanced started le
  rw [Spell.reading] at balanced ⊢
  cases found : record.store.mana.get choice.now (manaKey roomId casterId) with
  | none => exact solvent.mono le
  | some mana =>
    by_cases due : 0 < mana.regenAmount choice.now
    · simp only [found, due, if_true] at balanced ⊢
      exact (solvent.mono le).setMana balanced
    · simp only [due, if_false]
      exact solvent.mono le

theorem cooldownKey_injective {first second : SpellType}
    (same : cooldownKey roomId casterId first.name = cooldownKey roomId casterId second.name) :
    first = second := by
  apply SpellType.name_injective
  simpa [cooldownKey] using same

theorem upTo_of_past {casts : List Cast} {t : ℤ} (past : ∀ cast ∈ casts, cast.castAt ≤ t) :
    upTo t casts = casts := by
  simp only [upTo, List.filter_eq_self, decide_eq_true_eq]
  exact past

theorem Solvent.cast (solvent : Solvent roomId casterId t0 now record)
    (balanced : mana.Balanced t0 now (spent record.casts + spell.cost))
    (ready : record.store.cooldowns.get now (cooldownKey roomId casterId spell.name) = none)
    (storedMana : store.mana = (record.store.setMana now roomId casterId mana).mana)
    (storedCooldown : store.cooldowns = record.store.cooldowns.setEx now
      (cooldownKey roomId casterId spell.name) spell.cooldown ()) :
    Solvent roomId casterId t0 now ⟨store, ⟨spell, now⟩ :: record.casts⟩ := by
  have total : spent (⟨spell, now⟩ :: record.casts) = spent record.casts + spell.cost := by
    simp [spent, add_comm]
  have past : ∀ cast ∈ (⟨spell, now⟩ :: record.casts : List Cast), cast.castAt ≤ now := by
    simpa using solvent.past
  refine ⟨?_, ?_, ?_, ?_, past, ?_⟩
  · intro missing
    simp [storedMana, Store.setMana] at missing
  · intro _ _ stored
    simp only [storedMana, Store.setMana, Keys.Expiring.setEx_self, Option.some.injEq,
      Keys.Entry.mk.injEq, manaSeconds] at stored
    rcases stored with ⟨rfl, rfl⟩
    have past := balanced.past
    exact ⟨total ▸ balanced, by omega⟩
  · intro cast made
    simp only [storedCooldown]
    by_cases same : cast.spell = spell
    · rw [same, Keys.Expiring.setEx_self]
      exact ⟨_, rfl, by have := past cast made; simp only; omega⟩
    · rw [Keys.Expiring.setEx_of_ne fun keys => same (cooldownKey_injective keys)]
      rcases List.mem_cons.mp made with rfl | earlier
      · exact absurd rfl same
      · exact solvent.cooling cast earlier
  · refine List.pairwise_cons.mpr ⟨?_, solvent.spaced⟩
    rintro older made rfl
    rcases solvent.cooling older made with ⟨entry, stored, lasts⟩
    exact lasts.trans (Keys.Expiring.get_eq_none_iff.mp ready entry stored)
  · intro t le
    by_cases reached : now ≤ t
    · rw [upTo_of_past fun cast made => (past cast made).trans reached, total]
      rcases balanced.covered with ⟨_, _, _, _, _⟩
      have past := balanced.past
      omega
    · have dropped : upTo t (⟨spell, now⟩ :: record.casts) = upTo t record.casts := by
        simp [upTo, reached]
      rw [dropped]
      exact solvent.covered t le

theorem Solvent.play (solvent : Solvent roomId casterId t0 now record)
    (started : t0 ≤ now) (le : now ≤ made.now) :
    Solvent roomId casterId t0 made.now (play roomId casterId record made) := by
  have seen := @Solvent.reading roomId casterId t0 now record made.choice solvent started le
  rw [Spell.play]
  cases made.call with
  | getMana =>
    simp only [getMana_reading]
    exact seen
  | castSpell targetId spell testCases =>
    have balanced := @Solvent.reading_balanced roomId casterId t0 now record made.choice solvent
      started le
    simp only
    generalize ended : alone (fun _ => made.choice)
      (castSpell roomId casterId targetId spell.name testCases) record.store = outcome
    have cases := @castSpell_cases roomId casterId targetId spell.name testCases
      (fun _ => made.choice) record.store
    rw [ended] at cases
    cases cases with
    | poor => exact seen
    | cooling => exact seen
    | rejected _ _ unknown =>
      rw [SpellType.cooldownSec_name] at unknown
      cases unknown
    | cast _ _ _ _ enough ready known mana cooldowns =>
      rw [SpellType.costs_name] at enough mana
      rw [SpellType.cooldownSec_name, Option.some.injEq] at known
      rw [← known, SpellType.cooldown_seconds] at cooldowns
      exact seen.cast (balanced.deduct spell.cost_nonneg enough) ready mana cooldowns

theorem Solvent.foldl {calls : List TimedCall} (solvent : Solvent roomId casterId t0 now record)
    (started : t0 ≤ now) (later : ∀ made ∈ calls, now ≤ made.now)
    (ordered : calls.Pairwise fun earlier later => earlier.now ≤ later.now) :
    ∃ last, Solvent roomId casterId t0 last (calls.foldl (Spell.play roomId casterId) record) := by
  induction calls generalizing now record with
  | nil => exact ⟨now, solvent⟩
  | cons made _ ih =>
    rcases List.pairwise_cons.mp ordered with ⟨before, restOrdered⟩
    have le := later made List.mem_cons_self
    exact ih (solvent.play started le) (started.trans le) before restOrdered

theorem solvent_of_absent (absent : store.mana (manaKey roomId casterId) = none) :
    Solvent roomId casterId t0 t0 ⟨store, []⟩ where
  absent _ := rfl
  stored mana expiresAt stored := by
    rw [absent] at stored
    cases stored
  cooling cast made := nomatch made
  spaced := .nil
  past cast made := nomatch made
  covered t le := by
    simp [upTo, spent]
    omega

theorem play_of_unsuccessful {targetId : UserId}
    {testCases : List (String × String)} (casts : made.call = .castSpell targetId spell testCases)
    (unsuccessful : (play roomId casterId record made).casts = record.casts) :
    (play roomId casterId record made).store =
      (alone (fun _ => made.choice) (getMana roomId casterId) record.store).2 := by
  simp only [play, casts] at unsuccessful ⊢
  rw [getMana_reading]
  generalize ended : alone (fun _ => made.choice)
    (castSpell roomId casterId targetId spell.name testCases) record.store = outcome
    at unsuccessful ⊢
  have cases := @castSpell_cases roomId casterId targetId spell.name testCases
    (fun _ => made.choice) record.store
  rw [ended] at cases
  cases cases with
  | poor => rfl
  | cooling => rfl
  | rejected _ _ unknown =>
    rw [SpellType.cooldownSec_name] at unknown
    cases unknown
  | cast =>
    simp [succeeded] at unsuccessful

end Invariant

/--
One caster makes any sequence of calls in one room, at times that do not decrease, and has
no mana stored at the start. Then the stored mana is between 0 and 100; what was spent on
successful casts up to any moment is at most 100 and ten units a minute since the first
call; two successful casts of one spell are at least its cooldown apart; and an
unsuccessful cast leaves the stored mana as `getMana` would at that moment.
-/
theorem spell_economy {roomId : RoomId} {casterId : UserId} {store : Store} {first : TimedCall}
    {calls : List TimedCall} (noMana : store.mana (manaKey roomId casterId) = none)
    (ordered : (first :: calls).Pairwise fun earlier later => earlier.now ≤ later.now) :
    (∀ entry, (playAll roomId casterId store (first :: calls)).store.mana
        (manaKey roomId casterId) = some entry →
      ∃ current, entry.value.current = some current ∧ 0 ≤ current ∧ current ≤ 100) ∧
    (∀ t, first.now ≤ t →
      (spent (upTo t (playAll roomId casterId store (first :: calls)).casts) : ℚ) ≤
        100 + 10 * ((t - first.now : ℤ) : ℚ) / 60000) ∧
    ((playAll roomId casterId store (first :: calls)).casts.Pairwise fun newer older =>
      newer.spell = older.spell → older.spell.cooldown ≤ newer.castAt - older.castAt) ∧
    ∀ before made after targetId spell testCases, first :: calls = before ++ made :: after →
      made.call = .castSpell targetId spell testCases →
        (playAll roomId casterId store (before ++ [made])).casts =
          (playAll roomId casterId store before).casts →
        (playAll roomId casterId store (before ++ [made])).store.mana =
          (alone (fun _ => made.choice) (getMana roomId casterId)
            (playAll roomId casterId store before).store).2.mana := by
  have later : ∀ made ∈ first :: calls, first.now ≤ made.now := by
    simpa using (List.pairwise_cons.mp ordered).1
  rcases (solvent_of_absent noMana).foldl le_rfl later ordered with ⟨_, solvent⟩
  refine ⟨?_, ?_, ?_, ?_⟩
  · intro entry stored
    rcases (solvent.stored entry.value entry.expiresAt stored).1.covered with
      ⟨current, isCurrent, nonneg, bounded, _⟩
    exact ⟨current, isCurrent, nonneg, bounded⟩
  · intro t le
    have covered : ((spent (upTo t (playAll roomId casterId store (first :: calls)).casts) * 6000 :
        ℤ) : ℚ) ≤ ((600000 + (t - first.now) : ℤ) : ℚ) := by
      exact_mod_cast solvent.covered t le
    push_cast at covered ⊢
    linarith
  · refine solvent.spaced.imp ?_
    intro _ _ spaced same
    have apart := spaced same
    omega
  · intro _ _ _ _ _ _ _ casts unsuccessful
    simp only [playAll, List.foldl_append, List.foldl_cons, List.foldl_nil] at unsuccessful ⊢
    rw [play_of_unsuccessful casts unsuccessful]

/-- The later calls of a caster who begins with a hint: a freeze that can be paid, and a
slow that cannot. -/
def freezeAndSlow : List TimedCall :=
  [⟨.castSpell "b" .timeFreeze [], 1000, 0⟩, ⟨.castSpell "b" .slow [], 2000, 0⟩]

theorem hint_and_freeze_are_covered :
    spent (playAll "r" "a" emptyStore (⟨.castSpell "b" .hint [], 0, 0⟩ :: freezeAndSlow)).casts =
      80 ∧
    ∀ t, 0 ≤ t →
      (spent (upTo t (playAll "r" "a" emptyStore
        (⟨.castSpell "b" .hint [], 0, 0⟩ :: freezeAndSlow)).casts) : ℚ) ≤
          100 + 10 * ((t - 0 : ℤ) : ℚ) / 60000 := by
  have ordered : (⟨.castSpell "b" .hint [], 0, 0⟩ :: freezeAndSlow).Pairwise
      fun earlier later => earlier.now ≤ later.now := by
    simp [freezeAndSlow]
  exact ⟨by decide +kernel, (spell_economy rfl ordered).2.1⟩

end CodeClash.Spell
