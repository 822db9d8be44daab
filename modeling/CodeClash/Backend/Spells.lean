import CodeClash.Keys.Volatile
import Mathlib.Algebra.Order.Group.Int
import Mathlib.Data.List.Basic

/-!
# Active spells

`applySpellEffect`, `getActiveSpells` and `removeActiveSpell` of
`packages/backend/src/services/spell.service.ts`. The casts are those that reach `applySpellEffect`.
Calls take no time and do not overlap, and Redis does not fail. Durations are whole seconds, and
none is 0.
-/

namespace CodeClash.Backend.Spells

open Keys

inductive EffectType where
  | oracleHint | timeFreeze | towerShield | debugRay | doubleDamage | codeWipe
deriving DecidableEq

structure SpellEffect where
  type : EffectType
  duration : ℕ
  value : Option ℤ
deriving DecidableEq

structure Spell where
  spellId : String
  effect : SpellEffect
deriving DecidableEq

structure ActiveSpell where
  spellId : String
  casterId : String
  targetId : Option String
  effect : SpellEffect
  expiresAt : ℤ
  isActive : Bool
deriving DecidableEq

abbrev Store := Volatile String (List ActiveSpell)

def activeSpellKey (roomId userId : String) : String :=
  "spell:active:" ++ roomId ++ ":" ++ userId

def activeSpell (spellId casterId targetId : String) (effect : SpellEffect)
    (expiresAt : Option ℤ) (now : ℤ) : ActiveSpell where
  spellId := spellId
  casterId := casterId
  targetId := if targetId = casterId then none else some targetId
  effect := effect
  expiresAt := expiresAt.getD (now + effect.duration * 1000)
  isActive := true

def addActiveSpell (key : String) (spell : ActiveSpell) (now : ℤ) (store : Store) : Store :=
  let pushed := store.alter now key fun spells => some (spell :: spells.getD [])
  if spell.effect.duration > 0 then pushed.expire now key (spell.effect.duration * 1000)
  else pushed

def addedEffect (effect : SpellEffect) (now : ℤ) : SpellEffect × Option ℤ :=
  match effect.type with
  | .timeFreeze => ({ effect with duration := 15 }, some (now + 15000))
  | .towerShield => ({ effect with value := some 50 }, none)
  | .doubleDamage => ({ effect with value := some 2 }, none)
  | .oracleHint => (effect, none)
  | .debugRay => (effect, none)
  | .codeWipe => (effect, none)

def castOn (spell : Spell) (casterId targetId : String) (now : ℤ) : ActiveSpell :=
  activeSpell spell.spellId casterId targetId (addedEffect spell.effect now).1
    (addedEffect spell.effect now).2 now

def targetOf (casterId : String) (targetUserId : Option String) : String :=
  (targetUserId.filter (· ≠ "")).getD casterId

def applySpellEffect (spell : Spell) (roomId casterId : String) (targetUserId : Option String)
    (now : ℤ) (store : Store) : Store :=
  let targetId := targetOf casterId targetUserId
  addActiveSpell (activeSpellKey roomId targetId) (castOn spell casterId targetId now) now store

def getActiveSpells (roomId userId : String) (now : ℤ) (store : Store) : List ActiveSpell :=
  ((store.get now (activeSpellKey roomId userId)).getD []).filter fun spell =>
    spell.isActive && decide (spell.expiresAt > now)

/-- `LREM key 1 value` -/
def lrem (value : ActiveSpell) (spells : Option (List ActiveSpell)) :
    Option (List ActiveSpell) :=
  (spells.map fun spells => spells.erase value).filter (· ≠ [])

def removeActiveSpell (roomId userId spellId : String) (now : ℤ) (store : Store) : Store :=
  let key := activeSpellKey roomId userId
  match ((store.get now key).getD []).find? (·.spellId = spellId) with
  | none => store
  | some spell => store.alter now key (lrem spell)

inductive Event where
  | cast (spell : Spell) (casterId : String) (targetUserId : Option String) (now : ℤ)
  | remove (spellId : String) (now : ℤ)

def Event.now : Event → ℤ
  | .cast _ _ _ now => now
  | .remove _ now => now

def Event.On (userId : String) : Event → Prop
  | .cast _ casterId targetUserId _ => targetOf casterId targetUserId = userId
  | .remove _ _ => True

structure Cast where
  spell : ActiveSpell
  time : ℤ
deriving DecidableEq

def Cast.ends (cast : Cast) : ℤ := cast.time + cast.spell.effect.duration * 1000

def Cast.Stands (cast : Cast) (now : ℤ) : Prop := cast.spell.effect.duration = 0 ∨ now < cast.ends

structure State where
  store : Store
  casts : List Cast

/-- What a call for the target does, and what is to be active after it. -/
def State.step (roomId userId : String) (state : State) : Event → State
  | .cast spell casterId targetUserId now =>
    { store := applySpellEffect spell roomId casterId targetUserId now state.store
      casts := ⟨castOn spell casterId userId now, now⟩ :: state.casts }
  | .remove spellId now =>
    { store := removeActiveSpell roomId userId spellId now state.store
      casts := state.casts.eraseP (·.spell.spellId = spellId) }

/-- From a moment on, every spell that stands is returned. -/
def State.Active (roomId userId : String) (now : ℤ) (state : State) : Prop :=
  ∀ later, now ≤ later → ∀ cast ∈ state.casts, cast.Stands later →
    cast.spell ∈ getActiveSpells roomId userId later state.store

/-- Spells that stand are returned after each of the calls. -/
def AlwaysActive (roomId userId : String) : State → List Event → Prop
  | _, [] => True
  | state, event :: events =>
    (state.step roomId userId event).Active roomId userId event.now ∧
      AlwaysActive roomId userId (state.step roomId userId event) events

/-- A cast has a duration and ends no earlier than the other spells. -/
def Covers (state : State) : Event → Prop
  | .cast spell _ _ now =>
    0 < (addedEffect spell.effect now).1.duration ∧ ∀ cast ∈ state.casts,
      cast.ends ≤ now + (addedEffect spell.effect now).1.duration * 1000
  | .remove _ _ => True

def AlwaysCovers (roomId userId : String) : State → List Event → Prop
  | _, [] => True
  | state, event :: events =>
    Covers state event ∧ AlwaysCovers roomId userId (state.step roomId userId event) events

variable {roomId userId spellId : String} {state : State} {now later : ℤ}

theorem castOn_expiresAt (spell : Spell) (casterId targetId : String) (now : ℤ) :
    (castOn spell casterId targetId now).expiresAt =
      now + (addedEffect spell.effect now).1.duration * 1000 := by
  rcases spell with ⟨_, type, duration, value⟩
  cases type with
  | timeFreeze =>
    simp only [castOn, activeSpell, addedEffect, Option.getD_some]
    omega
  | _ => rfl

theorem get_step_cast {spell : Spell} {casterId : String} {targetUserId : Option String}
    (on : targetOf casterId targetUserId = userId)
    (lasts : 0 < (addedEffect spell.effect now).1.duration) (later : ℤ) :
    (state.step roomId userId (.cast spell casterId targetUserId now)).store.get later
        (activeSpellKey roomId userId) =
      if later < now + (addedEffect spell.effect now).1.duration * 1000 then
        some (castOn spell casterId userId now ::
          (state.store.get now (activeSpellKey roomId userId)).getD [])
      else none := by
  subst on
  have positive :
      (castOn spell casterId (targetOf casterId targetUserId) now).effect.duration > 0 := lasts
  simp only [State.step, applySpellEffect, addActiveSpell]
  rw [if_pos positive, Volatile.get_expire, Volatile.get_alter]
  rfl

/-- A cast that has no duration, or ends before another, breaks the property. -/
theorem not_active_of_not_covers {event : Event} (on : event.On userId)
    (misses : ¬Covers state event) :
    ¬(state.step roomId userId event).Active roomId userId event.now := by
  cases event with
  | remove => exact absurd trivial misses
  | cast spell casterId targetUserId now =>
    obtain rfl := on
    intro active
    rcases Nat.eq_zero_or_pos (addedEffect spell.effect now).1.duration with none | lasts
    · have returned := active now (le_refl _) ⟨_, now⟩ List.mem_cons_self (Or.inl none)
      have alive := (List.mem_filter.mp returned).2
      simp [castOn_expiresAt, none] at alive
    · simp only [Covers, lasts, true_and, not_forall, not_le] at misses
      rcases misses with ⟨cast, member, longer⟩
      have isLater : now ≤ now + (addedEffect spell.effect now).1.duration * 1000 := by omega
      have returned := active _ isLater cast (List.mem_cons_of_mem _ member) (Or.inr longer)
      rw [getActiveSpells, get_step_cast rfl lasts, if_neg (lt_irrefl _)] at returned
      cases returned

/-- The list holds the spells that still stand, and lives as long as they do. -/
structure Listed (roomId userId : String) (now : ℤ) (state : State) (kept gone : List Cast) :
    Prop where
  split : state.casts = kept ++ gone
  lasting : ∀ cast ∈ state.casts, 0 < cast.spell.effect.duration ∧ cast.spell.isActive = true ∧
    cast.spell.expiresAt = cast.ends
  ended : ∀ cast ∈ gone, cast.ends ≤ now
  list : (state.store.get now (activeSpellKey roomId userId)).getD [] = kept.map Cast.spell
  later : ∀ later, now ≤ later →
    state.store.get later (activeSpellKey roomId userId) =
        state.store.get now (activeSpellKey roomId userId) ∨
      state.store.get later (activeSpellKey roomId userId) = none ∧ ∀ cast ∈ kept, cast.ends ≤ later

theorem Listed.active {kept gone : List Cast} (listed : Listed roomId userId now state kept gone) :
    state.Active roomId userId now := by
  intro later isLater cast member stands
  rcases listed.lasting cast member with ⟨lasts, isActive, expires⟩
  have alive := stands.resolve_left lasts.ne'
  have isKept : cast ∈ kept := by
    rw [listed.split, List.mem_append] at member
    refine member.resolve_right fun isGone => ?_
    have ended := listed.ended cast isGone
    omega
  refine List.mem_filter.mpr ⟨?_, by simp [isActive, expires, alive]⟩
  rcases listed.later later isLater with same | ⟨_, past⟩
  · rw [same, listed.list]
    exact List.mem_map_of_mem isKept
  · have ended := past cast isKept
    omega

/-- Later, the list is as it was, or everything in it is over. -/
theorem Listed.at_later {kept gone : List Cast}
    (listed : Listed roomId userId now state kept gone) (isLater : now ≤ later) :
    ∃ kept gone, Listed roomId userId later state kept gone := by
  rcases listed.later later isLater with same | ⟨missing, past⟩
  · refine ⟨kept, gone, listed.split, listed.lasting, ?_, by rw [same, listed.list], ?_⟩
    · exact fun cast member => (listed.ended cast member).trans isLater
    · intro after isAfter
      rw [same]
      exact listed.later after (isLater.trans isAfter)
  · refine ⟨[], state.casts, rfl, listed.lasting, ?_, by rw [missing]; rfl, ?_⟩
    · intro cast member
      rw [listed.split, List.mem_append] at member
      rcases member with isKept | isGone
      · exact past cast isKept
      · exact (listed.ended cast isGone).trans isLater
    · exact fun after isAfter => Or.inl (by rw [missing, Volatile.get_none_of_le isAfter missing])

theorem getD_lrem (value : ActiveSpell) (spells : Option (List ActiveSpell)) :
    (lrem value spells).getD [] = (spells.getD []).erase value := by
  cases spells with
  | none => rfl
  | some spells =>
    rw [lrem, Option.map_some, Option.filter_some]
    split_ifs with present
    · rfl
    · exact (of_not_not fun some => present (decide_eq_true some)).symm

theorem erase_of_find? {spells : List ActiveSpell} {test : ActiveSpell → Bool} {found : ActiveSpell}
    (isFound : spells.find? test = some found) : spells.erase found = spells.eraseP test := by
  induction spells with
  | nil => rfl
  | cons spell spells ih =>
    by_cases passes : test spell = true
    · rw [List.find?_cons_of_pos passes, Option.some.injEq] at isFound
      rw [isFound, List.erase_cons_head, List.eraseP_cons_of_pos (isFound ▸ passes)]
    · rw [List.find?_cons_of_neg passes] at isFound
      have differs : spell ≠ found := fun same => passes (same ▸ List.find?_some isFound)
      rw [List.erase_cons_tail (by simpa using differs), List.eraseP_cons_of_neg passes, ih isFound]

theorem Listed.cast {kept gone : List Cast} {spell : Spell} {casterId : String}
    {targetUserId : Option String} (listed : Listed roomId userId now state kept gone)
    (on : targetOf casterId targetUserId = userId)
    (covers : Covers state (.cast spell casterId targetUserId now)) :
    Listed roomId userId now (state.step roomId userId (.cast spell casterId targetUserId now))
      (⟨castOn spell casterId userId now, now⟩ :: kept) gone := by
  have lives : now < now + (addedEffect spell.effect now).1.duration * 1000 := by
    have lasts := covers.1
    omega
  refine ⟨?_, ?_, listed.ended, ?_, ?_⟩
  · rw [State.step, listed.split]
    rfl
  · intro cast member
    rcases List.mem_cons.mp member with rfl | earlier
    · exact ⟨covers.1, rfl, castOn_expiresAt _ _ _ _⟩
    · exact listed.lasting cast earlier
  · rw [get_step_cast on covers.1, if_pos lives, Option.getD_some, listed.list]
    rfl
  · intro later _
    rw [get_step_cast on covers.1, get_step_cast on covers.1, if_pos lives]
    split_ifs with alive
    · exact Or.inl rfl
    · refine Or.inr ⟨rfl, ?_⟩
      intro cast member
      rcases List.mem_cons.mp member with rfl | earlier
      · exact not_lt.mp alive
      · refine (covers.2 cast ?_).trans (not_lt.mp alive)
        rw [listed.split]
        exact List.mem_append_left _ earlier

theorem Listed.remove {kept gone : List Cast} (spellId : String)
    (listed : Listed roomId userId now state kept gone) :
    ∃ kept gone, Listed roomId userId now (state.step roomId userId (.remove spellId now))
      kept gone := by
  have lasting : ∀ cast ∈ (state.step roomId userId (.remove spellId now)).casts,
      0 < cast.spell.effect.duration ∧ cast.spell.isActive = true ∧
        cast.spell.expiresAt = cast.ends :=
    fun cast member => listed.lasting cast (List.mem_of_mem_eraseP member)
  cases found : ((state.store.get now (activeSpellKey roomId userId)).getD []).find?
      (·.spellId = spellId) with
  | none =>
    have same : (state.step roomId userId (.remove spellId now)).store = state.store := by
      simp only [State.step, removeActiveSpell, found]
    refine ⟨kept, gone.eraseP (·.spell.spellId = spellId), ?_, lasting, ?_, ?_, ?_⟩
    · rw [State.step, listed.split]
      rw [listed.list, List.find?_eq_none] at found
      exact List.eraseP_append_right _ fun cast member => found _ (List.mem_map_of_mem member)
    · exact fun cast member => listed.ended cast (List.mem_of_mem_eraseP member)
    · rw [same, listed.list]
    · rw [same]
      exact listed.later
  | some spell =>
    have get (later : ℤ) (isLater : now ≤ later) :
        (state.step roomId userId (.remove spellId now)).store.get later
            (activeSpellKey roomId userId) =
          lrem spell (state.store.get later (activeSpellKey roomId userId)) := by
      simp only [State.step, removeActiveSpell, found]
      exact Volatile.get_alter_later isLater rfl
    refine ⟨kept.eraseP (·.spell.spellId = spellId), gone, ?_, lasting, listed.ended, ?_, ?_⟩
    · rw [State.step, listed.split]
      rw [listed.list] at found
      rcases List.mem_map.mp (List.mem_of_find?_eq_some found) with ⟨cast, member, rfl⟩
      have passes := List.find?_some found
      exact List.eraseP_append_left (a := cast) passes _ member
    · rw [get now (le_refl _), getD_lrem, erase_of_find? found, listed.list, List.eraseP_map]
      rfl
    · intro later isLater
      rw [get later isLater, get now (le_refl _)]
      rcases listed.later later isLater with same | ⟨missing, past⟩
      · exact Or.inl (by rw [same])
      · refine Or.inr ⟨by rw [missing]; rfl, ?_⟩
        exact fun cast member => past cast (List.mem_of_mem_eraseP member)

theorem Listed.step {kept gone : List Cast} {event : Event}
    (listed : Listed roomId userId event.now state kept gone) (on : event.On userId)
    (covers : Covers state event) :
    ∃ kept gone, Listed roomId userId event.now (state.step roomId userId event) kept gone := by
  cases event with
  | cast => exact ⟨_, _, listed.cast on covers⟩
  | remove spellId => exact listed.remove spellId

theorem Listed.alwaysActive_iff {kept gone : List Cast} {events : List Event}
    (listed : Listed roomId userId now state kept gone) (on : ∀ event ∈ events, event.On userId)
    (after : ∀ event ∈ events, now ≤ event.now)
    (ordered : (events.map Event.now).Pairwise (· ≤ ·)) :
    AlwaysActive roomId userId state events ↔ AlwaysCovers roomId userId state events := by
  induction events generalizing now state kept gone with
  | nil => exact Iff.rfl
  | cons event events ih =>
    have isOn := on event List.mem_cons_self
    rw [AlwaysActive, AlwaysCovers]
    by_cases covers : Covers state event
    · rcases listed.at_later (after event List.mem_cons_self) with ⟨_, _, current⟩
      rcases current.step isOn covers with ⟨_, _, next⟩
      rw [List.map_cons, List.pairwise_cons] at ordered
      rw [ih next (fun other member => on other (List.mem_cons_of_mem _ member))
        (fun other member => ordered.1 _ (List.mem_map_of_mem member)) ordered.2]
      exact and_congr_left fun _ => iff_of_true next.active covers
    · exact iff_of_false (fun active => not_active_of_not_covers isOn covers active.1)
        fun always => covers always.1

/-- Spells stay active in exactly the runs whose casts all last, and outlast the other spells. -/
theorem active_spells_stay_iff (roomId userId : String) (store : Store) (events : List Event)
    (fresh : store (activeSpellKey roomId userId) = none)
    (on : ∀ event ∈ events, event.On userId)
    (ordered : (events.map Event.now).Pairwise (· ≤ ·)) :
    AlwaysActive roomId userId ⟨store, []⟩ events ↔
      AlwaysCovers roomId userId ⟨store, []⟩ events := by
  cases events with
  | nil => exact Iff.rfl
  | cons event events =>
    have missing (later : ℤ) : store.get later (activeSpellKey roomId userId) = none := by
      rw [Volatile.get, Volatile.held, fresh]
      rfl
    have listed : Listed roomId userId event.now ⟨store, []⟩ [] [] :=
      ⟨rfl, by simp, by simp, by rw [missing]; rfl, fun _ _ => Or.inl (by rw [missing, missing])⟩
    refine listed.alwaysActive_iff on ?_ ordered
    intro other member
    rcases List.mem_cons.mp member with rfl | later
    · exact le_refl _
    · exact (List.pairwise_cons.mp ordered).1 _ (List.mem_map_of_mem later)

def freeze : Spell := ⟨"time_freeze", .timeFreeze, 15, none⟩

def shield : Spell := ⟨"tower_shield", .towerShield, 0, none⟩

def frozenTwice : List Event :=
  [.cast freeze "bob" (some "ada") 0, .cast freeze "cleo" (some "ada") 4000,
    .remove "time_freeze" 5000, .cast freeze "bob" (some "ada") 6000]

theorem active_spells_stay_frozen : AlwaysActive "room" "ada" ⟨fun _ => none, []⟩ frozenTwice := by
  apply (active_spells_stay_iff "room" "ada" (fun _ => none) frozenTwice rfl ?_ ?_).mpr
  · exact ⟨⟨by decide, by decide⟩, ⟨by decide, by decide⟩, trivial, ⟨by decide, by decide⟩, trivial⟩
  · simp only [frozenTwice, List.forall_mem_cons]
    exact ⟨rfl, rfl, trivial, rfl, by simp⟩
  · decide

/-- A shield has ended when it is cast. -/
theorem shield_is_never_active :
    ¬AlwaysActive "room" "ada" ⟨fun _ => none, []⟩ [.cast shield "ada" none 0] := by
  intro active
  have misses : ¬Covers ⟨fun _ => none, []⟩ (.cast shield "ada" none 0) :=
    fun covers => absurd covers.1 (by decide)
  exact not_active_of_not_covers (by rfl) misses active.1

end CodeClash.Backend.Spells
