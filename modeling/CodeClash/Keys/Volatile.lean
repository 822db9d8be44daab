import Mathlib.Data.Int.Notation
import Mathlib.Logic.Function.Basic

/-!
# Keys that may be given a time to live

A table of keys whose values are changed in place. A key that exists can be given a time to live,
which changes to its value do not touch. A key whose time is over is gone, and writing it again
makes a new one.
-/

namespace CodeClash.Keys

open Function

/-- A value with the time from which on it is gone, if there is one. -/
structure Held (α : Type) where
  value : α
  expiresAt : Option ℤ
deriving DecidableEq, Repr

def Held.isLive {α : Type} (now : ℤ) (held : Held α) : Bool := held.expiresAt.all (now < ·)

abbrev Volatile (κ α : Type) := κ → Option (Held α)

namespace Volatile

variable {κ α : Type}

def held (keys : Volatile κ α) (now : ℤ) (key : κ) : Option (Held α) :=
  (keys key).filter (Held.isLive now)

def get (keys : Volatile κ α) (now : ℤ) (key : κ) : Option α := (keys.held now key).map Held.value

variable [DecidableEq κ]

def alter (keys : Volatile κ α) (now : ℤ) (key : κ) (change : Option α → Option α) :
    Volatile κ α :=
  update keys key ((change (keys.get now key)).map fun value =>
    ⟨value, (keys.held now key).bind Held.expiresAt⟩)

def expire (keys : Volatile κ α) (now : ℤ) (key : κ) (ttl : ℤ) : Volatile κ α :=
  update keys key ((keys.held now key).map fun held =>
    { held with expiresAt := some (now + ttl) })

variable {keys : Volatile κ α} {now later : ℤ} {key : κ} {change : Option α → Option α}

theorem isLive_of_le {held : Held α} (le : now ≤ later) (live : held.isLive later = true) :
    held.isLive now = true := by
  rw [Held.isLive, Option.all_eq_true] at live ⊢
  intro expiresAt expires
  exact decide_eq_true (Int.lt_of_le_of_lt le (of_decide_eq_true (live expiresAt expires)))

omit [DecidableEq κ] in
theorem get_none_of_le (le : now ≤ later) (gone : keys.get now key = none) :
    keys.get later key = none := by
  rw [get, held, Option.map_eq_none_iff, Option.filter_eq_none_iff] at gone ⊢
  exact fun held found live => gone held found (isLive_of_le le live)

/-- A change at a moment is seen from then on for as long as the key lives. -/
theorem held_alter (later : ℤ) :
    (keys.alter now key change).held later key =
      ((change (keys.get now key)).map fun value =>
        ⟨value, (keys.held now key).bind Held.expiresAt⟩).filter (Held.isLive later) := by
  rw [held, alter, update_self]

theorem get_alter : (keys.alter now key change).get now key = change (keys.get now key) := by
  have live (value : α) :
      (⟨value, (keys.held now key).bind Held.expiresAt⟩ : Held α).isLive now = true := by
    cases found : keys.held now key with
    | none => rfl
    | some => exact (Option.filter_eq_some_iff.mp found).2
  rw [get, held_alter]
  cases change (keys.get now key) with
  | none => rfl
  | some value => rw [Option.map_some, Option.filter_some_pos (live value), Option.map_some]

/-- A change that makes no new key can as well be made later. -/
theorem get_alter_later (le : now ≤ later) (missing : change none = none) :
    (keys.alter now key change).get later key = change (keys.get later key) := by
  rw [get, held_alter, get, get, held, held]
  cases found : keys key with
  | none => simp [missing]
  | some held =>
    by_cases live : held.isLive later = true
    · have liveNow := isLive_of_le le live
      have stays (value : α) : (⟨value, held.expiresAt⟩ : Held α).isLive later = true := live
      cases changed : change (some held.value) <;>
        simp [Option.filter_some, live, liveNow, stays, changed]
    · have goes (value : α) : ¬(⟨value, held.expiresAt⟩ : Held α).isLive later = true := live
      by_cases liveNow : held.isLive now = true
      · cases change (some held.value) <;> simp [Option.filter_some, live, liveNow, goes, missing]
      · simp [Option.filter_some, live, liveNow, missing]

theorem get_expire (ttl : ℤ) :
    (keys.expire now key ttl).get later key =
      if later < now + ttl then keys.get now key else none := by
  rw [get, held, expire, update_self, get]
  cases keys.held now key with
  | none => simp
  | some =>
    by_cases live : later < now + ttl <;> simp [Option.filter_some, Held.isLive, live]

end Volatile

end CodeClash.Keys
