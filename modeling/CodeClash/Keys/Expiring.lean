import Mathlib.Data.Int.Notation
import Mathlib.Logic.Function.Basic

/-!
# Keys that expire

A table of keys in which every entry has a time from which on it is gone. An entry is written with
the time it is to live. Nothing removes an expired entry: reading just does not see it.
-/

namespace CodeClash.Keys

open Function

structure Entry (α : Type) where
  value : α
  expiresAt : ℤ
deriving DecidableEq, Repr

abbrev Expiring (κ α : Type) := κ → Option (Entry α)

namespace Expiring

variable {κ α : Type}

def get (keys : Expiring κ α) (now : ℤ) (key : κ) : Option α :=
  match keys key with
  | some entry => if now < entry.expiresAt then some entry.value else none
  | none => none

variable {keys : Expiring κ α} {now : ℤ} {key : κ}

theorem get_eq_some_iff {value : α} :
    keys.get now key = some value ↔ ∃ expiresAt, now < expiresAt ∧
      keys key = some ⟨value, expiresAt⟩ := by
  rw [get]
  cases found : keys key with
  | none => simp
  | some entry =>
    rcases entry with ⟨_, expiresAt⟩
    by_cases alive : now < expiresAt
    · simp [alive]
    · simp only [alive, if_false, reduceCtorEq, false_iff, not_exists, not_and]
      rintro _ isLater same
      cases same
      exact alive isLater

theorem get_eq_none_iff :
    keys.get now key = none ↔ ∀ entry, keys key = some entry → entry.expiresAt ≤ now := by
  rw [get]
  cases found : keys key with
  | none => simp
  | some entry =>
    by_cases alive : now < entry.expiresAt
    · simp [alive, Int.not_le.mpr alive]
    · simp [alive, Int.not_lt.mp alive]

variable [DecidableEq κ]

def setEx (keys : Expiring κ α) (now : ℤ) (key : κ) (ttl : ℤ) (value : α) : Expiring κ α :=
  update keys key (some ⟨value, now + ttl⟩)

def del (keys : Expiring κ α) (key : κ) : Expiring κ α := update keys key none

@[simp]
theorem setEx_self (ttl : ℤ) (value : α) :
    keys.setEx now key ttl value key = some ⟨value, now + ttl⟩ :=
  update_self _ _ _

theorem setEx_of_ne {other : κ} (differs : other ≠ key) (ttl : ℤ) (value : α) :
    keys.setEx now key ttl value other = keys other :=
  update_of_ne differs _ _

@[simp]
theorem setEx_setEx (before first second : ℤ) (value replaced : α) :
    (keys.setEx before key first replaced).setEx now key second value =
      keys.setEx now key second value := by
  simp [setEx]

theorem get_del (other : κ) :
    (keys.del key).get now other = if other = key then none else keys.get now other := by
  by_cases same : other = key
  · subst other
    simp [get, del]
  · simp [get, del, same]

end Expiring

end CodeClash.Keys
