import CodeClash.Calendar.Days
import Mathlib.Order.Bounds.Basic

/-!
# The end of the week

`setWeeklyExpiration` of `packages/backend/src/services/leaderboard.service.ts` lets the weekly
board expire on the next Monday. `Date.UTC` takes the years from 0 to 99 for years of the last
century.
-/

namespace CodeClash.Backend.Weekly

open Calendar

/-- The remainder is never negative here, and zero stands for a week. -/
def daysUntilMonday (day : ℤ) : ℤ :=
  let days := (8 - weekDay day) % 7
  if days = 0 then 7 else days

def secondsUntilMonday (now : ℤ) : Option ℤ :=
  let day := now / msPerDay
  (utc (yearFromDay day) (monthFromDay day) (dateFromDay day + daysUntilMonday day)).map
    fun nextMonday => (nextMonday - now) / 1000

def BeginsMonday (time : ℤ) : Prop := ∃ day, time = day * msPerDay ∧ weekDay day = 1

def IsNextMonday (now monday : ℤ) : Prop := IsLeast {time | now < time ∧ BeginsMonday time} monday

theorem weekDay_daysUntilMonday (day : ℤ) :
    weekDay (day + daysUntilMonday day) = 1 ∧ 1 ≤ daysUntilMonday day ∧
      ∀ later, day < later → weekDay later = 1 → day + daysUntilMonday day ≤ later := by
  simp only [daysUntilMonday, weekDay]
  refine ⟨?_, ?_, ?_⟩
  · omega
  · omega
  · intro later isLater monday
    omega

theorem isNextMonday (now : ℤ) :
    IsNextMonday now ((now / msPerDay + daysUntilMonday (now / msPerDay)) * msPerDay) := by
  rcases weekDay_daysUntilMonday (now / msPerDay) with ⟨monday, further, least⟩
  refine ⟨⟨?_, _, rfl, monday⟩, ?_⟩
  · unfold msPerDay at further ⊢
    omega
  · rintro _ ⟨isLater, day, rfl, isMonday⟩
    have later : now / msPerDay < day := by
      unfold msPerDay at isLater ⊢
      omega
    exact Int.mul_le_mul_of_nonneg_right (least day later isMonday) (by decide)

theorem secondsUntilMonday_eq {now : ℤ} (unabbreviated : ¬(0 ≤ (yearFromDay (now / msPerDay)).1 ∧
    (yearFromDay (now / msPerDay)).1 ≤ 99)) :
    secondsUntilMonday now =
      (timeClip ((now / msPerDay + daysUntilMonday (now / msPerDay)) * msPerDay)).map
        fun nextMonday => (nextMonday - now) / 1000 := by
  rw [secondsUntilMonday, utc]
  simp only [if_neg unabbreviated, makeDay_add]

/-- The board expires at the first Monday after now, or in the second before it. -/
theorem weekly_expiry {now monday : ℤ} (instant : |now| ≤ 8640000000000000)
    (unabbreviated : ¬(0 ≤ (yearFromDay (now / msPerDay)).1 ∧
      (yearFromDay (now / msPerDay)).1 ≤ 99))
    (next : IsNextMonday now monday) (valid : monday ≤ 8640000000000000) :
    ∃ ttl, secondsUntilMonday now = some ttl ∧ monday - 1000 < now + 1000 * ttl ∧
      now + 1000 * ttl ≤ monday := by
  rw [secondsUntilMonday_eq unabbreviated, (isNextMonday now).unique next]
  have after : now < monday := next.1.1
  have clipped : timeClip monday = some monday := by
    rw [abs_le] at instant
    apply if_pos
    rw [abs_le]
    omega
  rw [clipped]
  refine ⟨(monday - now) / 1000, rfl, ?_, ?_⟩ <;> omega

theorem weekly_expiry_new_year :
    ∃ ttl, secondsUntilMonday 1704067199500 = some ttl ∧
      1704067199000 < 1704067199500 + 1000 * ttl ∧
      1704067199500 + 1000 * ttl ≤ 1704067200000 :=
  @weekly_expiry 1704067199500 1704067200000 (by decide) (by decide) (isNextMonday 1704067199500)
    (by decide)

/-- On the first day of the year 50 the board gets a time to live of 1900 years. -/
theorem weekly_expiry_first_century :
    IsNextMonday (-60589296000000) (-60589123200000) ∧
      secondsUntilMonday (-60589296000000) = some 59958316800 :=
  ⟨isNextMonday (-60589296000000), by decide +kernel⟩

end CodeClash.Backend.Weekly
