import Mathlib.Algebra.Order.Group.Abs
import Mathlib.Algebra.Order.Group.Int
import Mathlib.Data.Int.Notation

/-!
# Days and dates

The calendar of ECMAScript: days are counted from 1970, and years have the lengths of the Gregorian
calendar in both directions. A moment is a number of milliseconds, and beyond 8.64·10¹⁵ of them
there is no time.
-/

namespace CodeClash.Calendar

def msPerDay : ℤ := 86400000

def dayFromYear (year : ℤ) : ℤ :=
  365 * (year - 1970) + (year - 1969) / 4 - (year - 1901) / 100 + (year - 1601) / 400

/-- A year of average length leads to the year of a day or to one next to it. -/
theorem near_dayFromYear {day guess : ℤ} (average : guess = 1970 + day * 400 / 146097) :
    dayFromYear (guess - 1) ≤ day ∧ day < dayFromYear (guess + 1 + 1) := by
  unfold dayFromYear
  omega

def yearFromDay (day : ℤ) : {year : ℤ // dayFromYear year ≤ day ∧ day < dayFromYear (year + 1)} :=
  let guess := 1970 + day * 400 / 146097
  if early : day < dayFromYear guess then
    ⟨guess - 1, (near_dayFromYear rfl).1, (sub_add_cancel guess 1).symm ▸ early⟩
  else if late : dayFromYear (guess + 1) ≤ day then ⟨guess + 1, late, (near_dayFromYear rfl).2⟩
  else ⟨guess, not_lt.mp early, not_le.mp late⟩

def isLeap (year : ℤ) : Bool := year % 4 = 0 && (year % 100 ≠ 0 || year % 400 = 0)

def monthStarts (isLeap : Bool) : List ℤ :=
  let leap := if isLeap then 1 else 0
  [0, 31, 59 + leap, 90 + leap, 120 + leap, 151 + leap, 181 + leap, 212 + leap, 243 + leap,
    273 + leap, 304 + leap, 334 + leap]

def monthStart (year : ℤ) (month : ℕ) : ℤ :=
  dayFromYear year + (monthStarts (isLeap year)).getD month 0

section Dates

variable (day : ℤ)

def monthFromDay : ℕ :=
  let year := yearFromDay day
  (monthStarts (isLeap year)).countP (fun start => start ≤ day - dayFromYear year) - 1

def dateFromDay : ℤ := day - monthStart (yearFromDay day) (monthFromDay day) + 1

/-- Sunday is 0. -/
def weekDay : ℤ := (day + 4) % 7

end Dates

/-- The day of a date whose month and day of the month may lie outside their ranges. -/
def makeDay (year month date : ℤ) : ℤ :=
  monthStart (year + month / 12) (month % 12).toNat + date - 1

def timeClip (time : ℤ) : Option ℤ := if |time| ≤ 8640000000000000 then some time else none

/-- `Date.UTC`, which takes two digits for a year of the last century. -/
def utc (year month date : ℤ) : Option ℤ :=
  let fullYear := if 0 ≤ year ∧ year ≤ 99 then 1900 + year else year
  timeClip (makeDay fullYear month date * msPerDay)

theorem monthFromDay_lt (day : ℤ) : monthFromDay day < 12 := by
  have few : (monthStarts (isLeap (yearFromDay day))).countP
      (fun start => start ≤ day - dayFromYear (yearFromDay day)) ≤ 12 := List.countP_le_length
  simp only [monthFromDay]
  omega

/-- Days that are added to the date of a day carry over into later months and years. -/
theorem makeDay_add (day further : ℤ) :
    makeDay (yearFromDay day) (monthFromDay day) (dateFromDay day + further) = day + further := by
  have month := monthFromDay_lt day
  have within : (monthFromDay day : ℤ) / 12 = 0 ∧ ((monthFromDay day : ℤ) % 12).toNat =
      monthFromDay day := by omega
  rw [makeDay, within.1, within.2, add_zero, dateFromDay]
  omega

/-- Two digits are enough. -/
theorem dateFromDay_bounds (day : ℤ) : 0 ≤ dateFromDay day ∧ dateFromDay day < 100 := by
  have month : ∀ isLeap : Bool, ∀ days < 366,
      (monthStarts isLeap).getD
        ((monthStarts isLeap).countP (fun start => start ≤ Int.ofNat days) - 1) 0 ≤ days ∧
      days ≤ (monthStarts isLeap).getD
        ((monthStarts isLeap).countP (fun start => start ≤ Int.ofNat days) - 1) 0 + 31 := by
    decide +kernel
  have bounds := (yearFromDay day).2
  have length : dayFromYear ((yearFromDay day).1 + 1) ≤ dayFromYear (yearFromDay day).1 + 366 := by
    unfold dayFromYear
    omega
  have within := month (isLeap (yearFromDay day)) (day - dayFromYear (yearFromDay day)).toNat
    (by omega)
  rw [Int.ofNat_eq_natCast, Int.toNat_of_nonneg (by omega)] at within
  simp only [dateFromDay, monthStart, monthFromDay]
  omega

end CodeClash.Calendar
