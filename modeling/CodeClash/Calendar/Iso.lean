import CodeClash.Calendar.Days
import Mathlib.Algebra.Group.Nat.Defs
import Mathlib.Data.List.Forall2

/-!
# Dates as texts

A date is written with a fixed number of digits for each of its parts. The year has four digits, or
a sign and six digits if that is not enough. Only texts that are written so are read.
-/

namespace CodeClash.Calendar

structure Date where
  time : ℤ
  valid : |time| ≤ 8640000000000000
deriving DecidableEq

def pad : ℕ → ℕ → List Char
  | 0, _ => []
  | width + 1, value => pad width (value / 10) ++ [Nat.digitChar (value % 10)]

def readNumber (digits : List Char) : Option ℕ :=
  digits.foldlM (fun value c => if c.isDigit then some (value * 10 + (c.toNat - 48)) else none) 0

/-- What stands before each part that follows the year, and its number of digits. -/
def layout : List (Char × ℕ) := [('-', 2), ('-', 2), ('T', 2), (':', 2), (':', 2), ('.', 3)]

def writeParts : List (Char × ℕ) → List ℕ → List Char
  | (separator, width) :: layout, part :: parts =>
    separator :: (pad width part ++ writeParts layout parts)
  | _, _ => ['Z']

def readParts : List (Char × ℕ) → List Char → Option (List ℕ)
  | (separator, width) :: layout, c :: text =>
    if c = separator then do
      let part ← readNumber (text.take width)
      let parts ← readParts layout (text.drop width)
      return part :: parts
    else none
  | [], ['Z'] => some []
  | _, _ => none

def writeYear (year : ℤ) : List Char :=
  if 0 ≤ year ∧ year ≤ 9999 then pad 4 year.toNat
  else (if year < 0 then '-' else '+') :: pad 6 year.natAbs

def readSigned (sign : ℤ) (width : ℕ) (text : List Char) : Option (ℤ × List Char) :=
  (readNumber (text.take width)).map fun year : ℕ => (sign * year, text.drop width)

def readYear (text : List Char) : Option (ℤ × List Char) :=
  match text with
  | '-' :: text => readSigned (-1) 6 text
  | '+' :: text => readSigned 1 6 text
  | text => readSigned 1 4 text

def toISOString (date : Date) : List Char :=
  let day := date.time / msPerDay
  let ms := (date.time % msPerDay).toNat
  writeYear (yearFromDay day) ++ writeParts layout [monthFromDay day + 1, (dateFromDay day).toNat,
    ms / 3600000, ms / 60000 % 60, ms / 1000 % 60, ms % 1000]

def newDate (text : List Char) : Option Date :=
  match readYear text with
  | none => none
  | some (year, rest) =>
    match readParts layout rest with
    | some [month, date, hours, minutes, seconds, ms] =>
      let time := makeDay year (month - 1) date * msPerDay +
        (((hours * 60 + minutes) * 60 + seconds) * 1000 + ms)
      if valid : |time| ≤ 8640000000000000 then some ⟨time, valid⟩ else none
    | _ => none

theorem length_pad (width value : ℕ) : (pad width value).length = width := by
  induction width generalizing value with
  | zero => rfl
  | succ width ih => rw [pad, List.length_append, ih, List.length_singleton]

theorem isDigit_digitChar {rest : ℕ} (small : rest < 10) :
    (Nat.digitChar rest).isDigit = true ∧ (Nat.digitChar rest).toNat - 48 = rest := by
  have digit : ∀ rest < 10, (Nat.digitChar rest).isDigit = true ∧
    (Nat.digitChar rest).toNat - 48 = rest := by decide
  exact digit rest small

theorem readNumber_pad {width value : ℕ} (small : value < 10 ^ width) :
    readNumber (pad width value) = some value := by
  induction width generalizing value with
  | zero => simp_all [pad, readNumber]
  | succ width ih =>
    have last := isDigit_digitChar (Nat.mod_lt value (by decide : 0 < 10))
    have others := @ih (value / 10) (by rw [pow_succ] at small; omega)
    rw [readNumber] at others
    rw [readNumber, pad, List.foldlM_append, others]
    simp [last, Nat.div_add_mod']

theorem take_pad (width value : ℕ) (rest : List Char) :
    (pad width value ++ rest).take width = pad width value := by
  rw [List.take_append_of_le_length (length_pad width value).ge, List.take_of_length_le
    (length_pad width value).le]

theorem drop_pad (width value : ℕ) (rest : List Char) :
    (pad width value ++ rest).drop width = rest := by
  rw [List.drop_append_of_le_length (length_pad width value).ge, List.drop_of_length_le
    (length_pad width value).le, List.nil_append]

theorem readParts_writeParts {layout : List (Char × ℕ)} {parts : List ℕ}
    (fit : List.Forall₂ (fun field part => part < 10 ^ field.2) layout parts) :
    readParts layout (writeParts layout parts) = some parts := by
  induction fit with
  | nil => rfl
  | cons small _ ih =>
    simp [writeParts, readParts, take_pad, drop_pad, readNumber_pad small, ih]

theorem readSigned_pad {width value : ℕ} (small : value < 10 ^ width) (sign : ℤ)
    (rest : List Char) :
    readSigned sign width (pad width value ++ rest) = some (sign * value, rest) := by
  rw [readSigned, take_pad, drop_pad, readNumber_pad small, Option.map_some]

theorem readYear_digit {c : Char} (isDigit : c.isDigit = true) (text : List Char) :
    readYear (c :: text) = readSigned 1 4 (c :: text) := by
  unfold readYear
  split
  · next starts =>
    cases starts
    cases isDigit
  · next starts =>
    cases starts
    cases isDigit
  · rfl

theorem readYear_writeYear {year : ℤ} (short : |year| < 10 ^ 6) (rest : List Char) :
    readYear (writeYear year ++ rest) = some (year, rest) := by
  rw [abs_lt] at short
  unfold writeYear
  split_ifs with isShort isNegative
  · have first := isDigit_digitChar (Nat.mod_lt (year.toNat / 10 / 10 / 10) (by decide : 0 < 10))
    have unsigned : readYear (pad 4 year.toNat ++ rest) =
        readSigned 1 4 (pad 4 year.toNat ++ rest) := readYear_digit first.1 _
    rw [unsigned, readSigned_pad (by omega), one_mul, Int.toNat_of_nonneg isShort.1]
  · rw [List.cons_append, readYear, readSigned_pad (by omega)]
    congr 2
    omega
  · rw [List.cons_append, readYear, readSigned_pad (by omega)]
    congr 2
    omega

theorem yearFromDay_bounds {day : ℤ} (bounds : |day| ≤ 10 ^ 8 + 1) :
    |(yearFromDay day).1| < 10 ^ 6 := by
  have year := (yearFromDay day).2
  unfold dayFromYear at year
  rw [abs_le] at bounds
  rw [abs_lt]
  omega

/-- A date is read back from its text. -/
theorem newDate_toISOString (date : Date) : newDate (toISOString date) = some date := by
  have bounds := abs_le.mp date.valid
  have month := monthFromDay_lt (date.time / msPerDay)
  have dayOfMonth := dateFromDay_bounds (date.time / msPerDay)
  have day := makeDay_add (date.time / msPerDay) 0
  rw [add_zero, add_zero] at day
  have msInDay : 0 ≤ date.time % msPerDay ∧ date.time % msPerDay < 86400000 ∧
      date.time / msPerDay * 86400000 + date.time % msPerDay = date.time := by
    unfold msPerDay
    omega
  have checked (time : ℤ) (same : time = date.time) :
      (if valid : |time| ≤ 8640000000000000 then some (⟨time, valid⟩ : Date) else none) =
        some date := by
    subst same
    exact dif_pos date.valid
  rw [newDate, toISOString, readYear_writeYear (yearFromDay_bounds
    (by unfold msPerDay; rw [abs_le]; omega))]
  dsimp only
  rw [readParts_writeParts]
  · refine checked _ ?_
    rw [Int.toNat_of_nonneg dayOfMonth.1, Int.natCast_succ, add_sub_cancel_right, day]
    unfold msPerDay at msInDay ⊢
    omega
  · refine .cons ?_ (.cons ?_ (.cons ?_ (.cons ?_ (.cons ?_ (.cons ?_ .nil)))))
    all_goals simp only [Nat.reducePow]
    all_goals omega

end CodeClash.Calendar
