import Mathlib.Algebra.Order.Field.Power
import Mathlib.Data.Int.Log
import Mathlib.Data.Rat.Floor
import Mathlib.Tactic.Linarith

/-!
# Doubles

Numbers of double precision are rational numbers with a significand of 53 bits. The exact result of
an operation is rounded to the nearest of them, and to the one with an even significand if two are
equally near. Numbers beyond the largest double are left out.
-/

namespace CodeClash.Arithmetic

def IsDouble (number : ℚ) : Prop :=
  ∃ significand exponent : ℤ, |significand| ≤ 2 ^ 53 ∧ -1074 ≤ exponent ∧
    number = significand * 2 ^ exponent

def roundEven (number : ℚ) : ℤ :=
  let below := ⌊number⌋
  if number - below < 1 / 2 then below
  else if 1 / 2 < number - below then below + 1
  else below + below % 2

/-- The exponent of the last bit of the significand. -/
def lastBit (number : ℚ) : ℤ := max (Int.log 2 |number| - 52) (-1074)

def toDouble (number : ℚ) : ℚ := roundEven (number / 2 ^ lastBit number) * 2 ^ lastBit number

structure Nearest (exact rounded : ℚ) : Prop where
  isDouble : IsDouble rounded
  nearest : ∀ other, IsDouble other → |rounded - exact| ≤ |other - exact|

variable {number : ℚ}

theorem abs_roundEven_sub_le (number : ℚ) : |(roundEven number : ℚ) - number| ≤ 1 / 2 := by
  have least := Int.floor_le number
  have greatest := Int.lt_floor_add_one number
  have parity := Int.emod_two_eq_zero_or_one ⌊number⌋
  simp only [roundEven]
  split_ifs
  · rw [abs_le]
    constructor <;> linarith
  · push_cast
    rw [abs_le]
    constructor <;> linarith
  · rcases parity with even | odd
    · rw [even, abs_le]
      push_cast
      constructor <;> linarith
    · rw [odd, abs_le]
      push_cast
      constructor <;> linarith

theorem abs_roundEven_sub_le_abs (number : ℚ) (other : ℤ) :
    |(roundEven number : ℚ) - number| ≤ |other - number| := by
  have near := abs_roundEven_sub_le number
  by_cases same : roundEven number = other
  · rw [same]
  · have apart : (1 : ℚ) ≤ |(roundEven number : ℚ) - other| := by
      exact_mod_cast Int.one_le_abs (sub_ne_zero.mpr same)
    have path := abs_sub_le (roundEven number : ℚ) number other
    rw [abs_sub_comm number] at path
    linarith

/-- Multiples of the last bit are no nearer. -/
theorem abs_toDouble_sub_le (number : ℚ) (multiple : ℤ) :
    |toDouble number - number| ≤ |multiple * 2 ^ lastBit number - number| := by
  have positive : (0 : ℚ) < 2 ^ lastBit number := by positivity
  have scaled (factor : ℤ) : |factor * 2 ^ lastBit number - number| =
      |factor - number / 2 ^ lastBit number| * 2 ^ lastBit number := by
    rw [← abs_of_pos positive, ← abs_mul, abs_of_pos positive, sub_mul,
      div_mul_cancel₀ _ positive.ne']
  rw [toDouble, scaled, scaled]
  exact mul_le_mul_of_nonneg_right (abs_roundEven_sub_le_abs _ multiple) positive.le

theorem abs_toDouble_sub_le_sub {multiple : ℤ} (below : multiple * 2 ^ lastBit number ≤ |number|) :
    |toDouble number - number| ≤ |number| - multiple * 2 ^ lastBit number := by
  rcases abs_cases number with ⟨size, sign⟩ | ⟨size, sign⟩
  · refine (abs_toDouble_sub_le number multiple).trans_eq ?_
    rw [abs_of_nonpos (by linarith)]
    linarith
  · refine (abs_toDouble_sub_le number (-multiple)).trans_eq ?_
    rw [Int.cast_neg, neg_mul, abs_of_nonneg (by linarith)]
    linarith

/-- A double is a multiple of the last bit, or it is no larger than the power of two below. -/
theorem IsDouble.cases {other : ℚ} (isDouble : IsDouble other) :
    (∃ multiple : ℤ, other = multiple * 2 ^ lastBit number) ∨
      |other| ≤ 2 ^ Int.log 2 |number| ∧ lastBit number = Int.log 2 |number| - 52 := by
  rcases isDouble with ⟨significand, exponent, bits, subnormal, rfl⟩
  by_cases coarse : lastBit number ≤ exponent
  · refine .inl ⟨significand * 2 ^ (exponent - lastBit number).toNat, ?_⟩
    have split : exponent = ((exponent - lastBit number).toNat : ℤ) + lastBit number := by omega
    nth_rewrite 1 [split]
    rw [zpow_add₀ two_ne_zero, zpow_natCast]
    push_cast
    ring
  · have normal : lastBit number = Int.log 2 |number| - 52 := by
      unfold lastBit at coarse ⊢
      omega
    refine .inr ⟨?_, normal⟩
    have bound : |(significand : ℚ)| ≤ 2 ^ 53 := by exact_mod_cast bits
    calc |(significand : ℚ) * 2 ^ exponent|
        = |(significand : ℚ)| * 2 ^ exponent := by
          rw [abs_mul, abs_of_pos (zpow_pos two_pos exponent : (0 : ℚ) < _)]
      _ ≤ 2 ^ 53 * 2 ^ exponent := mul_le_mul_of_nonneg_right bound (by positivity)
      _ = 2 ^ (53 + exponent) := by rw [zpow_add₀ two_ne_zero]; rfl
      _ ≤ 2 ^ Int.log 2 |number| := zpow_le_zpow_right₀ one_le_two (by omega)

theorem toDouble_nearest (number : ℚ) : Nearest number (toDouble number) := by
  by_cases zero : number = 0
  · have rounded : toDouble number = 0 := by simp [toDouble, roundEven, zero]
    rw [rounded, zero]
    refine ⟨⟨0, 0, by norm_num, by norm_num, by norm_num⟩, fun other _ => ?_⟩
    rw [sub_self, abs_zero]
    exact abs_nonneg _
  have below : 2 ^ Int.log 2 |number| ≤ |number| :=
    mod_cast Int.zpow_log_le_self one_lt_two (abs_pos.mpr zero)
  have above : |number| < 2 ^ (Int.log 2 |number| + 1) :=
    mod_cast Int.lt_zpow_succ_log_self one_lt_two |number|
  refine ⟨⟨_, _, ?_, le_max_right _ _, rfl⟩, fun other isDouble => ?_⟩
  · have scaled : |number / 2 ^ lastBit number| ≤ 2 ^ 53 := by
      rw [abs_div, abs_of_pos (by positivity : (0 : ℚ) < 2 ^ lastBit number),
        div_le_iff₀ (by positivity)]
      calc |number| ≤ 2 ^ (Int.log 2 |number| + 1) := above.le
        _ ≤ 2 ^ (53 + lastBit number) :=
          zpow_le_zpow_right₀ one_le_two (by unfold lastBit; omega)
        _ = 2 ^ 53 * 2 ^ lastBit number := by rw [zpow_add₀ two_ne_zero]; rfl
    have near := abs_roundEven_sub_le (number / 2 ^ lastBit number)
    have short : |(roundEven (number / 2 ^ lastBit number) : ℚ)| < 2 ^ 53 + 1 := by
      have path := abs_sub_abs_le_abs_sub (roundEven (number / 2 ^ lastBit number) : ℚ)
        (number / 2 ^ lastBit number)
      linarith
    exact Int.lt_add_one_iff.mp (by exact_mod_cast short)
  · rcases @IsDouble.cases number _ isDouble with ⟨multiple, rfl⟩ | ⟨small, normal⟩
    · exact abs_toDouble_sub_le number multiple
    · have power : (2 : ℚ) ^ Int.log 2 |number| = (2 ^ 52 : ℤ) * 2 ^ lastBit number := by
        rw [normal, Int.cast_pow, ← zpow_natCast, Int.cast_ofNat, ← zpow_add₀ two_ne_zero]
        congr 1
        omega
      have path := abs_sub_abs_le_abs_sub number other
      rw [abs_sub_comm] at path
      have bound := abs_toDouble_sub_le_sub (power ▸ below)
      rw [← power] at bound
      linarith

theorem IsDouble.toDouble_eq (isDouble : IsDouble number) : toDouble number = number := by
  have near := (toDouble_nearest number).nearest number isDouble
  rw [sub_self, abs_zero] at near
  exact sub_eq_zero.mp (abs_eq_zero.mp (le_antisymm near (abs_nonneg _)))

theorem isDouble_natCast {natural : ℕ} (small : natural ≤ 2 ^ 53) : IsDouble natural :=
  ⟨natural, 0, by rw [Nat.abs_cast]; exact_mod_cast small, by norm_num, by simp⟩

end CodeClash.Arithmetic
