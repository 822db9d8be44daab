import Mathlib.Data.List.DropRight
import Mathlib.Data.Nat.Digits.Defs
import Mathlib.Tactic.FinCases

/-!
# Numbers and their JSON texts

A number is a decimal: a sign, significant digits without zeros at either end, and the position of
the decimal point. This is the form from which `Number.prototype.toString` prints. There is one
zero. Between numbers and texts are literals, the three parts of a number in the grammar of JSON.
-/

namespace CodeClash.Json

abbrev Digit := Fin 10

def Digit.char (digit : Digit) : Char := Char.ofNat (48 + digit.val)

def readDigit (c : Char) : Option Digit :=
  if h : 48 ≤ c.toNat ∧ c.toNat < 58 then some ⟨c.toNat - 48, by omega⟩ else none

@[simp]
theorem readDigit_char (digit : Digit) : readDigit digit.char = some digit := by
  revert digit
  decide

def readDigits : List Char → List Digit × List Char
  | [] => ([], [])
  | c :: rest =>
    match readDigit c with
    | some digit => (digit :: (readDigits rest).1, (readDigits rest).2)
    | none => ([], c :: rest)

/-- The text does not start with a character that satisfies the predicate. -/
def StartsWithout (p : Char → Prop) (text : List Char) : Prop := ∀ c ∈ text.head?, ¬p c

def IsDigit (c : Char) : Prop := readDigit c ≠ none

instance : DecidablePred IsDigit := fun c => inferInstanceAs (Decidable (readDigit c ≠ none))

variable {rest : List Char} {digits fraction : List Digit} {exponent : ℤ} {p : Char → Prop}

theorem readDigits_append (digits : List Digit) (ends : StartsWithout IsDigit rest) :
    readDigits (digits.map Digit.char ++ rest) = (digits, rest) := by
  induction digits with
  | nil =>
    cases rest with
    | nil => rfl
    | cons c =>
      have noDigit : readDigit c = none := by
        simpa [StartsWithout, IsDigit] using ends
      simp [readDigits, noDigit]
  | cons _ _ ih => simp [readDigits, ih]

@[ext]
structure Decimal where
  negative : Bool
  digits : List Digit
  point : ℤ
  first_ne_zero : digits.head? ≠ some 0
  last_ne_zero : digits.getLast? ≠ some 0
  zero_unique : digits = [] → negative = false ∧ point = 0
deriving DecidableEq, Repr

namespace Decimal

def zero : Decimal where
  negative := false
  digits := []
  point := 0
  first_ne_zero := by simp
  last_ne_zero := by simp
  zero_unique _ := ⟨rfl, rfl⟩

def isZero (digit : Digit) : Bool := digit == 0

def significant (digits : List Digit) : List Digit :=
  (digits.dropWhile isZero).rdropWhile isZero

theorem significant_last (digits : List Digit) : (significant digits).getLast? ≠ some 0 := by
  intro last
  have present : significant digits ≠ [] := by
    intro empty
    simp [empty] at last
  have kept := List.rdropWhile_last_not isZero (digits.dropWhile isZero) present
  rw [List.getLast?_eq_some_getLast present, Option.some.injEq] at last
  exact kept (beq_iff_eq.mpr last)

theorem significant_head (digits : List Digit) : (significant digits).head? ≠ some 0 := by
  intro head
  rcases List.rdropWhile_prefix isZero (l := digits.dropWhile isZero) with ⟨zeros, split⟩
  change significant digits ++ zeros = digits.dropWhile isZero at split
  have first : (digits.dropWhile isZero).head? = some 0 := by
    rw [← split, List.head?_append, head]
    rfl
  have kept := List.head?_dropWhile_not isZero digits
  simp [first, isZero] at kept

def ofDigits (negative : Bool) (digits : List Digit) (point : ℤ) : Decimal :=
  if present : significant digits = [] then zero
  else
    { negative := negative
      digits := significant digits
      point := point - (digits.takeWhile isZero).length
      first_ne_zero := significant_head digits
      last_ne_zero := significant_last digits
      zero_unique := fun empty => absurd empty present }

variable {digits : List Digit} {number : Decimal}

theorem dropWhile_of_head (first : digits.head? ≠ some 0) :
    digits.dropWhile isZero = digits := by
  cases digits with
  | nil => rfl
  | cons digit =>
    have nonzero : isZero digit = false := by simpa [isZero] using first
    simp [nonzero]

theorem takeWhile_of_head (first : digits.head? ≠ some 0) :
    digits.takeWhile isZero = [] := by
  cases digits with
  | nil => rfl
  | cons digit =>
    have nonzero : isZero digit = false := by simpa [isZero] using first
    simp [nonzero]

theorem head_padded (present : number.digits ≠ []) (after : ℕ) :
    (number.digits ++ List.replicate after 0).head? ≠ some 0 := by
  rw [List.head?_append_of_ne_nil _ present]
  exact number.first_ne_zero

theorem significant_padded (present : number.digits ≠ []) (before after : ℕ) :
    significant (List.replicate before 0 ++ (number.digits ++ List.replicate after 0)) =
      number.digits := by
  rw [significant, List.dropWhile_append_of_pos (by simp [isZero]),
    dropWhile_of_head (head_padded present after), List.rdropWhile, List.reverse_append,
    List.dropWhile_append_of_pos (by simp [isZero]), dropWhile_of_head, List.reverse_reverse]
  rw [List.head?_reverse]
  exact number.last_ne_zero

theorem ofDigits_padded (present : number.digits ≠ []) (before after : ℕ) :
    ofDigits number.negative
      (List.replicate before 0 ++ (number.digits ++ List.replicate after 0))
      (number.point + before) = number := by
  have significant := significant_padded present before after
  rw [ofDigits, dif_neg (by rw [significant]; exact present)]
  refine Decimal.ext rfl significant ?_
  simp only
  rw [List.takeWhile_append_of_pos (by simp [isZero]),
    takeWhile_of_head (head_padded present after)]
  simp

end Decimal

/-- A number as it is written: the digits before and after the point, and the exponent. -/
structure Literal where
  whole : List Digit
  fraction : List Digit
  exponent : ℤ
deriving DecidableEq, Repr

namespace Literal

/-- There is a digit before the point, and no zero before other digits. -/
def Valid (literal : Literal) : Prop :=
  literal.whole ≠ [] ∧ (literal.whole.head? = some 0 → literal.whole.length = 1)

instance (literal : Literal) : Decidable literal.Valid := by
  unfold Valid
  infer_instance

def value (negative : Bool) (literal : Literal) : Decimal :=
  .ofDigits negative (literal.whole ++ literal.fraction)
    (literal.whole.length + literal.exponent)

end Literal

def natDigits (n : ℕ) : List Digit := ((Nat.digits 10 n).map (Fin.ofNat 10)).reverse

def natOfDigits (digits : List Digit) : ℕ := Nat.ofDigits 10 (digits.map Fin.val).reverse

theorem natOfDigits_natDigits (n : ℕ) : natOfDigits (natDigits n) = n := by
  have digits : (Nat.digits 10 n).map (Fin.val ∘ Fin.ofNat 10) = Nat.digits 10 n := by
    conv_rhs => rw [← List.map_id (Nat.digits 10 n)]
    apply List.map_congr_left
    intro _ present
    exact Nat.mod_eq_of_lt (Nat.digits_lt_base (by decide) present)
  rw [natOfDigits, natDigits, ← List.map_reverse, List.reverse_reverse, List.map_map, digits,
    Nat.ofDigits_digits]

theorem natDigits_ne_nil {n : ℕ} (positive : n ≠ 0) : natDigits n ≠ [] := by
  simpa [natDigits, Nat.digits_ne_nil_iff_ne_zero] using positive

def fractionText (fraction : List Digit) : List Char :=
  if fraction = [] then [] else '.' :: fraction.map Digit.char

def exponentText (exponent : ℤ) : List Char :=
  if exponent = 0 then []
  else 'e' :: (if exponent < 0 then '-' else '+') ::
    (natDigits exponent.natAbs).map Digit.char

def Literal.text (literal : Literal) : List Char :=
  literal.whole.map Digit.char ++ (fractionText literal.fraction ++ exponentText literal.exponent)

def readFraction (text : List Char) : Option (List Digit × List Char) :=
  match text with
  | '.' :: rest =>
    if (readDigits rest).1 = [] then none else some (readDigits rest)
  | rest => some ([], rest)

def readSigned (text : List Char) : Option (ℤ × List Char) :=
  match text with
  | '+' :: rest => natural rest 1
  | '-' :: rest => natural rest (-1)
  | rest => natural rest 1
where
  natural (text : List Char) (sign : ℤ) : Option (ℤ × List Char) :=
    if (readDigits text).1 = [] then none
    else some (sign * natOfDigits (readDigits text).1, (readDigits text).2)

def readExponent (text : List Char) : Option (ℤ × List Char) :=
  match text with
  | 'e' :: rest => readSigned rest
  | 'E' :: rest => readSigned rest
  | rest => some (0, rest)

def readLiteral (text : List Char) : Option (Literal × List Char) := do
  let (whole, rest) := readDigits text
  let (fraction, rest) ← readFraction rest
  let (exponent, rest) ← readExponent rest
  let literal : Literal := ⟨whole, fraction, exponent⟩
  if literal.Valid then some (literal, rest) else none

/-- What can follow a number without being taken for a part of it. -/
def EndsNumber (rest : List Char) : Prop :=
  StartsWithout (fun c => IsDigit c ∨ c = '.' ∨ c = 'e' ∨ c = 'E') rest

theorem EndsNumber.noDigit (ends : EndsNumber rest) :
    StartsWithout IsDigit rest := fun c present isDigit => ends c present (Or.inl isDigit)

theorem EndsNumber.noPoint (ends : EndsNumber rest) :
    StartsWithout (· = '.') rest :=
  fun c present isPoint => ends c present (Or.inr (Or.inl isPoint))

theorem natural_append (sign : ℤ) (present : digits ≠ []) (ends : StartsWithout IsDigit rest) :
    readSigned.natural (digits.map Digit.char ++ rest) sign =
      some (sign * natOfDigits digits, rest) := by
  rw [readSigned.natural, readDigits_append digits ends]
  simp [present]

theorem readExponent_text (ends : EndsNumber rest) :
    readExponent (exponentText exponent ++ rest) = some (exponent, rest) := by
  by_cases zero : exponent = 0
  · subst zero
    simp only [exponentText, if_true, List.nil_append]
    rw [readExponent.eq_def]
    split
    · exact (ends 'e' rfl (by simp)).elim
    · exact (ends 'E' rfl (by simp)).elim
    · rfl
  · have present := natDigits_ne_nil (Int.natAbs_ne_zero.mpr zero)
    by_cases negative : exponent < 0
    · simp only [exponentText, zero, negative, if_true, if_false, List.cons_append, readExponent,
        readSigned]
      rw [natural_append _ present ends.noDigit, natOfDigits_natDigits]
      simp only [Option.some.injEq, Prod.mk.injEq, and_true]
      omega
    · simp only [exponentText, zero, negative, if_false, List.cons_append, readExponent,
        readSigned]
      rw [natural_append _ present ends.noDigit, natOfDigits_natDigits]
      simp only [Option.some.injEq, Prod.mk.injEq, and_true]
      omega

theorem readFraction_text
    (ends : StartsWithout IsDigit rest) (noPoint : StartsWithout (· = '.') rest) :
    readFraction (fractionText fraction ++ rest) = some (fraction, rest) := by
  by_cases empty : fraction = []
  · subst empty
    simp only [fractionText, if_true, List.nil_append]
    rw [readFraction.eq_def]
    split
    · exact (noPoint '.' rfl rfl).elim
    · rfl
  · simp only [fractionText, empty, if_false, List.cons_append, readFraction]
    rw [readDigits_append fraction ends]
    simp [empty]

theorem startsWithout_append {text : List Char}
    (first : StartsWithout p text) (second : StartsWithout p rest) :
    StartsWithout p (text ++ rest) := by
  cases text with
  | nil => exact second
  | cons => exact first

theorem exponentText_startsWithout (e : ¬p 'e') :
    StartsWithout p (exponentText exponent) := by
  intro _ present
  rw [exponentText] at present
  split at present
  · simp at present
  · simp only [List.head?_cons, Option.mem_def, Option.some.injEq] at present
    rwa [← present]

theorem fractionText_startsWithout (point : ¬p '.') :
    StartsWithout p (fractionText fraction) := by
  intro _ present
  rw [fractionText] at present
  split at present
  · simp at present
  · simp only [List.head?_cons, Option.mem_def, Option.some.injEq] at present
    rwa [← present]

theorem readLiteral_text {literal : Literal} (valid : literal.Valid)
    (ends : EndsNumber rest) : readLiteral (literal.text ++ rest) = some (literal, rest) := by
  have noDigit : StartsWithout IsDigit (exponentText literal.exponent ++ rest) :=
    startsWithout_append (exponentText_startsWithout (by decide)) ends.noDigit
  have noPoint : StartsWithout (· = '.') (exponentText literal.exponent ++ rest) :=
    startsWithout_append (exponentText_startsWithout (by decide)) ends.noPoint
  have wholeEnds : StartsWithout IsDigit
      (fractionText literal.fraction ++ (exponentText literal.exponent ++ rest)) :=
    startsWithout_append (fractionText_startsWithout (by decide)) noDigit
  rw [readLiteral, Literal.text, List.append_assoc, List.append_assoc,
    readDigits_append literal.whole wholeEnds]
  simp only
  rw [readFraction_text noDigit noPoint]
  simp only [Option.bind_eq_bind, Option.bind_some]
  rw [readExponent_text ends]
  simp [valid]

namespace Decimal

def literal (number : Decimal) : Literal :=
  if number.digits = [] then ⟨[0], [], 0⟩
  else if number.digits.length ≤ number.point ∧ number.point ≤ 21 then
    ⟨number.digits ++ List.replicate (number.point - number.digits.length).toNat 0, [], 0⟩
  else if 0 < number.point ∧ number.point ≤ 21 then
    ⟨number.digits.take number.point.toNat, number.digits.drop number.point.toNat, 0⟩
  else if -6 < number.point ∧ number.point ≤ 0 then
    ⟨[0], List.replicate (-number.point).toNat 0 ++ number.digits, 0⟩
  else
    ⟨number.digits.take 1, number.digits.drop 1, number.point - 1⟩

def text (number : Decimal) : List Char :=
  if number.negative then '-' :: number.literal.text else number.literal.text

theorem valid_of_first {whole fraction : List Digit} {exponent : ℤ} (present : whole ≠ [])
    (first : whole.head? ≠ some 0) : Literal.Valid ⟨whole, fraction, exponent⟩ :=
  ⟨present, fun zero => absurd zero first⟩

variable {number : Decimal} {count : ℕ}

theorem take_head (positive : 0 < count) :
    (number.digits.take count).head? ≠ some 0 := by
  rw [List.head?_take, if_neg (by omega)]
  exact number.first_ne_zero

theorem take_ne_nil (present : number.digits ≠ [])
    (positive : 0 < count) : number.digits.take count ≠ [] := by
  simp only [ne_eq, List.take_eq_nil_iff, not_or]
  exact ⟨by omega, present⟩

/-- The literal that is printed has the digits of the number, with zeros at either end, and
the point where the number has it. -/
theorem literal_cases (present : number.digits ≠ []) :
    number.literal.Valid ∧ ∃ before after,
      number.literal.whole ++ number.literal.fraction =
        List.replicate before 0 ++ (number.digits ++ List.replicate after 0) ∧
      (number.literal.whole.length + number.literal.exponent : ℤ) = number.point + before := by
  have long := List.length_pos_iff.mpr present
  rw [literal, if_neg present]
  split
  · refine ⟨valid_of_first (by simp [present]) (head_padded present _), 0,
      (number.point - number.digits.length).toNat, ?_, ?_⟩
    · simp
    · simp
      omega
  · split
    · refine ⟨valid_of_first (take_ne_nil present (by omega)) (take_head (by omega)), 0, 0, ?_, ?_⟩
      · simp
      · simp
        omega
    · split
      · refine ⟨⟨by simp, by simp⟩, (-number.point).toNat + 1, 0, ?_, ?_⟩
        · simp [List.replicate_succ]
        · simp
          omega
      · refine ⟨valid_of_first (take_ne_nil present (by omega)) (take_head (by omega)), 0, 0,
          ?_, ?_⟩
        · rw [List.take_append_drop]
          simp
        · simp
          omega

theorem literal_value (number : Decimal) :
    number.literal.Valid ∧ number.literal.value number.negative = number := by
  by_cases empty : number.digits = []
  · rcases number.zero_unique empty with ⟨positive, atZero⟩
    rw [literal, if_pos empty]
    refine ⟨⟨by simp, by simp⟩, ?_⟩
    refine Decimal.ext ?_ ?_ ?_
    · rw [positive]
      rfl
    · rw [empty]
      rfl
    · rw [atZero]
      rfl
  · rcases literal_cases empty with ⟨valid, _, _, digits, point⟩
    refine ⟨valid, ?_⟩
    rw [Literal.value, digits, point, ofDigits_padded empty]

end Decimal

def readNumber (text : List Char) : Option (Decimal × List Char) :=
  match text with
  | '-' :: rest => (readLiteral rest).map fun read => (read.1.value true, read.2)
  | rest => (readLiteral rest).map fun read => (read.1.value false, read.2)

theorem text_startsWithout (number : Decimal) :
    StartsWithout (· = '-') (number.literal.text ++ rest) := by
  rcases number.literal_value with ⟨⟨present, _⟩, _⟩
  rcases List.exists_cons_of_ne_nil present with ⟨digit, _, split⟩
  have notMinus : ∀ digit : Digit, digit.char ≠ '-' := by decide
  intro _ first
  simp only [Literal.text, split, List.map_cons, List.cons_append, List.head?_cons,
    Option.mem_def, Option.some.injEq] at first
  rw [← first]
  exact notMinus digit

theorem readNumber_text (number : Decimal) (ends : EndsNumber rest) :
    readNumber (number.text ++ rest) = some (number, rest) := by
  rcases number.literal_value with ⟨valid, value⟩
  have read := readLiteral_text valid ends
  cases negative : number.negative with
  | true =>
    rw [negative] at value
    simp [Decimal.text, negative, readNumber, read, value]
  | false =>
    rw [negative] at value
    simp only [Decimal.text, negative, Bool.false_eq_true, if_false]
    rw [readNumber.eq_def]
    split
    · rename_i isMinus
      exact (text_startsWithout number '-' (by rw [isMinus]; rfl) rfl).elim
    · simp [read, value]

def IsNumberChar (c : Char) : Prop := IsDigit c ∨ c = '-' ∨ c = '+' ∨ c = '.' ∨ c = 'e'

theorem digits_numberChars : ∀ c ∈ digits.map Digit.char, IsNumberChar c := by
  intro _ present
  rcases List.mem_map.mp present with ⟨_, _, rfl⟩
  exact Or.inl (by simp [IsDigit])

theorem fractionText_numberChars :
    ∀ c ∈ fractionText fraction, IsNumberChar c := by
  intro c present
  rw [fractionText] at present
  split_ifs at present
  · cases present
  · rcases List.mem_cons.mp present with rfl | later
    · simp [IsNumberChar]
    · exact digits_numberChars c later

theorem exponentText_numberChars :
    ∀ c ∈ exponentText exponent, IsNumberChar c := by
  intro c present
  rw [exponentText] at present
  split_ifs at present
  · cases present
  all_goals
    rcases List.mem_cons.mp present with rfl | signed
    · simp [IsNumberChar]
    · rcases List.mem_cons.mp signed with rfl | later
      · simp [IsNumberChar]
      · exact digits_numberChars c later

theorem text_numberChars (number : Decimal) : ∀ c ∈ number.text, IsNumberChar c := by
  have literal : ∀ c ∈ number.literal.text, IsNumberChar c := by
    intro c present
    simp only [Literal.text, List.mem_append] at present
    rcases present with whole | fraction | exponent
    · exact digits_numberChars c whole
    · exact fractionText_numberChars c fraction
    · exact exponentText_numberChars c exponent
  intro c present
  rw [Decimal.text] at present
  split_ifs at present
  · rcases List.mem_cons.mp present with rfl | later
    · simp [IsNumberChar]
    · exact literal c later
  · exact literal c present

end CodeClash.Json
