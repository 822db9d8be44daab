import CodeClash.Json.Text

/-!
# Reading in front of more text

What a reader takes from a text it takes from a longer text too. Only a number can go on into the
text behind it, so that text must not start with a part of a number. It follows that no text of a
value is cut short by a separator and still read as the value.
-/

namespace CodeClash.Json

/-- What the first reader takes from a text, the second takes in front of more text. -/
def Continues {α : Type} (read other : Reader α) : Prop :=
  ∀ ⦃input rest tail : List Char⦄ ⦃value : α⦄, EndsNumber tail →
    read input = some (value, rest) → other (input ++ tail) = some (value, rest ++ tail)

theorem readDigits_extend (input : List Char) {tail : List Char}
    (ends : StartsWithout IsDigit tail) :
    readDigits (input ++ tail) = ((readDigits input).1, (readDigits input).2 ++ tail) := by
  induction input with
  | nil => exact readDigits_append [] ends
  | cons c _ ih =>
    cases digit : readDigit c with
    | none => simp [readDigits, digit]
    | some => simp [readDigits, digit, ih]

theorem readFraction_continues : Continues readFraction readFraction := by
  intro input _ tail _ ends taken
  rw [readFraction.eq_def] at taken
  split at taken
  · rename_i digits
    split_ifs at taken with empty
    have same := Option.some.inj taken
    rw [List.cons_append, readFraction, readDigits_extend digits ends.noDigit, if_neg empty, same]
  · rename_i noPoint
    cases taken
    cases input with
    | nil => exact @readFraction_text tail [] ends.noDigit ends.noPoint
    | cons =>
      rw [List.cons_append, readFraction.eq_def]
      split
      · rename_i isPoint
        cases isPoint
        exact (noPoint _ rfl).elim
      · rfl

theorem natural_extend {input rest tail : List Char} {sign value : ℤ} (ends : EndsNumber tail)
    (taken : readSigned.natural input sign = some (value, rest)) :
    readSigned.natural (input ++ tail) sign = some (value, rest ++ tail) := by
  rw [readSigned.natural] at taken ⊢
  split_ifs at taken with empty
  rw [readDigits_extend input ends.noDigit, if_neg empty]
  cases taken
  rfl

theorem readSigned_continues : Continues readSigned readSigned := by
  intro input _ _ _ ends taken
  rw [readSigned.eq_def] at taken
  split at taken
  · exact natural_extend ends taken
  · exact natural_extend ends taken
  · rename_i noPlus noMinus
    cases input with
    | nil => simp [readSigned.natural, readDigits] at taken
    | cons =>
      rw [List.cons_append, readSigned.eq_def]
      split
      · rename_i isPlus
        cases isPlus
        exact (noPlus _ rfl).elim
      · rename_i isMinus
        cases isMinus
        exact (noMinus _ rfl).elim
      · exact natural_extend ends taken

theorem readExponent_continues : Continues readExponent readExponent := by
  intro input _ tail _ ends taken
  rw [readExponent.eq_def] at taken
  split at taken
  · exact readSigned_continues ends taken
  · exact readSigned_continues ends taken
  · rename_i noSmall noLarge
    cases taken
    cases input with
    | nil => exact @readExponent_text tail 0 ends
    | cons =>
      rw [List.cons_append, readExponent.eq_def]
      split
      · rename_i isSmall
        cases isSmall
        exact (noSmall _ rfl).elim
      · rename_i isLarge
        cases isLarge
        exact (noLarge _ rfl).elim
      · rfl

theorem readLiteral_continues : Continues readLiteral readLiteral := by
  intro input _ tail _ ends taken
  simp only [readLiteral, Option.bind_eq_bind, Option.bind_eq_some_iff, Prod.exists] at taken ⊢
  rcases taken with ⟨fraction, afterFraction, takenFraction, exponent, afterExponent,
    takenExponent, valid⟩
  rw [readDigits_extend input ends.noDigit]
  refine ⟨fraction, afterFraction ++ tail, readFraction_continues ends takenFraction, exponent,
    afterExponent ++ tail, readExponent_continues ends takenExponent, ?_⟩
  split_ifs at valid ⊢
  cases valid
  rfl

theorem readNumber_continues : Continues readNumber readNumber := by
  intro input _ _ _ ends taken
  rw [readNumber.eq_def] at taken
  split at taken
  · simp only [Option.map_eq_some_iff, Prod.exists] at taken
    rcases taken with ⟨literal, behind, taken, same⟩
    cases same
    simp [readNumber, readLiteral_continues ends taken]
  · rename_i noMinus
    simp only [Option.map_eq_some_iff, Prod.exists] at taken
    rcases taken with ⟨_, _, taken, same⟩
    cases same
    cases input with
    | nil => simp [readLiteral, readDigits, readFraction, readExponent, Literal.Valid] at taken
    | cons =>
      have longer := readLiteral_continues ends taken
      rw [List.cons_append] at longer ⊢
      rw [readNumber.eq_def]
      split
      · rename_i isMinus
        cases isMinus
        exact (noMinus _ rfl).elim
      · simp [longer]

theorem skip_append {input rest : List Char} {c : Char} (tail : List Char)
    (skipped : skip input = c :: rest) : skip (input ++ tail) = c :: (rest ++ tail) := by
  rw [skip] at skipped ⊢
  rw [List.dropWhile_append, skipped]
  rfl

theorem withChar_extend {input rest chars tail : List Char} {c : Char}
    (longer : ∀ {chars}, readChars input = some (chars, rest) →
      readChars (input ++ tail) = some (chars, rest ++ tail))
    (taken : (readChars input).map (withChar c) = some (chars, rest)) :
    (readChars (input ++ tail)).map (withChar c) = some (chars, rest ++ tail) := by
  rcases Option.map_eq_some_iff.mp taken with ⟨⟨_, _⟩, takenOthers, same⟩
  cases same
  rw [longer takenOthers]
  rfl

theorem readChars_extend {input rest chars : List Char} (tail : List Char)
    (taken : readChars input = some (chars, rest)) :
    readChars (input ++ tail) = some (chars, rest ++ tail) := by
  fun_induction readChars input generalizing chars with
  | case1 => cases taken
  | case2 =>
    cases taken
    rfl
  | case3 a b c d input pair single =>
    simp only [List.cons_append, readChars]
    rcases Option.bind_eq_some_iff.mp taken with ⟨_, isCode, taken⟩
    rw [isCode, Option.bind_eq_bind, Option.bind_some]
    split_ifs at taken ⊢ with high low
    · split at taken
      · rcases Option.bind_eq_some_iff.mp taken with ⟨_, isSecond, taken⟩
        simp only [List.cons_append, isSecond, Option.bind_some]
        split_ifs at taken ⊢
        exact withChar_extend pair taken
      · cases taken
    · exact withChar_extend single taken
  | case4 short input notU longer =>
    rcases Option.bind_eq_some_iff.mp taken with ⟨c, escapes, taken⟩
    simp only [List.cons_append]
    rw [readChars_shortEscape _ escapes]
    exact withChar_extend longer taken
  | case5 => cases taken
  | case6 c input noQuote _ noEscape printable longer =>
    have noBackslash : c ≠ '\\' := by
      intro isBackslash
      cases input with
      | nil => simp [readChars] at taken
      | cons next input => exact noEscape next input isBackslash rfl
    rw [List.cons_append, readChars.eq_5, if_neg printable]
    · exact withChar_extend longer taken
    · exact noQuote
    · exact fun _ _ _ _ _ isBackslash _ => noBackslash isBackslash
    · exact fun _ _ isBackslash _ => noBackslash isBackslash

theorem readString_continues : Continues readString readString := by
  intro _ _ tail _ _ taken
  rw [readString] at taken
  split at taken
  · rename_i chars skipped
    rcases Option.map_eq_some_iff.mp taken with ⟨⟨_, _⟩, takenOthers, same⟩
    cases same
    rw [readString, skip_append tail skipped]
    simp [readChars_extend tail takenOthers]
  · cases taken

section Lists

variable {α : Type} {read other : Reader α} {close : Char}

theorem readMember_continues {read other : Reader Json} (continues : Continues read other) :
    Continues (readMember read) (readMember other) := by
  intro _ _ tail _ ends taken
  simp only [readMember, Option.bind_eq_bind, Option.bind_eq_some_iff, Prod.exists] at taken ⊢
  rcases taken with ⟨name, afterName, takenName, taken⟩
  refine ⟨name, afterName ++ tail, readString_continues ends takenName, ?_⟩
  split at taken
  · rename_i behind skipped
    rw [skip_append tail skipped]
    simp only [Option.bind_eq_some_iff, Prod.exists] at taken ⊢
    rcases taken with ⟨value, _, takenValue, same⟩
    cases same
    exact ⟨value, _, continues ends takenValue, rfl⟩
  · cases taken

theorem readMore_continues (continues : Continues read other) {fuel larger : ℕ}
    (enough : fuel ≤ larger) :
    Continues (readMore read close fuel) (readMore other close larger) := by
  induction fuel generalizing larger with
  | zero =>
    intro input rest tail items ends taken
    cases taken
  | succ _ ih =>
    intro _ _ tail _ ends taken
    rcases Nat.exists_eq_add_of_le' (Nat.succ_le_of_lt (Nat.zero_lt_of_lt enough)) with
      ⟨larger, rfl⟩
    rw [readMore] at taken ⊢
    split at taken
    · cases taken
    · rename_i c behind skipped
      rw [skip_append tail skipped]
      simp only at taken ⊢
      split_ifs at taken ⊢ with closes comma
      · cases taken
        rfl
      · simp only [Option.bind_eq_bind, Option.bind_eq_some_iff, Prod.exists] at taken ⊢
        rcases taken with ⟨item, _, takenItem, others, _, takenOthers, same⟩
        cases same
        exact ⟨item, _, continues ends takenItem, others, _, ih (by omega) ends takenOthers, rfl⟩

theorem readItems_continues (continues : Continues read other) :
    Continues (readItems read close) (readItems other close) := by
  intro _ _ tail _ ends taken
  rw [readItems] at taken ⊢
  split at taken
  · cases taken
  · rename_i c behind skipped
    rw [skip_append tail skipped]
    simp only at taken ⊢
    split_ifs at taken ⊢ with closes
    · cases taken
      rfl
    · simp only [Option.bind_eq_bind, Option.bind_eq_some_iff, Prod.exists] at taken ⊢
      rcases taken with ⟨item, afterItem, takenItem, others, _, takenOthers, same⟩
      cases same
      have enough : afterItem.length + 1 ≤ (afterItem ++ tail).length + 1 := by simp
      exact ⟨item, _, continues ends takenItem, others, _,
        readMore_continues continues enough ends takenOthers, rfl⟩

end Lists

theorem map_continues {α β : Type} {read other : Reader α} {make : α → β}
    {input rest tail : List Char} {value : β} (continues : Continues read other)
    (ends : EndsNumber tail)
    (taken : (read input).map (fun taken => (make taken.1, taken.2)) = some (value, rest)) :
    (other (input ++ tail)).map (fun taken => (make taken.1, taken.2)) =
      some (value, rest ++ tail) := by
  rcases Option.map_eq_some_iff.mp taken with ⟨⟨_, _⟩, takenPart, same⟩
  cases same
  rw [continues ends takenPart]
  rfl

theorem readNumber_head {input rest : List Char} {value : Decimal}
    (taken : readNumber input = some (value, rest)) :
    ∃ c behind, input = c :: behind ∧ (IsDigit c ∨ c = '-') := by
  rw [readNumber.eq_def] at taken
  split at taken
  · exact ⟨_, _, rfl, Or.inr rfl⟩
  · rcases Option.map_eq_some_iff.mp taken with ⟨⟨_, behind⟩, takenLiteral, _⟩
    simp only [readLiteral, Option.bind_eq_bind, Option.bind_eq_some_iff, Prod.exists]
      at takenLiteral
    rcases takenLiteral with ⟨_, _, _, _, _, _, valid⟩
    split_ifs at valid with isValid
    cases input with
    | nil => exact (isValid.1 rfl).elim
    | cons c behind =>
      refine ⟨c, behind, rfl, Or.inl ?_⟩
      intro noDigit
      exact isValid.1 (by simp [readDigits, noDigit])

theorem readValue_skipped {input rest : List Char} {c : Char} (fuel : ℕ)
    (skipped : skip input = c :: rest) :
    readValue (fuel + 1) input = readValue (fuel + 1) (c :: rest) := by
  have again : skip (c :: rest) = c :: rest := by
    rw [← skipped, skip, skip, List.dropWhile_idempotent]
  rw [readValue, readValue, skipped, again]

theorem readValue_continues {fuel larger : ℕ} (enough : fuel ≤ larger) :
    Continues (readValue fuel) (readValue larger) := by
  induction fuel generalizing larger with
  | zero =>
    intro input rest tail value ends taken
    cases taken
  | succ _ ih =>
    intro _ _ tail _ ends taken
    rcases Nat.exists_eq_add_of_le' (Nat.succ_le_of_lt (Nat.zero_lt_of_lt enough)) with
      ⟨larger, rfl⟩
    have deeper := ih (Nat.le_of_succ_le_succ enough)
    rw [readValue] at taken
    split at taken
    case h_7 =>
      rcases Option.map_eq_some_iff.mp taken with ⟨⟨_, behind⟩, takenNumber, _⟩
      rcases readNumber_head takenNumber with ⟨_, _, skipped, starts⟩
      rw [readValue_skipped larger (skip_append tail skipped), readValue_digit starts]
      rw [skipped] at taken
      exact map_continues readNumber_continues ends taken
    all_goals
      rename_i skipped
      rw [readValue_skipped larger (skip_append tail skipped)]
    case h_4 =>
      rcases Option.map_eq_some_iff.mp taken with ⟨⟨_, _⟩, takenChars, same⟩
      cases same
      rw [readValue_quote, readChars_extend tail takenChars]
      rfl
    case h_5 =>
      exact map_continues (readItems_continues deeper) ends taken
    case h_6 =>
      exact @map_continues _ _ _ _ (fun members => object (members.foldl put [])) _ _ _ _
        (readItems_continues (readMember_continues deeper)) ends taken
    all_goals
      cases taken
      rfl

/-- No text of a value is cut short by a separator and still read as the value. -/
theorem parse_ne_of_cut {value : Json} {shorter tail : List Char} (formed : value.WellFormed)
    (cut : value.text = shorter ++ tail) (ends : EndsNumber tail) (present : tail ≠ []) :
    parse (String.ofList shorter) ≠ some value := by
  intro parsed
  rw [parse] at parsed
  split at parsed
  · rename_i other rest taken
    split_ifs at parsed with blank
    cases parsed
    rw [String.toList_ofList] at taken
    have none : EndsValue [] := by
      rintro _ ⟨⟩
    have enough : shorter.length + 1 ≤ value.text.length + 1 := by
      rw [cut, List.length_append]
      omega
    have longer := readValue_continues enough ends taken
    have whole := readValue_text formed (Nat.lt_succ_of_le value.depth_le_length) none
    rw [List.append_nil, cut] at whole
    rw [cut, whole] at longer
    simp [present] at longer
  · cases parsed

theorem parse_eq_none_of_more {value : Json} {tail : List Char} (formed : value.WellFormed)
    (ends : EndsValue tail) (more : skip tail ≠ []) :
    parse (String.ofList (value.text ++ tail)) = none := by
  have enough : value.depth < (value.text ++ tail).length + 1 := by
    have below := value.depth_le_length
    rw [List.length_append]
    omega
  have taken := readValue_text formed enough ends
  rw [parse, String.toList_ofList, taken]
  exact if_neg more

theorem escape_ne_nil (c : Char) : escape c ≠ [] := by
  rw [escape]
  split_ifs <;> simp

theorem length_le_escaped (chars : List Char) : chars.length ≤ (chars.flatMap escape).length := by
  induction chars with
  | nil => exact le_rfl
  | cons c =>
    have positive := List.length_pos_iff.mpr (escape_ne_nil c)
    rw [List.flatMap_cons, List.length_append, List.length_cons]
    omega

theorem length_stringText (value : String) :
    value.toList.length + 2 ≤ (stringText value).length := by
  have escaped := length_le_escaped value.toList
  simp only [stringText, List.length_cons, List.length_append, List.length_nil]
  omega

def IsMark (c : Char) : Prop := c = '"' ∨ c = '\\'

theorem escape_marks {c : Char} (mark : IsMark c) : ∀ d ∈ escape c, IsMark d := by
  rcases mark with rfl | rfl <;> simp [escape, IsMark]

theorem next_isMark {value : String} {shorter : List Char} {c : Char}
    (within : shorter <+: value.toList) (starts : shorter ++ [c] <+: stringText value)
    (marks : ∀ d ∈ shorter, IsMark d) : IsMark c := by
  have escaped : '"' :: shorter.flatMap escape <+: stringText value := by
    rcases within with ⟨rest, whole⟩
    refine ⟨rest.flatMap escape ++ ['"'], ?_⟩
    rw [stringText, ← whole]
    simp
  have long : (shorter ++ [c]).length ≤ ('"' :: shorter.flatMap escape).length := by
    have below := length_le_escaped shorter
    simp only [List.length_append, List.length_cons, List.length_nil]
    omega
  have present := (List.prefix_of_prefix_length_le starts escaped long).subset
    (List.mem_append_right shorter (List.mem_singleton_self c))
  rcases List.mem_cons.mp present with rfl | later
  · exact Or.inl rfl
  · rcases List.mem_flatMap.mp later with ⟨origin, among, inEscape⟩
    exact escape_marks (marks origin among) c inEscape

theorem isMark_of_stringText {value : String} {tail : List Char} {c : Char}
    (same : stringText value = value.toList ++ c :: tail) : IsMark c := by
  have starts : value.toList ++ [c] <+: stringText value := ⟨tail, by simp [same]⟩
  have marks : ∀ shorter, shorter <+: value.toList → ∀ d ∈ shorter, IsMark d := by
    intro shorter
    induction shorter using List.reverseRecOn with
    | nil =>
      intro _ d present
      cases present
    | append_singleton shorter last ih =>
      intro within d present
      have before := (List.prefix_append shorter [last]).trans within
      rcases List.mem_append.mp present with earlier | isLast
      · exact ih before d earlier
      · rw [List.mem_singleton.mp isLast]
        refine next_isMark before ?_ (ih before)
        exact within.trans ((List.prefix_append _ _).trans starts)
  exact next_isMark List.prefix_rfl starts (marks _ List.prefix_rfl)

end CodeClash.Json
