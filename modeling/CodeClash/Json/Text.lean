import CodeClash.Json.Number

/-!
# JSON values and their texts

`stringify` prints a value without spaces, as `JSON.stringify` does, and `parse` reads any JSON
text. A string is a sequence of Unicode characters; an escaped surrogate without a partner is not
read. Of several members with one name the place of the first and the value of the last are kept.
-/

namespace CodeClash

inductive Json where
  | null
  | bool (value : Bool)
  | number (value : Json.Decimal)
  | string (value : String)
  | array (elements : List Json)
  | object (members : List (String × Json))

namespace Json

def hexDigit (n : ℕ) : Char := if n < 10 then Char.ofNat (48 + n) else Char.ofNat (87 + n)

def escape (c : Char) : List Char :=
  if c = '"' then ['\\', '"']
  else if c = '\\' then ['\\', '\\']
  else if c.toNat = 8 then ['\\', 'b']
  else if c.toNat = 9 then ['\\', 't']
  else if c.toNat = 10 then ['\\', 'n']
  else if c.toNat = 12 then ['\\', 'f']
  else if c.toNat = 13 then ['\\', 'r']
  else if c.toNat < 32 then
    ['\\', 'u', '0', '0', hexDigit (c.toNat / 16), hexDigit (c.toNat % 16)]
  else [c]

def stringText (value : String) : List Char := '"' :: (value.toList.flatMap escape ++ ['"'])

mutual

def text : Json → List Char
  | null => "null".toList
  | bool true => "true".toList
  | bool false => "false".toList
  | number value => value.text
  | string value => stringText value
  | array [] => ['[', ']']
  | array (element :: elements) => '[' :: (text element ++ elementsText elements)
  | object [] => ['\x7b', '\x7d']
  | object ((name, member) :: members) =>
    '\x7b' :: (stringText name ++ ':' :: (text member ++ membersText members))

def elementsText : List Json → List Char
  | [] => [']']
  | element :: elements => ',' :: (text element ++ elementsText elements)

def membersText : List (String × Json) → List Char
  | [] => ['\x7d']
  | (name, member) :: members =>
    ',' :: (stringText name ++ ':' :: (text member ++ membersText members))

end

def stringify (value : Json) : String := String.ofList value.text

def isSpace (c : Char) : Bool := c = ' ' || c = '\t' || c = '\n' || c = '\r'

def skip (input : List Char) : List Char := input.dropWhile isSpace

def hexValue (c : Char) : Option ℕ :=
  if '0' ≤ c ∧ c ≤ '9' then some (c.toNat - 48)
  else if 'a' ≤ c ∧ c ≤ 'f' then some (c.toNat - 87)
  else if 'A' ≤ c ∧ c ≤ 'F' then some (c.toNat - 55)
  else none

def hexCode (a b c d : Char) : Option ℕ := do
  let a ← hexValue a
  let b ← hexValue b
  let c ← hexValue c
  let d ← hexValue d
  return a * 4096 + b * 256 + c * 16 + d

def isHighSurrogate (code : ℕ) : Bool := 0xD800 ≤ code ∧ code < 0xDC00

def isLowSurrogate (code : ℕ) : Bool := 0xDC00 ≤ code ∧ code < 0xE000

def shortEscape (c : Char) : Option Char :=
  if c = '"' ∨ c = '\\' ∨ c = '/' then some c
  else if c = 'b' then some (Char.ofNat 8)
  else if c = 't' then some '\t'
  else if c = 'n' then some '\n'
  else if c = 'f' then some (Char.ofNat 12)
  else if c = 'r' then some '\r'
  else none

def withChar (c : Char) (read : List Char × List Char) : List Char × List Char :=
  (c :: read.1, read.2)

def readChars : List Char → Option (List Char × List Char)
  | [] => none
  | '"' :: rest => some ([], rest)
  | '\\' :: 'u' :: a :: b :: c :: d :: rest => do
      let code ← hexCode a b c d
      if isHighSurrogate code then
        match rest with
        | '\\' :: 'u' :: e :: f :: g :: h :: rest => do
            let low ← hexCode e f g h
            if isLowSurrogate low then
              (readChars rest).map
                (withChar (Char.ofNat (0x10000 + (code - 0xD800) * 1024 + (low - 0xDC00))))
            else none
        | _ => none
      else if isLowSurrogate code then none
      else (readChars rest).map (withChar (Char.ofNat code))
  | '\\' :: c :: rest => do
      let char ← shortEscape c
      (readChars rest).map (withChar char)
  | c :: rest => if c.toNat < 32 then none else (readChars rest).map (withChar c)

abbrev Reader (α : Type) := List Char → Option (α × List Char)

def readString : Reader String := fun input =>
  match skip input with
  | '"' :: rest => (readChars rest).map fun read => (String.ofList read.1, read.2)
  | _ => none

def readMember (read : Reader Json) : Reader (String × Json) := fun input => do
  let (name, rest) ← readString input
  match skip rest with
  | ':' :: rest =>
    let (value, rest) ← read rest
    return ((name, value), rest)
  | _ => none

/-- What follows the first item of a list up to the closing character. The fuel bounds the
number of items. -/
def readMore {α : Type} (read : Reader α) (close : Char) : ℕ → Reader (List α)
  | 0, _ => none
  | fuel + 1, input =>
    match skip input with
    | [] => none
    | c :: rest =>
      if c = close then some ([], rest)
      else if c = ',' then do
        let (item, rest) ← read rest
        let (items, rest) ← readMore read close fuel rest
        return (item :: items, rest)
      else none

def readItems {α : Type} (read : Reader α) (close : Char) : Reader (List α) := fun input =>
  match skip input with
  | [] => none
  | c :: rest =>
    if c = close then some ([], rest)
    else do
      let (item, rest) ← read (c :: rest)
      let (items, rest) ← readMore read close (rest.length + 1) rest
      return (item :: items, rest)

def put (members : List (String × Json)) (member : String × Json) : List (String × Json) :=
  if member.1 ∈ members.map Prod.fst then
    members.map fun other => if other.1 = member.1 then member else other
  else members ++ [member]

def readValue : ℕ → Reader Json
  | 0, _ => none
  | fuel + 1, input =>
    match skip input with
    | 'n' :: 'u' :: 'l' :: 'l' :: rest => some (null, rest)
    | 't' :: 'r' :: 'u' :: 'e' :: rest => some (bool true, rest)
    | 'f' :: 'a' :: 'l' :: 's' :: 'e' :: rest => some (bool false, rest)
    | '"' :: rest => (readChars rest).map fun read => (string (String.ofList read.1), read.2)
    | '[' :: rest => (readItems (readValue fuel) ']' rest).map fun read => (array read.1, read.2)
    | '\x7b' :: rest =>
      (readItems (readMember (readValue fuel)) '\x7d' rest).map fun read =>
        (object (read.1.foldl put []), read.2)
    | rest => (readNumber rest).map fun read => (number read.1, read.2)

def parse (input : String) : Option Json :=
  match readValue (input.toList.length + 1) input.toList with
  | some (value, rest) => if skip rest = [] then some value else none
  | none => none

section Strings

variable {c : Char}

theorem hexValue_hexDigit {n : ℕ} (small : n < 16) : hexValue (hexDigit n) = some n := by
  have all : ∀ n : Fin 16, hexValue (hexDigit n) = some n.val := by decide
  exact all ⟨n, small⟩

theorem eq_ofNat {code : ℕ} (same : c.toNat = code) : c = Char.ofNat code := by
  rw [← same, Char.ofNat_toNat]

theorem readChars_shortEscape {short : Char} (rest : List Char)
    (escapes : shortEscape short = some c) :
    readChars ('\\' :: short :: rest) = (readChars rest).map (withChar c) := by
  have notU : short ≠ 'u' := by
    rintro rfl
    simp [shortEscape] at escapes
  rw [readChars.eq_4 _ _ fun _ _ _ _ _ isU => absurd isU notU, escapes]
  rfl

theorem readChars_control (rest : List Char) (control : c.toNat < 32) :
    readChars ('\\' :: 'u' :: '0' :: '0' :: hexDigit (c.toNat / 16) :: hexDigit (c.toNat % 16) ::
      rest) = (readChars rest).map (withChar c) := by
  have high : hexValue (hexDigit (c.toNat / 16)) = some (c.toNat / 16) :=
    hexValue_hexDigit (by omega)
  have low : hexValue (hexDigit (c.toNat % 16)) = some (c.toNat % 16) :=
    hexValue_hexDigit (by omega)
  have zero : hexValue '0' = some 0 := by decide
  have code : hexCode '0' '0' (hexDigit (c.toNat / 16)) (hexDigit (c.toNat % 16)) =
      some c.toNat := by
    simp [hexCode, high, low, zero]
    omega
  have noHigh : isHighSurrogate c.toNat = false := by
    simp [isHighSurrogate]
    omega
  have noLow : isLowSurrogate c.toNat = false := by
    simp [isLowSurrogate]
    omega
  simp [readChars, code, noHigh, noLow, Char.ofNat_toNat]

theorem readChars_escape (c : Char) (rest : List Char) :
    readChars (escape c ++ rest) = (readChars rest).map (withChar c) := by
  rw [escape]
  split_ifs with quote backslash b t n f r control
  · exact readChars_shortEscape rest (by rw [quote]; decide)
  · exact readChars_shortEscape rest (by rw [backslash]; decide)
  · exact readChars_shortEscape rest (by rw [eq_ofNat b]; decide)
  · exact readChars_shortEscape rest (by rw [eq_ofNat t]; decide)
  · exact readChars_shortEscape rest (by rw [eq_ofNat n]; decide)
  · exact readChars_shortEscape rest (by rw [eq_ofNat f]; decide)
  · exact readChars_shortEscape rest (by rw [eq_ofNat r]; decide)
  · exact readChars_control rest control
  · rw [List.singleton_append, readChars.eq_5, if_neg control]
    · exact quote
    · exact fun _ _ _ _ _ isBackslash _ => backslash isBackslash
    · exact fun _ _ isBackslash _ => backslash isBackslash

theorem readChars_text (chars rest : List Char) :
    readChars (chars.flatMap escape ++ '"' :: rest) = some (chars, rest) := by
  induction chars with
  | nil => simp [readChars]
  | cons _ _ ih =>
    rw [List.flatMap_cons, List.append_assoc, readChars_escape, ih]
    rfl

theorem readString_text (value : String) (rest : List Char) :
    readString (stringText value ++ rest) = some (value, rest) := by
  have quote : skip ('"' :: (value.toList.flatMap escape ++ '"' :: rest)) =
      '"' :: (value.toList.flatMap escape ++ '"' :: rest) := by
    simp [skip, isSpace]
  simp [readString, stringText, quote, readChars_text]

end Strings

/-- What can follow a value: nothing, or the next item or the end of a list. -/
def EndsValue (rest : List Char) : Prop :=
  StartsWithout (fun c => ¬(c = ',' ∨ c = ']' ∨ c = '\x7d')) rest

theorem EndsValue.endsNumber {rest : List Char} (ends : EndsValue rest) : EndsNumber rest := by
  intro c present part
  have allowed := ends c present
  rw [not_not] at allowed
  rcases allowed with rfl | rfl | rfl <;> revert part <;> decide

theorem endsValue_cons {c : Char} (rest : List Char) (ends : c = ',' ∨ c = ']' ∨ c = '\x7d') :
    EndsValue (c :: rest) := by
  rintro _ ⟨⟩
  exact not_not.mpr ends

section Lists

variable {α : Type} {read : Reader α} {itemText : α → List Char} {close : Char}

/-- Items with a comma in front of each, and the closing character. -/
def moreText (itemText : α → List Char) (close : Char) (items : List α) : List Char :=
  items.flatMap (fun item => ',' :: itemText item) ++ [close]

theorem length_lt_moreText (itemText : α → List Char) (close : Char) (items : List α) :
    items.length < (moreText itemText close items).length := by
  induction items with
  | nil => simp [moreText]
  | cons _ _ ih =>
    simp only [moreText, List.flatMap_cons, List.length_append, List.length_cons] at ih ⊢
    omega

theorem moreText_ends (itemText : α → List Char) (closes : close = ']' ∨ close = '\x7d')
    (items : List α) (rest : List Char) : EndsValue (moreText itemText close items ++ rest) := by
  cases items with
  | nil => exact endsValue_cons rest (Or.inr closes)
  | cons => exact endsValue_cons _ (Or.inl rfl)

theorem readMore_text (closes : close = ']' ∨ close = '\x7d') {items : List α} {fuel : ℕ}
    {rest : List Char}
    (reads : ∀ item ∈ items, ∀ rest, EndsValue rest →
      read (itemText item ++ rest) = some (item, rest)) (enough : items.length < fuel) :
    readMore read close fuel (moreText itemText close items ++ rest) = some (items, rest) := by
  have solid : isSpace close = false ∧ close ≠ ',' := by
    rcases closes with rfl | rfl <;> decide
  induction items generalizing fuel with
  | nil =>
    rcases Nat.exists_eq_add_of_lt enough with ⟨more, rfl⟩
    simp [readMore, moreText, skip, solid]
  | cons item items ih =>
    rcases Nat.exists_eq_add_of_lt enough with ⟨more, rfl⟩
    have first := reads item List.mem_cons_self _ (moreText_ends itemText closes items rest)
    have others := @ih (items.length + 1 + more)
      (fun other present => reads other (List.mem_cons_of_mem item present)) (by omega)
    have split : moreText itemText close (item :: items) ++ rest =
        ',' :: (itemText item ++ (moreText itemText close items ++ rest)) := by
      simp [moreText]
    have comma : skip (',' :: (itemText item ++ (moreText itemText close items ++ rest))) =
        ',' :: (itemText item ++ (moreText itemText close items ++ rest)) := by
      simp [skip, isSpace]
    simp only [split, List.length_cons, readMore, comma]
    simp [solid.2.symm, first, others]

/-- A text that does not start with a space or the closing character. -/
def Starts (close : Char) (text : List Char) : Prop :=
  ∃ c rest, text = c :: rest ∧ isSpace c = false ∧ c ≠ close

theorem readItems_cons (closes : close = ']' ∨ close = '\x7d') {item : α} {items : List α}
    {rest : List Char} (starts : Starts close (itemText item))
    (reads : ∀ other ∈ item :: items, ∀ rest, EndsValue rest →
      read (itemText other ++ rest) = some (other, rest)) :
    readItems read close (itemText item ++ (moreText itemText close items ++ rest)) =
      some (item :: items, rest) := by
  have first := reads item List.mem_cons_self _ (moreText_ends itemText closes items rest)
  have enough : items.length < (moreText itemText close items ++ rest).length + 1 := by
    have long := length_lt_moreText itemText close items
    rw [List.length_append]
    omega
  have others := @readMore_text _ read itemText close closes items _ rest
    (fun other present => reads other (List.mem_cons_of_mem item present)) enough
  rcases starts with ⟨c, tail, split, solid, differs⟩
  rw [split, List.cons_append] at first ⊢
  have stays : skip (c :: (tail ++ (moreText itemText close items ++ rest))) =
      c :: (tail ++ (moreText itemText close items ++ rest)) := by
    simp [skip, solid]
  simp only [readItems, stays, differs, if_false, first, Option.bind_eq_bind, Option.bind_some,
    others]
  rfl

end Lists

mutual

def depth : Json → ℕ
  | array elements => elementsDepth elements + 1
  | object members => membersDepth members + 1
  | _ => 0

def elementsDepth : List Json → ℕ
  | [] => 0
  | element :: elements => max element.depth (elementsDepth elements)

def membersDepth : List (String × Json) → ℕ
  | [] => 0
  | (_, member) :: members => max member.depth (membersDepth members)

end

mutual

def WellFormed : Json → Prop
  | array elements => ElementsWellFormed elements
  | object members => (members.map Prod.fst).Nodup ∧ MembersWellFormed members
  | _ => True

def ElementsWellFormed : List Json → Prop
  | [] => True
  | element :: elements => element.WellFormed ∧ ElementsWellFormed elements

def MembersWellFormed : List (String × Json) → Prop
  | [] => True
  | (_, member) :: members => member.WellFormed ∧ MembersWellFormed members

end

theorem elementsText_eq (elements : List Json) :
    elementsText elements = moreText text ']' elements := by
  induction elements with
  | nil => rfl
  | cons _ _ ih => simp [elementsText, moreText, ih]

def memberText (member : String × Json) : List Char :=
  stringText member.1 ++ ':' :: text member.2

theorem membersText_eq (members : List (String × Json)) :
    membersText members = moreText memberText '\x7d' members := by
  induction members with
  | nil => rfl
  | cons _ _ ih => simp [membersText, moreText, memberText, ih]

theorem of_mem_elements {element : Json} {elements : List Json} (present : element ∈ elements)
    (wellFormed : ElementsWellFormed elements) :
    element.WellFormed ∧ element.depth ≤ elementsDepth elements := by
  induction elements with
  | nil => cases present
  | cons _ _ ih =>
    rcases List.mem_cons.mp present with rfl | later
    · exact ⟨wellFormed.1, le_max_left _ _⟩
    · rcases ih later wellFormed.2 with ⟨formed, below⟩
      exact ⟨formed, below.trans (le_max_right _ _)⟩

variable {member : String × Json} {members : List (String × Json)} {fuel : ℕ} {value : Json}

theorem of_mem_members (present : member ∈ members) (wellFormed : MembersWellFormed members) :
    member.2.WellFormed ∧ member.2.depth ≤ membersDepth members := by
  induction members with
  | nil => cases present
  | cons _ _ ih =>
    rcases List.mem_cons.mp present with rfl | later
    · exact ⟨wellFormed.1, le_max_left _ _⟩
    · rcases ih later wellFormed.2 with ⟨formed, below⟩
      exact ⟨formed, below.trans (le_max_right _ _)⟩

theorem number_head (value : Decimal) :
    ∃ c rest, value.text = c :: rest ∧ (IsDigit c ∨ c = '-') := by
  rcases value.literal_value with ⟨⟨present, _⟩, _⟩
  rcases List.exists_cons_of_ne_nil present with ⟨digit, _, split⟩
  cases negative : value.negative with
  | true => exact ⟨'-', value.literal.text, by simp [Decimal.text, negative], Or.inr rfl⟩
  | false =>
    have isDigit : IsDigit digit.char := by simp [IsDigit]
    simp only [Decimal.text, negative, Bool.false_eq_true, if_false, Literal.text, split,
      List.map_cons, List.cons_append]
    exact ⟨_, _, rfl, Or.inl isDigit⟩

variable {c : Char} {rest : List Char}

theorem ne_of_starts {other : Char} (starts : IsDigit c ∨ c = '-')
    (differs : ¬(IsDigit other ∨ other = '-')) : c ≠ other := by
  rintro rfl
  exact differs starts

theorem isSpace_of_starts (starts : IsDigit c ∨ c = '-') : isSpace c = false := by
  have space := ne_of_starts starts (show ¬(IsDigit ' ' ∨ ' ' = '-') by decide)
  have tab := ne_of_starts starts (show ¬(IsDigit '\t' ∨ '\t' = '-') by decide)
  have line := ne_of_starts starts (show ¬(IsDigit '\n' ∨ '\n' = '-') by decide)
  have carriage := ne_of_starts starts (show ¬(IsDigit '\r' ∨ '\r' = '-') by decide)
  simp [isSpace, space, tab, line, carriage]

theorem text_starts (value : Json) : Starts ']' value.text := by
  cases value with
  | null => exact ⟨'n', _, rfl, by decide, by decide⟩
  | bool value =>
    cases value
    · exact ⟨'f', _, rfl, by decide, by decide⟩
    · exact ⟨'t', _, rfl, by decide, by decide⟩
  | number value =>
    rcases number_head value with ⟨c, rest, split, starts⟩
    exact ⟨c, rest, split, isSpace_of_starts starts, ne_of_starts starts (by decide)⟩
  | string => exact ⟨'"', _, rfl, by decide, by decide⟩
  | array elements =>
    cases elements with
    | nil => exact ⟨'[', _, rfl, by decide, by decide⟩
    | cons => exact ⟨'[', _, rfl, by decide, by decide⟩
  | object members =>
    cases members with
    | nil => exact ⟨'\x7b', _, rfl, by decide, by decide⟩
    | cons => exact ⟨'\x7b', _, rfl, by decide, by decide⟩

theorem readMember_text {read : Reader Json}
    (reads : read (member.2.text ++ rest) = some (member.2, rest)) :
    readMember read (memberText member ++ rest) = some (member, rest) := by
  have colon : skip (':' :: (member.2.text ++ rest)) = ':' :: (member.2.text ++ rest) := by
    simp [skip, isSpace]
  simp [readMember, memberText, readString_text, colon, reads]

theorem foldl_put {earlier : List (String × Json)}
    (distinct : ((earlier ++ members).map Prod.fst).Nodup) :
    members.foldl put earlier = earlier ++ members := by
  induction members generalizing earlier with
  | nil => simp
  | cons member _ ih =>
    have fresh : member.1 ∉ earlier.map Prod.fst := by
      rw [List.map_append, List.nodup_append] at distinct
      intro present
      exact distinct.2.2 _ present _ (by simp) rfl
    rw [List.foldl_cons, put, if_neg fresh, ih (by simpa using distinct)]
    simp

theorem readValue_digit (starts : IsDigit c ∨ c = '-') (fuel : ℕ) (rest : List Char) :
    readValue (fuel + 1) (c :: rest) =
      (readNumber (c :: rest)).map fun read => (number read.1, read.2) := by
  have stays : skip (c :: rest) = c :: rest := by
    simp [skip, isSpace_of_starts starts]
  rw [readValue, stays]
  split
  case h_7 => rfl
  all_goals
    rename_i same
    exact (ne_of_starts starts (by decide) (List.cons.inj same).1).elim

theorem readValue_number (value : Decimal) (ends : EndsValue rest) :
    readValue (fuel + 1) (value.text ++ rest) = some (number value, rest) := by
  have read := readNumber_text value ends.endsNumber
  rcases number_head value with ⟨_, _, split, starts⟩
  rw [split, List.cons_append] at read ⊢
  rw [readValue_digit starts, read]
  rfl

theorem readValue_quote (fuel : ℕ) (rest : List Char) :
    readValue (fuel + 1) ('"' :: rest) =
      (readChars rest).map fun read => (string (String.ofList read.1), read.2) := rfl

theorem readValue_bracket (fuel : ℕ) (rest : List Char) :
    readValue (fuel + 1) ('[' :: rest) =
      (readItems (readValue fuel) ']' rest).map fun read => (array read.1, read.2) := rfl

theorem readValue_brace (fuel : ℕ) (rest : List Char) :
    readValue (fuel + 1) ('\x7b' :: rest) =
      (readItems (readMember (readValue fuel)) '\x7d' rest).map fun read =>
        (object (read.1.foldl put []), read.2) := rfl

theorem readValue_text (formed : value.WellFormed)
    (enough : value.depth < fuel) (ends : EndsValue rest) :
    readValue fuel (value.text ++ rest) = some (value, rest) := by
  induction fuel generalizing value rest with
  | zero => omega
  | succ fuel ih =>
    cases value with
    | null => rfl
    | bool value => cases value <;> rfl
    | number value => exact readValue_number value ends
    | string =>
      simp [text, stringText, readValue_quote, readChars_text]
    | array elements =>
      cases elements with
      | nil => rfl
      | cons element elements =>
        have reads : ∀ other ∈ element :: elements, ∀ rest, EndsValue rest →
            readValue fuel (other.text ++ rest) = some (other, rest) := by
          intro other present rest ends
          rcases of_mem_elements present formed with ⟨otherFormed, below⟩
          rw [depth] at enough
          exact ih otherFormed (by omega) ends
        have items := @readItems_cons _ (readValue fuel) text ']' (Or.inl rfl) element
          elements rest element.text_starts reads
        simp only [text, elementsText_eq, List.cons_append, List.append_assoc]
        simp [readValue_bracket, items]
    | object members =>
      cases members with
      | nil => rfl
      | cons member members =>
        have reads : ∀ other ∈ member :: members, ∀ rest, EndsValue rest →
            readMember (readValue fuel) (memberText other ++ rest) = some (other, rest) := by
          intro _ present rest ends
          rcases of_mem_members present formed.2 with ⟨otherFormed, _⟩
          rw [depth] at enough
          exact readMember_text (ih otherFormed (by omega) ends)
        have starts : Starts '\x7d' (memberText member) :=
          ⟨'"', _, rfl, by decide, by decide⟩
        have items := @readItems_cons _ (readMember (readValue fuel)) memberText '\x7d'
          (Or.inr rfl) member members rest starts reads
        have whole : (object (member :: members)).text ++ rest =
            '\x7b' :: (memberText member ++
              (moreText memberText '\x7d' members ++ rest)) := by
          simp [text, memberText, membersText_eq]
        have made := @foldl_put (member :: members) [] formed.1
        rw [whole, readValue_brace, items, Option.map_some, made, List.nil_append]

mutual

theorem depth_le_length : (value : Json) → value.depth ≤ value.text.length
  | null => Nat.zero_le _
  | bool _ => Nat.zero_le _
  | number _ => Nat.zero_le _
  | string _ => Nat.zero_le _
  | array [] => by decide
  | array (element :: elements) => by
    have first := element.depth_le_length
    have others := elementsDepth_le_length elements
    simp only [depth, elementsDepth, text, List.length_cons, List.length_append]
    omega
  | object [] => by decide
  | object ((name, member) :: members) => by
    have first := member.depth_le_length
    have others := membersDepth_le_length members
    simp only [depth, membersDepth, text, List.length_cons, List.length_append]
    omega

theorem elementsDepth_le_length : (elements : List Json) →
    elementsDepth elements ≤ (elementsText elements).length
  | [] => by simp [elementsDepth]
  | element :: elements => by
    have first := element.depth_le_length
    have others := elementsDepth_le_length elements
    simp only [elementsDepth, elementsText, List.length_cons, List.length_append]
    omega

theorem membersDepth_le_length : (members : List (String × Json)) →
    membersDepth members ≤ (membersText members).length
  | [] => by simp [membersDepth]
  | (name, member) :: members => by
    have first := member.depth_le_length
    have others := membersDepth_le_length members
    simp only [membersDepth, membersText, List.length_cons, List.length_append]
    omega

end

/-- `JSON.parse` inverts `JSON.stringify`. -/
theorem parse_stringify (formed : value.WellFormed) :
    parse value.stringify = some value := by
  have ends : EndsValue [] := by
    rintro _ ⟨⟩
  have read := readValue_text formed (Nat.lt_succ_of_le value.depth_le_length) ends
  rw [List.append_nil] at read
  simp [parse, stringify, read, skip]

end Json

end CodeClash
