import CodeClash.Grading.Input
import CodeClash.Json.Extension

/-!
# Reading the arguments back

The inputs of the stored test cases are the JSON texts of the arguments, joined with a comma and a
space. `parseInput` takes an input that starts with a quote for one string, and overlooks a closing
quote after a backslash.

In one direction each piece is the text of a value. In the other the first piece is compared with
the text of the first value: a shorter piece is not read as the value, and a longer one is returned
as it is, but no string is as long as its text.
-/

namespace CodeClash.Grading

open Judge (isSpace trim)
open Text (Scanner trimmed Tight)

def Unbroken (value : Json) : Prop := topLevel.Uncut Place.start value.text

def Closed (value : Json) : Prop := (topLevel.after Place.start value.text).Top

instance : DecidablePred Unbroken := fun value =>
  inferInstanceAs (Decidable (topLevel.Uncut _ value.text))

instance : DecidablePred Closed := fun value =>
  inferInstanceAs (Decidable (topLevel.after _ value.text).Top)

def parsePart (part : String) : Json :=
  let t := trim part
  match Json.parse t with
  | some value => value
  | none => .string t

def parseInput (input : String) : List Json :=
  let trimmed := trim input
  if trimmed.toList.head? = some '"' ∨ trimmed.toList.head? = some '\x27' then
    match Json.parse trimmed with
    | some value => [value]
    | none => [.string (String.ofList trimmed.toList.tail.dropLast)]
  else (splitTopLevel trimmed).map parsePart

def inputOf (values : List Json) : String := ", ".intercalate (values.map Json.stringify)

/-- A character with which the text of a value can begin or end. -/
def IsEdge (c : Char) : Prop := isSpace c = false ∧ c ≠ ','

instance : DecidablePred IsEdge := fun _ => inferInstanceAs (Decidable (_ ∧ _))

variable {c : Char} {value first : Json} {piece rest : List Char}

theorem isEdge_of_numberChar (isChar : Json.IsNumberChar c) : IsEdge c := by
  rcases isChar with digit | rfl | rfl | rfl | rfl
  · by_cases small : 48 ≤ c.toNat ∧ c.toNat < 58
    · refine ⟨?_, ?_⟩
      · simp [isSpace]
        omega
      · rintro rfl
        revert small
        decide
    · simp [Json.IsDigit, Json.readDigit, small] at digit
  all_goals decide

theorem number_edges (number : Json.Decimal) :
    (∃ c rest, number.text = c :: rest ∧ IsEdge c) ∧
      ∃ rest c, number.text = rest ++ [c] ∧ IsEdge c := by
  have edges := fun c present => isEdge_of_numberChar (Json.text_numberChars number c present)
  rcases Json.number_head number with ⟨first, rest, split, _⟩
  have present : number.text ≠ [] := by simp [split]
  refine ⟨⟨first, rest, split, edges first (by simp [split])⟩, number.text.dropLast,
    number.text.getLast present, (List.dropLast_append_getLast present).symm,
    edges _ (List.getLast_mem present)⟩

theorem text_first (value : Json) : ∃ c rest, value.text = c :: rest ∧ IsEdge c := by
  cases value with
  | null => exact ⟨'n', _, rfl, by decide⟩
  | bool value =>
    cases value
    · exact ⟨'f', _, rfl, by decide⟩
    · exact ⟨'t', _, rfl, by decide⟩
  | number value => exact (number_edges value).1
  | string => exact ⟨'"', _, rfl, by decide⟩
  | array elements => cases elements <;> exact ⟨'[', _, rfl, by decide⟩
  | object members => cases members <;> exact ⟨'\x7b', _, rfl, by decide⟩

theorem text_last (value : Json) : ∃ rest c, value.text = rest ++ [c] ∧ IsEdge c := by
  cases value with
  | null => exact ⟨"nul".toList, 'l', rfl, by decide⟩
  | bool value =>
    cases value
    · exact ⟨"fals".toList, 'e', rfl, by decide⟩
    · exact ⟨"tru".toList, 'e', rfl, by decide⟩
  | number value => exact (number_edges value).2
  | string value => exact ⟨'"' :: value.toList.flatMap Json.escape, '"', rfl, by decide⟩
  | array elements =>
    cases elements with
    | nil => exact ⟨['['], ']', rfl, by decide⟩
    | cons element elements =>
      refine ⟨'[' :: (element.text ++ elements.flatMap fun item => ',' :: item.text), ']', ?_,
        by decide⟩
      simp [Json.text, Json.elementsText_eq, Json.moreText]
  | object members =>
    cases members with
    | nil => exact ⟨['\x7b'], '\x7d', rfl, by decide⟩
    | cons member members =>
      refine ⟨'\x7b' :: (Json.memberText member ++
        members.flatMap fun item => ',' :: Json.memberText item), '\x7d', ?_, by decide⟩
      simp [Json.text, Json.memberText, Json.membersText_eq, Json.moreText]

theorem text_tight (value : Json) : Tight isSpace value.text := by
  rcases text_first value with ⟨_, _, startsWith, firstEdge⟩
  rcases text_last value with ⟨_, _, endsWith, lastEdge⟩
  refine ⟨?_, ?_⟩
  · rw [startsWith]
    rintro _ ⟨⟩
    exact firstEdge.1
  · rw [endsWith, List.getLast?_concat]
    rintro _ ⟨⟩
    exact lastEdge.1

theorem trim_ofList (text : List Char) :
    trim (String.ofList text) = String.ofList (trimmed isSpace text) := by
  rw [trim, String.toList_ofList]
  rfl

def parsePiece (piece : List Char) : Json := parsePart (String.ofList piece)

theorem parsePiece_space (piece : List Char) : parsePiece (' ' :: piece) = parsePiece piece := by
  rw [parsePiece, parsePiece, parsePart, parsePart, trim_ofList, trim_ofList,
    Text.trimmed_cons (by decide)]

theorem parsePiece_text (formed : value.WellFormed) :
    parsePiece value.text = value := by
  have parsed := Json.parse_stringify formed
  rw [Json.stringify] at parsed
  rw [parsePiece, parsePart, trim_ofList, Text.trimmed_of_tight (text_tight value)]
  simp only [parsed]

theorem endsNumber_of_not_edge (separates : ¬IsEdge c) (rest : List Char) :
    Json.EndsNumber (c :: rest) := by
  rintro _ ⟨⟩ (digit | rfl | rfl | rfl)
  · exact separates (isEdge_of_numberChar (Or.inl digit))
  all_goals exact separates (by decide)

theorem exists_separator {blanks : List Char} (allBlank : ∀ c ∈ blanks, isSpace c = true)
    (rest : List Char) : ∃ c others, blanks ++ ',' :: rest = c :: others ∧ ¬IsEdge c := by
  cases blanks with
  | nil => exact ⟨',', rest, rfl, by decide⟩
  | cons c blanks =>
    refine ⟨c, blanks ++ ',' :: rest, rfl, ?_⟩
    rintro ⟨solid, _⟩
    rw [allBlank c List.mem_cons_self] at solid
    cases solid

theorem parsePiece_ne_of_shorter
    (formed : value.WellFormed) (longer : value.text = piece ++ ',' :: rest) :
    parsePiece piece ≠ value := by
  have head : ∀ c ∈ piece.head?, isSpace c = false := by
    intro c first
    refine (text_tight value).1 c ?_
    rw [longer, List.head?_append, first]
    rfl
  rcases Text.exists_trimmed_append head with ⟨_, split, allBlank⟩
  rcases exists_separator allBlank rest with ⟨c, others, separator, noEdge⟩
  have whole : value.text = trimmed isSpace piece ++ c :: others := by
    rw [longer, ← separator, ← List.append_assoc, ← split]
  intro same
  rw [parsePiece, parsePart, trim_ofList] at same
  split at same
  · rename_i parsed
    rw [same] at parsed
    exact Json.parse_ne_of_cut formed whole (endsNumber_of_not_edge noEdge others)
      (List.cons_ne_nil _ _) parsed
  · rw [← same] at whole
    have mark : Json.IsMark c := by
      apply @Json.isMark_of_stringText (String.ofList (trimmed isSpace piece)) others
      rw [String.toList_ofList]
      exact whole
    rcases mark with rfl | rfl <;> exact noEdge (by decide)

theorem parsePiece_ne_of_longer (formed : value.WellFormed) (rest : List Char) :
    parsePiece (value.text ++ ',' :: rest) ≠ value := by
  rcases @Text.trimmed_append_cons _ isSpace _ ',' (text_tight value).1 (by decide) rest with
    ⟨others, kept⟩
  have none := @Json.parse_eq_none_of_more value (',' :: others) formed
    (Json.endsValue_cons others (Or.inl rfl)) (by simp [Json.skip, Json.isSpace])
  intro same
  rw [parsePiece, parsePart, trim_ofList, kept] at same
  simp only [none] at same
  have long := Json.length_stringText (String.ofList (value.text ++ ',' :: others))
  have text : value.text = Json.stringText (String.ofList (value.text ++ ',' :: others)) := by
    conv_lhs => rw [← same]
    rfl
  rw [← text, String.toList_ofList, List.length_append] at long
  omega

def parsed (text : List Char) : List Json :=
  (topLevel.pieces Place.start text).map parsePiece

theorem parsed_space (text : List Char) : parsed (' ' :: text) = parsed text := by
  have pieces : topLevel.pieces Place.start (' ' :: text) =
      (topLevel.pieces Place.start text).modifyHead (' ' :: ·) := rfl
  rcases List.exists_cons_of_ne_nil (@Scanner.pieces_ne_nil _ _ topLevel Place.start text) with
    ⟨piece, others, split⟩
  rw [parsed, parsed, pieces, split, List.modifyHead_cons, List.map_cons, List.map_cons,
    parsePiece_space]

theorem parsed_of_uncut {text : List Char} (uncut : topLevel.Uncut Place.start text) :
    parsed text = [parsePiece text] := by
  rw [parsed, Scanner.pieces_of_uncut uncut, List.map_singleton]

theorem parsed_of_cut (uncut : topLevel.Uncut Place.start piece)
    (top : (topLevel.after Place.start piece).Top) (rest : List Char) :
    parsed (piece ++ ',' :: rest) = parsePiece piece :: parsed rest := by
  have cut : topLevel.cuts (topLevel.after Place.start piece) ',' = true :=
    decide_eq_true ⟨top, rfl⟩
  rw [parsed, Scanner.pieces_of_cut uncut cut, topLevel_cutsAt.restarts cut, List.map_cons, parsed]

theorem parsed_cases (text : List Char) :
    topLevel.Uncut Place.start text ∨ ∃ piece rest, text = piece ++ ',' :: rest ∧
      topLevel.Uncut Place.start piece ∧ (topLevel.after Place.start piece).Top := by
  rcases Scanner.uncut_or_cut topLevel Place.start text with
    uncut | ⟨piece, letter, rest, split, uncut, cut⟩
  · exact Or.inl uncut
  · rcases of_decide_eq_true cut with ⟨top, rfl⟩
    exact Or.inr ⟨piece, rest, split, uncut, top⟩

theorem parsed_ne_nil (text : List Char) : parsed text ≠ [] := by
  simp [parsed, Scanner.pieces_ne_nil]

def moreInput (values : List Json) : List Char :=
  values.flatMap fun value => ',' :: ' ' :: value.text

theorem eq_of_parsePiece {others : List Char}
    (formed : value.WellFormed) (same : value.text ++ ',' :: others = piece ++ ',' :: rest)
    (read : parsePiece piece = value) : piece = value.text ∧ rest = others := by
  rcases List.append_eq_append_iff.mp same with ⟨more, longer, behind⟩ | ⟨more, shorter, behind⟩
  · cases more with
    | nil =>
      cases behind
      exact ⟨by rw [longer, List.append_nil], rfl⟩
    | cons _ more =>
      cases behind
      rw [longer] at read
      exact (parsePiece_ne_of_longer formed more read).elim
  · cases more with
    | nil =>
      cases behind
      exact ⟨by rw [shorter, List.append_nil], rfl⟩
    | cons =>
      cases behind
      exact (parsePiece_ne_of_shorter formed shorter read).elim

theorem parsed_eq_iff {values : List Json} (formed : first.WellFormed)
    (othersFormed : ∀ value ∈ values, value.WellFormed) :
    parsed (first.text ++ moreInput values) = first :: values ↔
      (∀ value ∈ first :: values, Unbroken value) ∧
        ∀ value ∈ (first :: values).dropLast, Closed value := by
  induction values generalizing first with
  | nil =>
    simp only [moreInput, List.flatMap_nil, List.append_nil, List.mem_singleton, forall_eq,
      List.dropLast_singleton, List.not_mem_nil, false_implies, implies_true, and_true]
    constructor
    · intro read
      rcases parsed_cases first.text with uncut | ⟨piece, rest, split, uncut, top⟩
      · exact uncut
      · rw [split, parsed_of_cut uncut top] at read
        exact (parsed_ne_nil rest (List.cons.inj read).2).elim
    · intro unbroken
      rw [parsed_of_uncut unbroken, parsePiece_text formed]
  | cons second values ih =>
    have rest := @ih second (othersFormed second List.mem_cons_self)
      (fun value present => othersFormed value (List.mem_cons_of_mem second present))
    have text : moreInput (second :: values) =
        ',' :: ' ' :: (second.text ++ moreInput values) := rfl
    rw [text]
    simp only [List.forall_mem_cons, List.dropLast_cons_cons] at rest ⊢
    constructor
    · intro read
      rcases parsed_cases (first.text ++ ',' :: ' ' :: (second.text ++ moreInput values)) with
        uncut | ⟨piece, behind, split, uncut, top⟩
      · rw [parsed_of_uncut uncut] at read
        exact (List.cons_ne_nil second values (List.cons.inj read).2.symm).elim
      · rw [split, parsed_of_cut uncut top] at read
        rcases List.cons.inj read with ⟨readFirst, readOthers⟩
        rcases eq_of_parsePiece formed split readFirst with ⟨rfl, rfl⟩
        rw [parsed_space] at readOthers
        rcases rest.mp readOthers with ⟨othersUnbroken, othersClosed⟩
        exact ⟨⟨uncut, othersUnbroken⟩, top, othersClosed⟩
    · rintro ⟨⟨unbroken, othersUnbroken⟩, closed, othersClosed⟩
      rw [parsed_of_cut unbroken closed, parsePiece_text formed, parsed_space,
        rest.mpr ⟨othersUnbroken, othersClosed⟩]

theorem inputOf_toList (first : Json) (values : List Json) :
    (inputOf (first :: values)).toList = first.text ++ moreInput values := by
  rw [inputOf, String.toList_intercalate, List.map_map]
  induction values generalizing first with
  | nil => simp [Json.stringify, moreInput]
  | cons second _ ih =>
    have rest := ih second
    rw [List.map_cons, List.map_cons, List.intercalate_cons_cons]
    rw [List.map_cons] at rest
    rw [rest]
    simp [moreInput, Json.stringify]

theorem inputOf_last (first : Json) (values : List Json) :
    ∃ rest c, first.text ++ moreInput values = rest ++ [c] ∧ IsEdge c := by
  cases values using List.reverseRecOn with
  | nil => simpa [moreInput] using text_last first
  | append_singleton values last =>
    rcases text_last last with ⟨rest, c, split, edge⟩
    refine ⟨first.text ++ moreInput values ++ ',' :: ' ' :: rest, c, ?_, edge⟩
    simp [moreInput, split]

theorem trim_inputOf (first : Json) (values : List Json) :
    trim (inputOf (first :: values)) = inputOf (first :: values) := by
  have tight : Tight isSpace (inputOf (first :: values)).toList := by
    rw [inputOf_toList]
    refine ⟨?_, ?_⟩
    · rcases text_first first with ⟨c, rest, split, edge⟩
      rw [split]
      rintro _ ⟨⟩
      exact edge.1
    · rcases inputOf_last first values with ⟨_, _, split, edge⟩
      rw [split, List.getLast?_concat]
      rintro _ ⟨⟩
      exact edge.1
  have same : trim (inputOf (first :: values)) =
    String.ofList (trimmed isSpace (inputOf (first :: values)).toList) := rfl
  rw [same, Text.trimmed_of_tight tight, String.ofList_toList]

theorem splitTopLevel_of_edge {s : String} (ends : s.toList = rest ++ [c]) (edge : IsEdge c) :
    splitTopLevel s = (topLevel.pieces Place.start s.toList).map String.ofList := by
  have joined := intercalate_pieces s
  rcases splitTopLevel_pieces s with ⟨parts, current, split, result⟩
  rw [split] at joined
  have kept : trim current ≠ "" := by
    rw [ne_eq, trim_eq_empty_iff]
    intro blank
    by_cases none : parts = []
    · rw [none, List.nil_append, String.intercalate_singleton] at joined
      have isBlank := blank c (by rw [joined, ends]; simp)
      rw [edge.1] at isBlank
      cases isBlank
    · rw [String.intercalate_append_of_ne_nil none (List.cons_ne_nil _ _),
        String.intercalate_singleton] at joined
      rw [← joined, String.toList_append, String.toList_append] at ends
      rcases List.eq_nil_or_concat current.toList with empty | ⟨_, last, whole⟩
      · rw [empty, List.append_nil] at ends
        exact edge.2 (List.cons.inj (List.append_inj' ends rfl).2).1.symm
      · rw [whole, List.concat_eq_append, ← List.append_assoc] at ends
        have isBlank := blank last (by rw [whole]; simp)
        rw [(List.cons.inj (List.append_inj' ends rfl).2).1, edge.1] at isBlank
        cases isBlank
  rw [result, if_neg kept, split]

theorem string_of_quote (quote : value.text.head? = some '"' ∨ value.text.head? = some '\x27') :
    ∃ text, value = .string text := by
  cases value with
  | null => simp [Json.text] at quote
  | bool value => cases value <;> simp [Json.text] at quote
  | number value =>
    rcases Json.number_head value with ⟨_, _, split, starts⟩
    simp only [Json.text, split, List.head?_cons, Option.some.injEq] at quote
    rcases quote with rfl | rfl
    · exact (Json.ne_of_starts starts (by decide) rfl).elim
    · exact (Json.ne_of_starts starts (by decide) rfl).elim
  | string value => exact ⟨value, rfl⟩
  | array elements => cases elements <;> simp [Json.text] at quote
  | object members => cases members <;> simp [Json.text] at quote

theorem head_inputOf (first : Json) (values : List Json) :
    (inputOf (first :: values)).toList.head? = first.text.head? := by
  rcases text_first first with ⟨_, _, split, _⟩
  rw [inputOf_toList, split]
  rfl

theorem parseInput_of_string (text : String) (values : List Json) :
    ∃ value, parseInput (inputOf (.string text :: values)) = [value] := by
  have quote : (inputOf (.string text :: values)).toList.head? = some '"' := head_inputOf _ _
  rw [parseInput, trim_inputOf, if_pos (Or.inl quote)]
  split
  · exact ⟨_, rfl⟩
  · exact ⟨_, rfl⟩

theorem parseInput_string (text : String) :
    parseInput (inputOf [.string text]) = [.string text] := by
  have quote : (inputOf [.string text]).toList.head? = some '"' := head_inputOf _ _
  have same : inputOf [.string text] = (Json.string text).stringify := String.intercalate_singleton
  have read : Json.parse (Json.string text).stringify = some (.string text) :=
    Json.parse_stringify trivial
  rw [parseInput, trim_inputOf, if_pos (Or.inl quote), same, read]

theorem parseInput_of_not_string (noString : ¬∃ text, first = .string text) (values : List Json) :
    parseInput (inputOf (first :: values)) = parsed (first.text ++ moreInput values) := by
  rcases inputOf_last first values with ⟨_, _, ends, edge⟩
  rw [← inputOf_toList] at ends
  have noQuote : ¬((inputOf (first :: values)).toList.head? = some '"' ∨
      (inputOf (first :: values)).toList.head? = some '\x27') := by
    rw [head_inputOf]
    exact mt string_of_quote noString
  rw [parseInput, trim_inputOf, if_neg noQuote, splitTopLevel_of_edge ends edge, List.map_map,
    inputOf_toList, parsed]
  refine List.map_congr_left ?_
  intro _ _
  rw [Function.comp_apply, parsePiece]

/-- The arguments are read back exactly if they are one string, or if the first is not a string
and the commas at the top level are those between the arguments. -/
theorem parseInput_inputOf_iff {values : List Json} (present : values ≠ [])
    (formed : ∀ value ∈ values, value.WellFormed) :
    parseInput (inputOf values) = values ↔
      (∃ text, values = [.string text]) ∨
      (¬∃ text, values.head? = some (.string text)) ∧ (∀ value ∈ values, Unbroken value) ∧
        ∀ value ∈ values.dropLast, Closed value := by
  rcases List.exists_cons_of_ne_nil present with ⟨first, others, rfl⟩
  simp only [List.head?_cons, Option.some.injEq]
  by_cases isString : ∃ text, first = .string text
  · simp only [isString, not_true, false_and, or_false]
    rcases isString with ⟨text, rfl⟩
    cases others with
    | nil => simp [parseInput_string]
    | cons second others =>
      rcases parseInput_of_string text (second :: others) with ⟨_, read⟩
      simp [read]
  · rw [parseInput_of_not_string isString]
    rw [List.forall_mem_cons] at formed
    rw [parsed_eq_iff formed.1 formed.2]
    have notOne : ¬∃ text, first :: others = [.string text] := by
      rintro ⟨text, same⟩
      exact isString ⟨text, (List.cons.inj same).1⟩
    simp only [notOne, isString, not_false_eq_true, true_and, false_or]

theorem arguments_read_back :
    parseInput (inputOf [.array [.null, .bool true], .string "a,b"]) =
      [.array [.null, .bool true], .string "a,b"] := by
  refine (parseInput_inputOf_iff (by simp) ?_).mpr (Or.inr ⟨by simp, by decide, by decide⟩)
  simp [Json.WellFormed, Json.ElementsWellFormed]

/-- The first test case of "Valid Anagram", and a string that ends with a backslash. -/
theorem arguments_merged :
    parseInput (inputOf [.string "anagram", .string "nagaram"]) =
        [.string "anagram\", \"nagaram"] ∧
      parseInput (inputOf [.array [.string "\\"], .null]) = [.string "[\"\\\\\"], null"] := by
  exact ⟨rfl, rfl⟩

end CodeClash.Grading
