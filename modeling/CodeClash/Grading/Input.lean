import CodeClash.Judge.Judge0
import CodeClash.Text.Splitting
import CodeClash.Text.Trim

/-!
# Splitting the input of a test case

`splitTopLevel` of `server/src/services/judgeService.ts` cuts the input of a test case at the commas
outside quotes and brackets. Brackets of the three kinds are counted together, and the count may
become negative. A quote ends with the same character, unless a backslash stands before it. The loop
drops what follows the last cut if it is only whitespace.
-/

namespace CodeClash.Grading

open Judge (isSpace trim)
open Text (Scanner trimmed)

structure Loop where
  parts : List String
  depth : ℤ
  current : String
  inStr : Bool
  strChar : Option Char
  previous : Option Char
deriving DecidableEq, Repr

namespace Loop

def start : Loop where
  parts := []
  depth := 0
  current := ""
  inStr := false
  strChar := none
  previous := none

def read (loop : Loop) (c : Char) : Loop :=
  let added := { loop with current := loop.current.push c, previous := some c }
  if loop.inStr = false ∧ (c = '"' ∨ c = '\x27') then
    { added with inStr := true, strChar := some c }
  else if loop.inStr = true ∧ some c = loop.strChar ∧ loop.previous ≠ some '\\' then
    { added with inStr := false }
  else if loop.inStr = false ∧ (c = '[' ∨ c = '\x7b' ∨ c = '(') then
    { added with depth := loop.depth + 1 }
  else if loop.inStr = false ∧ (c = ']' ∨ c = '\x7d' ∨ c = ')') then
    { added with depth := loop.depth - 1 }
  else if loop.inStr = false ∧ loop.depth = 0 ∧ c = ',' then
    { loop with parts := loop.parts ++ [loop.current], current := "", previous := some c }
  else added

end Loop

def splitTopLevel (s : String) : List String :=
  let loop := s.toList.foldl Loop.read Loop.start
  if trim loop.current = "" then loop.parts else loop.parts ++ [loop.current]

/-- What the loop remembers of the characters that it has read. -/
structure Place where
  depth : ℤ
  quote : Option Char
  afterBackslash : Bool
deriving DecidableEq, Repr

def turn (c : Char) : ℤ :=
  if c = '[' ∨ c = '\x7b' ∨ c = '(' then 1
  else if c = ']' ∨ c = '\x7d' ∨ c = ')' then -1
  else 0

namespace Place

def start : Place := ⟨0, none, false⟩

def Top (place : Place) : Prop := place.quote = none ∧ place.depth = 0

instance (place : Place) : Decidable place.Top := inferInstanceAs (Decidable (_ ∧ _))

def read (place : Place) (c : Char) : Place where
  depth := if place.quote = none then place.depth + turn c else place.depth
  quote :=
    match place.quote with
    | none => if c = '"' ∨ c = '\x27' then some c else none
    | some quote => if c = quote ∧ place.afterBackslash = false then none else some quote
  afterBackslash := c = '\\'

end Place

def topLevel : Scanner Place Char where
  step := Place.read
  cuts place c := place.Top ∧ c = ','

theorem topLevel_cutsAt : topLevel.CutsAt Place.start ',' where
  at_separator cut := (of_decide_eq_true cut).2
  restarts := by
    intro _ _ cut
    rcases of_decide_eq_true cut with ⟨⟨noQuote, atZero⟩, rfl⟩
    simp only [topLevel, Place.read, noQuote, atZero]
    rfl

namespace Loop

def place (loop : Loop) : Place where
  depth := loop.depth
  quote := if loop.inStr then loop.strChar else none
  afterBackslash := loop.previous = some '\\'

def Opened (loop : Loop) : Prop := loop.inStr = true → loop.strChar ≠ none

def allParts (loop : Loop) : List String := loop.parts ++ [loop.current]

variable {loop : Loop} {c : Char}

theorem read_opened (opened : loop.Opened) (c : Char) : (loop.read c).Opened := by
  rw [read]
  split_ifs
  · simp [Opened]
  · simp [Opened]
  all_goals exact opened

theorem turn_quote (quote : c = '"' ∨ c = '\x27') : turn c = 0 := by
  rcases quote with rfl | rfl <;> decide

theorem read_place (opened : loop.Opened) (c : Char) :
    (loop.read c).place = topLevel.step loop.place c := by
  cases inside : loop.inStr with
  | false =>
    by_cases quote : c = '"' ∨ c = '\x27'
    · simp [read, topLevel, Place.read, place, inside, quote, turn_quote quote]
    · by_cases opening : c = '[' ∨ c = '\x7b' ∨ c = '('
      · simp [read, topLevel, Place.read, place, inside, quote, opening, turn]
      · by_cases closing : c = ']' ∨ c = '\x7d' ∨ c = ')'
        · simp [read, topLevel, Place.read, place, inside, quote, opening, closing, turn,
            Int.sub_eq_add_neg]
        · by_cases comma : loop.depth = 0 ∧ c = ','
          · simp [read, topLevel, Place.read, place, inside, turn, comma]
          · simp [read, topLevel, Place.read, place, inside, quote, opening, closing, turn, comma]
  | true =>
    rcases Option.ne_none_iff_exists'.mp (opened inside) with ⟨quote, isQuote⟩
    by_cases ends : c = quote ∧ loop.previous ≠ some '\\'
    · simp [read, topLevel, Place.read, place, inside, isQuote, ends]
    · simp [read, topLevel, Place.read, place, inside, isQuote, ends]

theorem read_of_cut (opened : loop.Opened) (cut : topLevel.cuts loop.place c = true) :
    (loop.read c).parts = loop.allParts ∧ (loop.read c).current = "" := by
  rcases of_decide_eq_true cut with ⟨⟨noQuote, atZero⟩, rfl⟩
  cases inside : loop.inStr with
  | false =>
    change loop.depth = 0 at atZero
    simp [read, inside, atZero, allParts]
  | true => exact (opened inside (by simpa [place, inside] using noQuote)).elim

theorem read_of_uncut (uncut : topLevel.cuts loop.place c = false) :
    (loop.read c).parts = loop.parts ∧ (loop.read c).current = loop.current.push c := by
  have noCut : ¬(loop.inStr = false ∧ loop.depth = 0 ∧ c = ',') := by
    rintro ⟨outside, atZero, rfl⟩
    simp [topLevel, Place.Top, place, outside, atZero] at uncut
  rw [read, if_neg noCut]
  split_ifs <;> exact ⟨rfl, rfl⟩

theorem allParts_foldl (opened : loop.Opened) (text : List Char) :
    (text.foldl read loop).allParts = loop.parts ++
      ((topLevel.pieces loop.place text).modifyHead (loop.current.toList ++ ·)).map
        String.ofList := by
  induction text generalizing loop with
  | nil => simp [allParts, Scanner.pieces]
  | cons c _ ih =>
    rw [List.foldl_cons, ih (read_opened opened c), read_place opened, Scanner.pieces]
    cases cut : topLevel.cuts loop.place c with
    | true =>
      rcases read_of_cut opened cut with ⟨parts, current⟩
      have unchanged : (fun piece : List Char => "".toList ++ piece) = id := rfl
      rw [parts, current, if_pos rfl, unchanged, List.modifyHead_id]
      simp [allParts]
    | false =>
      rcases read_of_uncut cut with ⟨parts, current⟩
      rw [parts, current, String.toList_push, if_neg Bool.false_ne_true,
        List.modifyHead_modifyHead]
      simp [Function.comp_def]

end Loop

theorem splitTopLevel_pieces (s : String) :
    ∃ parts current, (topLevel.pieces Place.start s.toList).map String.ofList = parts ++ [current] ∧
      splitTopLevel s = if trim current = "" then parts else parts ++ [current] := by
  have opened : Loop.start.Opened := fun inside => Bool.noConfusion inside
  have all := Loop.allParts_foldl opened s.toList
  have unchanged : (fun piece : List Char => Loop.start.current.toList ++ piece) = id := rfl
  rw [unchanged, List.modifyHead_id] at all
  exact ⟨_, _, all.symm, rfl⟩

def Blank (s : String) : Prop := ∀ c ∈ s.toList, isSpace c = true

instance (s : String) : Decidable (Blank s) := inferInstanceAs (Decidable (∀ c ∈ _, _))

theorem trim_eq_empty_iff (s : String) : trim s = "" ↔ Blank s := by
  have same : trim s = String.ofList (trimmed isSpace s.toList) := rfl
  rw [same, String.ofList_eq_empty_iff, Text.trimmed_eq_nil_iff, Blank]

theorem splitTopLevel_of_uncut {s : String} (uncut : topLevel.Uncut Place.start s.toList)
    (present : ¬Blank s) : splitTopLevel s = [s] := by
  rcases splitTopLevel_pieces s with ⟨_, _, split, result⟩
  rw [Scanner.pieces_of_uncut uncut, List.map_singleton, String.ofList_toList] at split
  rcases List.append_eq_singleton_iff.mp split.symm with ⟨rfl, same⟩ | ⟨_, impossible⟩
  · cases same
    rw [result, if_neg (mt (trim_eq_empty_iff s).mp present), List.nil_append]
  · cases impossible

theorem intercalate_pieces (s : String) :
    ",".intercalate ((topLevel.pieces Place.start s.toList).map String.ofList) = s := by
  have same : String.toList ∘ String.ofList = id := by
    funext text
    exact String.toList_ofList
  have joined := topLevel_cutsAt.intercalate_pieces Place.start s.toList
  rw [← String.toList_inj, String.toList_intercalate, List.map_map, same, List.map_id]
  exact joined

/-- The parts joined with commas are the input, apart from a blank end, and no part is split
further. -/
theorem splitTopLevel_lossless (s : String) :
    (",".intercalate (splitTopLevel s) = s ∨
      (∃ blanks, Blank blanks ∧ s = ",".intercalate (splitTopLevel s) ++ "," ++ blanks) ∨
      splitTopLevel s = [] ∧ Blank s) ∧
    ∀ part ∈ splitTopLevel s, ¬Blank part → splitTopLevel part = [part] := by
  have joined := intercalate_pieces s
  rcases splitTopLevel_pieces s with ⟨parts, current, split, result⟩
  refine ⟨?_, ?_⟩
  · rw [split] at joined
    by_cases dropped : trim current = ""
    · rw [result, if_pos dropped]
      rw [trim_eq_empty_iff] at dropped
      by_cases none : parts = []
      · rw [none, List.nil_append, String.intercalate_singleton] at joined
        exact Or.inr (Or.inr ⟨none, joined ▸ dropped⟩)
      · rw [String.intercalate_append_of_ne_nil none (List.cons_ne_nil _ _),
          String.intercalate_singleton] at joined
        exact Or.inr (Or.inl ⟨current, dropped, joined.symm⟩)
    · rw [result, if_neg dropped]
      exact Or.inl joined
  · intro part present solid
    have isPiece : part ∈ parts ++ [current] := by
      rw [result] at present
      split_ifs at present
      · exact List.mem_append_left _ present
      · exact present
    rw [← split] at isPiece
    rcases List.mem_map.mp isPiece with ⟨_, presentPiece, rfl⟩
    refine splitTopLevel_of_uncut ?_ solid
    rw [String.toList_ofList]
    exact topLevel_cutsAt.uncut_of_mem_pieces presentPiece

end CodeClash.Grading
