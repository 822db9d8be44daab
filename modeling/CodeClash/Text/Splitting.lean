import Mathlib.Data.List.Basic

/-!
# Cutting a text while scanning it

A scanner reads a text one character at a time, in a state that says which characters cut the text.
If every cut is made at the same separator and brings the scanner back to the state in which it
started, then the pieces joined with the separator are the text, and no piece is cut when it is
scanned alone.
-/

namespace CodeClash.Text

structure Scanner (State Letter : Type) where
  step : State → Letter → State
  cuts : State → Letter → Bool

namespace Scanner

variable {State Letter : Type} (scanner : Scanner State Letter)

def after (state : State) (text : List Letter) : State := text.foldl scanner.step state

def pieces : State → List Letter → List (List Letter)
  | _, [] => [[]]
  | state, letter :: rest =>
    if scanner.cuts state letter then [] :: pieces (scanner.step state letter) rest
    else (pieces (scanner.step state letter) rest).modifyHead (letter :: ·)

def Uncut : State → List Letter → Prop
  | _, [] => True
  | state, letter :: rest =>
    scanner.cuts state letter = false ∧ Uncut (scanner.step state letter) rest

instance decidableUncut : (state : State) → (text : List Letter) →
    Decidable (scanner.Uncut state text)
  | _, [] => isTrue trivial
  | state, letter :: rest =>
    have := decidableUncut (scanner.step state letter) rest
    inferInstanceAs (Decidable (_ ∧ _))

variable {scanner} {state start : State} {text rest : List Letter} {letter separator : Letter}

theorem pieces_append (uncut : scanner.Uncut state text) (rest : List Letter) :
    scanner.pieces state (text ++ rest) =
      (scanner.pieces (scanner.after state text) rest).modifyHead (text ++ ·) := by
  induction text generalizing state with
  | nil => exact List.modifyHead_id.symm ▸ rfl
  | cons _ _ ih =>
    rw [List.cons_append, pieces, uncut.1, ih uncut.2, List.modifyHead_modifyHead]
    rfl

theorem pieces_of_uncut (uncut : scanner.Uncut state text) :
    scanner.pieces state text = [text] := by
  have whole := pieces_append uncut []
  rwa [List.append_nil, pieces, List.modifyHead_cons, List.append_nil] at whole

theorem pieces_of_cut (uncut : scanner.Uncut state text)
    (cut : scanner.cuts (scanner.after state text) letter = true) (rest : List Letter) :
    scanner.pieces state (text ++ letter :: rest) =
      text :: scanner.pieces (scanner.step (scanner.after state text) letter) rest := by
  rw [pieces_append uncut, pieces, if_pos cut, List.modifyHead_cons, List.append_nil]

theorem uncut_or_cut (scanner : Scanner State Letter) (state : State) (text : List Letter) :
    scanner.Uncut state text ∨ ∃ piece letter rest, text = piece ++ letter :: rest ∧
      scanner.Uncut state piece ∧ scanner.cuts (scanner.after state piece) letter = true := by
  induction text generalizing state with
  | nil => exact Or.inl trivial
  | cons letter text ih =>
    cases cut : scanner.cuts state letter with
    | true => exact Or.inr ⟨[], letter, text, rfl, trivial, cut⟩
    | false =>
      rcases ih (scanner.step state letter) with uncut | ⟨piece, next, rest, split, uncut, cuts⟩
      · exact Or.inl ⟨cut, uncut⟩
      · exact Or.inr ⟨letter :: piece, next, rest, by rw [split]; rfl, ⟨cut, uncut⟩, cuts⟩

theorem pieces_ne_nil (state : State) (text : List Letter) : scanner.pieces state text ≠ [] := by
  rcases uncut_or_cut scanner state text with uncut | ⟨_, _, _, rfl, uncut, cut⟩
  · simp [pieces_of_uncut uncut]
  · simp [pieces_of_cut uncut cut]

/-- Every cut is made at the separator and brings the scanner back to the start. -/
structure CutsAt (scanner : Scanner State Letter) (start : State) (separator : Letter) :
    Prop where
  at_separator : ∀ {state letter}, scanner.cuts state letter = true → letter = separator
  restarts : ∀ {state letter}, scanner.cuts state letter = true →
    scanner.step state letter = start

namespace CutsAt

theorem intercalate_pieces (cuts : scanner.CutsAt start separator) (state : State)
    (text : List Letter) : [separator].intercalate (scanner.pieces state text) = text := by
  induction text generalizing state with
  | nil => rfl
  | cons letter text ih =>
    have joined := ih (scanner.step state letter)
    rcases List.exists_cons_of_ne_nil (pieces_ne_nil (scanner.step state letter) text) with
      ⟨piece, others, split⟩
    rw [pieces]
    split_ifs with cut
    · rw [List.intercalate_cons_of_ne_nil (pieces_ne_nil _ _), joined, cuts.at_separator cut]
      rfl
    · rw [split] at joined ⊢
      cases others with
      | nil => simpa using joined
      | cons =>
        simpa [List.intercalate_cons_cons] using joined

theorem uncut_of_mem_pieces (cuts : scanner.CutsAt start separator) {piece : List Letter}
    (present : piece ∈ scanner.pieces start text) : scanner.Uncut start piece := by
  induction length : text.length using Nat.strongRecOn generalizing text with
  | ind _ ih =>
    rcases uncut_or_cut scanner start text with uncut | ⟨_, _, rest, rfl, uncut, cut⟩
    · rw [pieces_of_uncut uncut, List.mem_singleton] at present
      rwa [present]
    · rw [pieces_of_cut uncut cut, cuts.restarts cut] at present
      rcases List.mem_cons.mp present with rfl | later
      · exact uncut
      · refine ih rest.length ?_ later rfl
        rw [← length, List.length_append, List.length_cons]
        omega

end CutsAt

end Scanner

end CodeClash.Text
