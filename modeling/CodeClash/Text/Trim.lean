import Mathlib.Data.List.DropRight

/-!
# Blank characters at the ends of a text

The blank characters are given by a predicate. A text is trimmed by dropping them at both ends,
and it is tight if there are none to drop.
-/

namespace CodeClash.Text

variable {Letter : Type} {blank : Letter → Bool} {text rest : List Letter} {letter : Letter}

def trimmed (blank : Letter → Bool) (text : List Letter) : List Letter :=
  (text.dropWhile blank).rdropWhile blank

def Tight (blank : Letter → Bool) (text : List Letter) : Prop :=
  (∀ letter ∈ text.head?, blank letter = false) ∧ ∀ letter ∈ text.getLast?, blank letter = false

theorem trimmed_eq_nil_iff : trimmed blank text = [] ↔ ∀ letter ∈ text, blank letter = true := by
  rw [trimmed, List.rdropWhile_eq_nil_iff, ← List.dropWhile_eq_nil_iff,
    List.dropWhile_idempotent, List.dropWhile_eq_nil_iff]

theorem trimmed_cons (isBlank : blank letter = true) (text : List Letter) :
    trimmed blank (letter :: text) = trimmed blank text := by
  rw [trimmed, List.dropWhile_cons_of_pos isBlank, trimmed]

theorem dropWhile_of_head (head : ∀ letter ∈ text.head?, blank letter = false) :
    text.dropWhile blank = text := by
  cases text with
  | nil => rfl
  | cons letter => exact List.dropWhile_cons_of_neg (by simp [head letter rfl])

theorem trimmed_of_tight (tight : Tight blank text) : trimmed blank text = text := by
  have fromEnd : ∀ letter ∈ text.reverse.head?, blank letter = false := by
    rw [List.head?_reverse]
    exact tight.2
  rw [trimmed, dropWhile_of_head tight.1, List.rdropWhile, dropWhile_of_head fromEnd,
    List.reverse_reverse]

variable {word : List Letter}

theorem exists_trimmed_append (head : ∀ letter ∈ text.head?, blank letter = false) :
    ∃ blanks, text = trimmed blank text ++ blanks ∧ ∀ letter ∈ blanks, blank letter = true := by
  refine ⟨text.rtakeWhile blank, ?_, ?_⟩
  · rw [trimmed, dropWhile_of_head head, List.rdropWhile, List.rtakeWhile, ← List.reverse_append,
      List.takeWhile_append_dropWhile, List.reverse_reverse]
  · intro _ present
    exact List.mem_rtakeWhile_imp present

theorem trimmed_append_cons (head : ∀ letter ∈ text.head?, blank letter = false)
    (solid : blank letter = false) (rest : List Letter) :
    ∃ others, trimmed blank (text ++ letter :: rest) = text ++ letter :: others := by
  have starts : ∀ first ∈ (text ++ letter :: rest).head?, blank first = false := by
    cases text with
    | nil =>
      rintro _ ⟨⟩
      exact solid
    | cons => exact head
  rcases exists_trimmed_append starts with ⟨_, split, allBlank⟩
  rcases List.append_eq_append_iff.mp split with ⟨more, kept, behind⟩ | ⟨more, kept, behind⟩
  · cases more with
    | nil =>
      rw [List.nil_append] at behind
      have isBlank := allBlank letter (by rw [← behind]; exact List.mem_cons_self)
      rw [solid] at isBlank
      cases isBlank
    | cons _ more =>
      cases behind
      exact ⟨more, kept⟩
  · have isBlank := allBlank letter (by rw [behind]; simp)
    rw [solid] at isBlank
    cases isBlank

end CodeClash.Text
