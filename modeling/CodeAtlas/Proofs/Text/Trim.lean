import CodeAtlas.Text.Blank
import Mathlib.Data.List.TakeWhile

set_option autoImplicit false

/-! Texts without white space at their ends. -/

namespace CodeAtlas.Text

theorem trimLeft_of_inked (c : Char) (rest : List Char) (inked : isBlank c = false) :
    trimLeft (c :: rest) = c :: rest := by
  simp [trimLeft, inked]

-- What ends in ink stays at the start of a text that is trimmed.
theorem trimRight_append_inked (init : List Char) (c : Char) (inked : isBlank c = false)
    (rest : List Char) : trimRight (init ++ [c] ++ rest) = init ++ [c] ++ trimRight rest := by
  have stays : (init ++ [c]).reverse.dropWhile isBlank = (init ++ [c]).reverse := by
    simp [inked]
  simp only [trimRight]
  rw [List.reverse_append, List.dropWhile_append, stays]
  split
  next blank =>
    rw [List.isEmpty_iff.mp blank, List.reverse_reverse, List.reverse_nil, List.append_nil]
  next => rw [List.reverse_append, List.reverse_reverse]

-- A text is its trimmed form and white space behind it.
theorem trimRight_append_blank (text : List Char) :
    ∃ blank, text = trimRight text ++ blank ∧ ∀ c ∈ blank, isBlank c = true := by
  refine ⟨(text.reverse.takeWhile isBlank).reverse, ?_, ?_⟩
  · rw [trimRight, ← List.reverse_append, List.takeWhile_append_dropWhile, List.reverse_reverse]
  · intro c member
    rw [List.mem_reverse] at member
    exact List.mem_takeWhile_imp member

theorem trimRight_last (text : List Char) (c : Char) (last : (trimRight text).getLast? = some c) :
    isBlank c = false := by
  rw [trimRight, List.getLast?_reverse] at last
  have stops := List.head?_dropWhile_not isBlank text.reverse
  rw [last] at stops
  simpa using stops

theorem trim_eq_nil (text : List Char) : trim text = [] ↔ ∀ c ∈ text, isBlank c = true := by
  constructor
  · intro nothing
    obtain ⟨blank, same, clear⟩ := trimRight_append_blank (trimLeft text)
    have right : trimRight (trimLeft text) = [] := nothing
    rw [right, List.nil_append] at same
    have left : trimLeft text = [] := by
      cases rest : trimLeft text with
      | nil => rfl
      | cons c others =>
        have inked : isBlank c = false := by
          have first := List.head?_dropWhile_not isBlank text
          rw [← trimLeft, rest] at first
          simpa using first
        have inside : c ∈ blank := by
          rw [← same, rest]
          exact List.mem_cons_self
        rw [clear c inside] at inked
        exact absurd inked (by decide)
    exact List.dropWhile_eq_nil_iff.mp left
  · intro blank
    rw [trim, trimLeft, List.dropWhile_eq_nil_iff.mpr blank]
    rfl

theorem trim_sublist (text : List Char) : (trim text).Sublist text := by
  have right : (trimRight (trimLeft text)).Sublist (trimLeft text) := by
    have cut := (List.dropWhile_sublist (l := (trimLeft text).reverse) isBlank).reverse
    rwa [List.reverse_reverse] at cut
  exact right.trans (List.dropWhile_sublist isBlank)

/-- A text that begins and ends with something else than white space. -/
structure Inked (text : List Char) : Prop where
  first : ∃ c rest, text = c :: rest ∧ isBlank c = false
  last : ∃ init c, text = init ++ [c] ∧ isBlank c = false

theorem Inked.ne_nil {text : List Char} (inked : Inked text) : text ≠ [] := by
  obtain ⟨c, rest, rfl, -⟩ := inked.first
  simp

theorem Inked.trimRight_append {text : List Char} (inked : Inked text) (rest : List Char) :
    trimRight (text ++ rest) = text ++ trimRight rest := by
  obtain ⟨init, c, rfl, ink⟩ := inked.last
  exact trimRight_append_inked init c ink rest

theorem Inked.trim_eq {text : List Char} (inked : Inked text) : trim text = text := by
  obtain ⟨c, rest, same, ink⟩ := inked.first
  have right := inked.trimRight_append []
  simp only [List.append_nil] at right
  rw [trim, same, trimLeft_of_inked c rest ink, ← same, right]
  simp [trimRight]

theorem trimRight_of_blank {text : List Char} (blank : ∀ c ∈ text, isBlank c = true) :
    trimRight text = [] := by
  rw [trimRight, List.dropWhile_eq_nil_iff.mpr, List.reverse_nil]
  intro c member
  exact blank c (List.mem_reverse.mp member)

/-- White space around a text goes away, and nothing of the text with it. -/
theorem Inked.trim_amid {text : List Char} (inked : Inked text) {before behind : List Char}
    (gap : ∀ c ∈ before, isBlank c = true) (space : ∀ c ∈ behind, isBlank c = true) :
    trim (before ++ (text ++ behind)) = text := by
  obtain ⟨c, rest, opens, ink⟩ := inked.first
  have left : trimLeft (before ++ (text ++ behind)) = text ++ behind := by
    rw [trimLeft, List.dropWhile_append_of_pos gap, opens, List.cons_append]
    exact trimLeft_of_inked c _ ink
  rw [trim, left, inked.trimRight_append, trimRight_of_blank space, List.append_nil]

end CodeAtlas.Text
