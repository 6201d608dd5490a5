import CodeAtlas.Source.Extract
import Mathlib.Data.List.Basic

set_option autoImplicit false

/-! Lines of a text, and the first place of each that is neither a space nor a tab. -/

namespace CodeAtlas.Source

-- The number of the line that a place is on.
def lineAt (text : List Char) (index : Nat) : Nat :=
  (text.take index).count '\n' + 1

def lineCount (text : List Char) : Nat :=
  text.count '\n' + 1

-- The characters of a line, without the newline at its end.
def lineText (text : List Char) (line : Nat) : List Char :=
  (text.splitOn '\n').getD (line - 1) []

/-- The place of the first character of its line that is neither a space nor a tab. -/
def FirstOfLine (text : List Char) (index : Nat) : Prop :=
  ∃ before margin c rest, text = before ++ margin ++ c :: rest ∧
    index = (before ++ margin).length ∧ (before = [] ∨ ∃ init, before = init ++ ['\n']) ∧
      (∀ d ∈ margin, isMargin d = true) ∧ isMargin c = false

theorem lineAt_mono (text : List Char) {i j : Nat} (le : i ≤ j) : lineAt text i ≤ lineAt text j :=
  Nat.succ_le_succ ((List.take_sublist_take_left le).count_le _)

theorem lineAt_le_lineCount (text : List Char) (index : Nat) : lineAt text index ≤ lineCount text :=
  Nat.succ_le_succ ((List.take_sublist index text).count_le _)

theorem lineAt_length (before rest : List Char) :
    lineAt (before ++ rest) before.length = before.count '\n' + 1 := by
  simp [lineAt]

-- The line that a place is on goes on up to the next newline.
theorem lineText_at (before rest : List Char) :
    ∃ front, lineText (before ++ rest) (before.count '\n' + 1) = front ++ rest.takeWhile (· != '\n') := by
  simp only [lineText, Nat.add_sub_cancel]
  induction before with
  | nil =>
    refine ⟨[], ?_⟩
    rw [List.nil_append, List.count_nil, List.nil_append]
    induction rest with
    | nil => rfl
    | cons c rest ih =>
      rw [List.splitOn_cons_eq_if_modifyHead]
      by_cases newline : c = '\n'
      · simp [newline]
      · cases lines : rest.splitOn '\n' with
        | nil => exact absurd lines (List.splitOn_ne_nil _ _)
        | cons line lines => simp_all
  | cons c before ih =>
    obtain ⟨front, ih⟩ := ih
    rw [List.cons_append, List.splitOn_cons_eq_if_modifyHead]
    by_cases newline : c = '\n'
    · exact ⟨front, by simpa [newline] using ih⟩
    · cases lines : (before ++ rest).splitOn '\n' with
      | nil => exact absurd lines (List.splitOn_ne_nil _ _)
      | cons line lines =>
        rw [lines] at ih
        cases count : before.count '\n' with
        | zero => exact ⟨c :: front, by simp_all⟩
        | succ count => exact ⟨front, by simp_all⟩

theorem FirstOfLine.char {text : List Char} {i : Nat} (first : FirstOfLine text i) :
    ∃ c, text[i]? = some c ∧ isMargin c = false := by
  obtain ⟨before, margin, c, rest, rfl, rfl, -, -, ink⟩ := first
  exact ⟨c, by simp, ink⟩

-- Between two such places there is a newline, for only spaces and tabs stand before the second one.
theorem FirstOfLine.lineAt_lt {text : List Char} {i j : Nat} (first : FirstOfLine text i)
    (second : FirstOfLine text j) (lt : i < j) : lineAt text i < lineAt text j := by
  obtain ⟨c, there, ink⟩ := first.char
  obtain ⟨before, margin, d, rest, same, rfl, start, plain, -⟩ := second
  rw [List.length_append] at lt
  by_cases inside : before.length ≤ i
  · have here : margin[i - before.length]? = some c := by
      rw [← there, same, List.append_assoc, List.getElem?_append_right inside,
        List.getElem?_append_left (by omega)]
    rw [plain c (List.mem_of_getElem? here)] at ink
    exact absurd ink (by decide)
  · rcases start with rfl | ⟨init, rfl⟩
    · simp at inside
    · have short : i ≤ init.length := by
        simp only [List.length_append, List.length_singleton] at inside
        omega
      have lines : lineAt text i ≤ lineAt text init.length := lineAt_mono text short
      have here : lineAt text init.length = init.count '\n' + 1 := by
        simp [lineAt, same]
      have later : lineAt text (init ++ ['\n'] ++ margin).length =
          init.count '\n' + 1 + margin.count '\n' + 1 := by
        rw [same, lineAt_length, List.count_append, List.count_append, List.count_singleton_self]
      omega

end CodeAtlas.Source
