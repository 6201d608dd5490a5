import CodeAtlas.Text.Basic
import Mathlib.Data.List.Basic
import Mathlib.Data.List.TakeWhile

set_option autoImplicit false

/-! The longest runs of characters of one sort in a text, and the gaps between them. -/

namespace CodeAtlas.Text

variable (inside : Char → Bool)

def runsOf (text : List Char) : List (List Char) :=
  (text.splitOnP fun c => !inside c).filter (!·.isEmpty)

/-- The text falls into these runs and characters of other sorts. No run goes on behind its end. -/
inductive Runs : List Char → List (List Char) → Prop
  | nil : Runs [] []
  | gap {c : Char} {text : List Char} {runs : List (List Char)} (outside : inside c = false)
      (rest : Runs text runs) : Runs (c :: text) runs
  | run {run text : List Char} {runs : List (List Char)} (nonempty : run ≠ [])
      (chars : ∀ c ∈ run, inside c = true) (ends : ∀ c ∈ text.head?, inside c = false)
      (rest : Runs text runs) : Runs (run ++ text) (run :: runs)

variable {inside}

theorem splitWhere_eq_splitOnP (separates : Char → Bool) (text : List Char) :
    splitWhere separates text = text.splitOnP separates := by
  induction text with
  | nil => rfl
  | cons c text ih =>
    rw [splitWhere, ih, List.splitOnP_cons_eq_if_modifyHead]
    cases split : text.splitOnP separates with
    | nil => exact absurd split (List.splitOnP_ne_nil separates text)
    | cons piece pieces => rfl

theorem runsOf_split {c : Char} (outside : inside c = false) (before after : List Char) :
    runsOf inside (before ++ c :: after) = runsOf inside before ++ runsOf inside after := by
  rw [runsOf, List.splitOnP_append_cons before after (by simp [outside]), List.filter_append]
  rfl

theorem runsOf_outside {c : Char} (outside : inside c = false) (text : List Char) :
    runsOf inside (c :: text) = runsOf inside text :=
  runsOf_split outside [] text

theorem runsOf_word {word : List Char} (nonempty : word ≠ [])
    (chars : ∀ c ∈ word, inside c = true) : runsOf inside word = [word] := by
  rw [runsOf, List.splitOnP_eq_singleton fun c member => by simp [chars c member]]
  simp [nonempty]

theorem runsOf_word_append {word text : List Char} (nonempty : word ≠ [])
    (chars : ∀ c ∈ word, inside c = true) (ends : ∀ c ∈ text.head?, inside c = false) :
    runsOf inside (word ++ text) = word :: runsOf inside text := by
  cases text with
  | nil => rw [List.append_nil, runsOf_word nonempty chars]; rfl
  | cons c text =>
    have outside : inside c = false := ends c rfl
    rw [runsOf_split outside, runsOf_word nonempty chars, runsOf_outside outside]
    rfl

-- The run that a text begins with, and the runs behind it.
theorem runsOf_takeWhile {text : List Char} (some : text.takeWhile inside ≠ []) :
    runsOf inside text = text.takeWhile inside :: runsOf inside (text.dropWhile inside) := by
  have chars : ∀ c ∈ text.takeWhile inside, inside c = true := fun c => List.mem_takeWhile_imp
  have ends : ∀ c ∈ (text.dropWhile inside).head?, inside c = false := by
    intro c start
    have stop := List.head?_dropWhile_not inside text
    rwa [Option.mem_def.mp start] at stop
  rw [← runsOf_word_append some chars ends, List.takeWhile_append_dropWhile]

theorem runsOf_gap_append {gap : List Char} (plain : ∀ c ∈ gap, inside c = false)
    (text : List Char) : runsOf inside (gap ++ text) = runsOf inside text := by
  induction gap with
  | nil => rfl
  | cons c gap ih =>
    rw [List.cons_append, runsOf_outside (plain c List.mem_cons_self)]
    exact ih fun d member => plain d (List.mem_cons_of_mem c member)

theorem runsOf_gap {gap : List Char} (plain : ∀ c ∈ gap, inside c = false) :
    runsOf inside gap = [] := by
  have apart := runsOf_gap_append plain []
  rwa [List.append_nil] at apart

theorem runsOf_apart {gap : List Char} (wide : gap ≠ []) (plain : ∀ c ∈ gap, inside c = false)
    (before after : List Char) :
    runsOf inside (before ++ (gap ++ after)) = runsOf inside before ++ runsOf inside after := by
  obtain ⟨c, gap, rfl⟩ := List.exists_cons_of_ne_nil wide
  rw [List.cons_append, runsOf_split (plain c List.mem_cons_self),
    runsOf_gap_append fun d member => plain d (List.mem_cons_of_mem c member)]

-- Parts with gaps between them keep their own runs.
theorem runsOf_intercalate {gap : List Char} (wide : gap ≠ [])
    (plain : ∀ c ∈ gap, inside c = false) (parts : List (List Char)) :
    runsOf inside (gap.intercalate parts) = parts.flatMap (runsOf inside) := by
  induction parts with
  | nil => rfl
  | cons part parts ih =>
    cases parts with
    | nil => rw [List.intercalate_singleton, List.flatMap_singleton]
    | cons other parts =>
      rw [List.intercalate_cons_cons, List.append_assoc, runsOf_apart wide plain, ih]
      rfl

theorem runs_runsOf (inside : Char → Bool) (text : List Char) :
    Runs inside text (runsOf inside text) := by
  cases text with
  | nil => exact .nil
  | cons c rest =>
    by_cases first : inside c = true
    · have split : c :: rest = (c :: rest.takeWhile inside) ++ rest.dropWhile inside := by simp
      have chars : ∀ d ∈ c :: rest.takeWhile inside, inside d = true := by
        intro d member
        cases member with
        | head => exact first
        | tail _ later => exact List.mem_takeWhile_imp later
      have ends : ∀ d ∈ (rest.dropWhile inside).head?, inside d = false := by
        intro d start
        have stop := List.head?_dropWhile_not inside rest
        rwa [Option.mem_def.mp start] at stop
      have later := runs_runsOf inside (rest.dropWhile inside)
      rw [split, runsOf_word_append (List.cons_ne_nil _ _) chars ends]
      exact .run (List.cons_ne_nil _ _) chars ends later
    · rw [Bool.not_eq_true] at first
      rw [runsOf_outside first]
      exact .gap first (runs_runsOf inside rest)
termination_by text.length
decreasing_by
  · exact Nat.lt_succ_of_le (List.dropWhile_suffix inside).length_le
  · exact Nat.lt_succ_self _

/-- Nothing but the characters of other sorts is left out. -/
theorem Runs.flatten {text : List Char} {runs : List (List Char)} (split : Runs inside text runs) :
    runs.flatten = text.filter inside := by
  induction split with
  | nil => rfl
  | gap outside _ ih => rw [ih, List.filter_cons_of_neg (by simp [outside])]
  | run _ chars _ _ ih => rw [List.flatten_cons, ih, List.filter_append, List.filter_eq_self.mpr chars]

theorem Runs.word {text : List Char} {runs : List (List Char)} (split : Runs inside text runs)
    {word : List Char} (member : word ∈ runs) : word ≠ [] ∧ ∀ c ∈ word, inside c = true := by
  induction split with
  | nil => cases member
  | gap _ _ ih => exact ih member
  | run nonempty chars _ _ ih =>
    cases member with
    | head => exact ⟨nonempty, chars⟩
    | tail _ later => exact ih later

end CodeAtlas.Text
