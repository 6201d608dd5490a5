import CodeAtlas.Proofs.Pattern.Tally
import CodeAtlas.Proofs.Text.Count
import CodeAtlas.Source.Complexity
import Mathlib.Algebra.BigOperators.Ring.Finset
import Mathlib.Algebra.Order.BigOperators.Group.List
import Mathlib.Algebra.Order.Ring.Nat

set_option autoImplicit false

/-! Complexity, line by line: what a text adds to the score is the sum of what its lines add. -/

namespace CodeAtlas.Source

open CodeAtlas.Pattern CodeAtlas.Text

/-! ### Words -/

theorem words_eq (text : List Char) : words text = runsOf isWord text := by
  rw [words, splitWhere_eq_splitOnP, runsOf]

theorem countP_cons_contains {name : List Char} {names : List (List Char)} (fresh : name ∉ names)
    (found : List (List Char)) :
    found.countP (name :: names).contains = found.count name + found.countP names.contains := by
  induction found with
  | nil => rfl
  | cons word found ih =>
    by_cases same : word = name
    · simp [same, fresh, ih, Nat.add_right_comm]
    · simp [same, ih, List.countP_cons, Nat.add_assoc]

-- Names apart from one another are counted apart.
theorem countP_contains {names : List (List Char)} (distinct : names.Nodup) (found : List (List Char)) :
    found.countP names.contains = (names.map found.count).sum := by
  induction names with
  | nil => simp
  | cons name names ih =>
    obtain ⟨fresh, distinct⟩ := List.nodup_cons.mp distinct
    rw [countP_cons_contains fresh, ih distinct, List.map_cons, List.sum_cons]

theorem branchWords_distinct : (branchWords.map String.toList).Nodup := by
  decide

theorem branchWords_chars :
    ∀ word ∈ branchWords, word.toList ≠ [] ∧ ∀ c ∈ word.toList, isWord c = true := by
  have each : branchWords.all (fun word => !word.toList.isEmpty && word.toList.all isWord) = true := by
    decide
  simpa using each

theorem wordCount_eq (code : List Char) :
    wordCount code =
      (branchWords.map fun word => ((standing word.toList).findAll code).length).sum := by
  have named : (fun w => branchWords.any fun b => b.toList == w) =
      (branchWords.map String.toList).contains := by
    funext w
    simp only [List.contains_eq_any_beq, List.any_map, Function.comp_def, BEq.comm (b := w)]
  rw [wordCount, named, ← List.countP_eq_length_filter, countP_contains branchWords_distinct,
    List.map_map, words_eq]
  apply congrArg List.sum
  apply List.map_congr_left
  intro word member
  obtain ⟨some, chars⟩ := branchWords_chars word member
  exact (length_findAll_standing some chars code).symm

theorem wordCount_split (before after : List Char) :
    wordCount (before ++ '\n' :: after) = wordCount before + wordCount after := by
  simp only [wordCount, words_eq]
  rw [runsOf_split (by decide), List.filter_append, List.length_append]

/-! ### Operators -/

theorem branchOperators_chars :
    ∀ operator ∈ branchOperators, operator.toList ≠ [] ∧ '\n' ∉ operator.toList := by
  decide

theorem operatorCount_split (before after : List Char) :
    operatorCount (before ++ '\n' :: after) = operatorCount before + operatorCount after := by
  have each : branchOperators.map (fun operator => countOf operator.toList (before ++ '\n' :: after)) =
      branchOperators.map fun operator =>
        countOf operator.toList before + countOf operator.toList after := by
    apply List.map_congr_left
    intro operator member
    obtain ⟨wide, apart⟩ := branchOperators_chars operator member
    exact countOf_split wide apart before after
  rw [operatorCount, each]
  exact List.sum_map_add

/-! ### Lines -/

/-- What a text adds to the score. -/
def points (code : List Char) : Nat :=
  wordCount code + operatorCount code

theorem complexity_score (code : String) : (complexity code).score = 1 + points code.toList :=
  Nat.add_assoc _ _ _

theorem points_split (before after : List Char) :
    points (before ++ '\n' :: after) = points before + points after := by
  rw [points, wordCount_split, operatorCount_split, points, points]
  omega

theorem points_intercalate (lines : List (List Char)) :
    points (['\n'].intercalate lines) = (lines.map points).sum := by
  induction lines with
  | nil => rfl
  | cons line lines ih =>
    cases lines with
    | nil => simp
    | cons next lines =>
      rw [List.intercalate_cons_cons, List.append_assoc, List.singleton_append, points_split, ih]
      rfl

def linesOf (code : String) : List String :=
  (code.toList.splitOn '\n').map String.ofList

theorem points_linesOf (code : String) :
    points code.toList = ((linesOf code).map fun line => points line.toList).sum := by
  have whole : ['\n'].intercalate (code.toList.splitOn '\n') = code.toList :=
    List.intercalate_splitOn '\n'
  rw [← whole, points_intercalate, linesOf, List.map_map]
  simp [Function.comp_def]

theorem points_mono {a b : String} (within : (linesOf a).Sublist (linesOf b)) :
    points a.toList ≤ points b.toList := by
  rw [points_linesOf a, points_linesOf b]
  exact (within.map _).sum_le_sum (by simp)

/-! ### Levels -/

def Level.rank : Level → Nat
  | .low => 0
  | .medium => 1
  | .high => 2

theorem Level.rank_mono {m n : Nat} (le : m ≤ n) : (Level.ofScore m).rank ≤ (Level.ofScore n).rank := by
  grind [Level.ofScore, Level.rank]

/-- The score is one, and one more for each branching word that stands alone and each branching operator. A
newline between two texts costs neither of them a point, so the lines of a text add up; further lines
take nothing away, and a higher score is no lower level. -/
theorem complexity_lines (a b : String) :
    (complexity a).score = 1 +
        (branchWords.map fun word => ((standing word.toList).findAll a.toList).length).sum +
        (branchOperators.map fun operator => countOf operator.toList a.toList).sum ∧
      ((complexity (a ++ "\n" ++ b)).score : Int) = (complexity a).score + (complexity b).score - 1 ∧
      ((complexity a).score : Int) =
        1 + ((linesOf a).map fun line => ((complexity line).score : Int) - 1).sum ∧
      ((linesOf a).Sublist (linesOf b) → (complexity a).score ≤ (complexity b).score) ∧
      ((complexity a).score ≤ (complexity b).score →
        (complexity a).level.rank ≤ (complexity b).level.rank) := by
  refine ⟨?_, ?_, ?_, ?_, Level.rank_mono⟩
  · rw [← wordCount_eq]
    rfl
  · have joined : (a ++ "\n" ++ b).toList = a.toList ++ '\n' :: b.toList := by simp
    simp only [complexity_score, joined, points_split]
    omega
  · have each : (fun line : String => ((complexity line).score : Int) - 1) =
        fun line => (points line.toList : Int) := by
      funext line
      rw [complexity_score]
      omega
    rw [each, complexity_score, points_linesOf a, Nat.cast_add, Nat.cast_one, Nat.cast_list_sum,
      List.map_map]
    rfl
  · intro within
    simp only [complexity_score]
    exact Nat.add_le_add_left (points_mono within) 1

theorem complexity_lines_returns :
    (linesOf "if (a) return b;").Sublist (linesOf "if (a) return b;\nreturn a || c ? b : d;") ∧
      (complexity "if (a) return b;").score ≤
        (complexity "if (a) return b;\nreturn a || c ? b : d;").score ∧
      (complexity "if (a) return b;").level.rank ≤
        (complexity "if (a) return b;\nreturn a || c ? b : d;").level.rank := by
  have within : (linesOf "if (a) return b;").Sublist
      (linesOf "if (a) return b;\nreturn a || c ? b : d;") := by decide +kernel
  obtain ⟨-, -, -, grows, rises⟩ :=
    complexity_lines "if (a) return b;" "if (a) return b;\nreturn a || c ? b : d;"
  exact ⟨within, grows within, rises (grows within)⟩

end CodeAtlas.Source
