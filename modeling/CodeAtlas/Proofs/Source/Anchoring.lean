import CodeAtlas.Proofs.Source.Calls
import CodeAtlas.Proofs.Source.Span

set_option autoImplicit false

/-! Units stand in their text: each is written where its start line begins, and units start on lines
of their own. -/

namespace CodeAtlas.Source

open CodeAtlas.Text

/-- The names a text calls, each of them once, without those that are no calls of the project's own
functions. -/
def ownCalls (text : List Char) : List String :=
  (distinct ((callNames false text).map String.ofList)).filter fun name =>
    !callStoplist.contains name

theorem callsOf_eq (text : List Char) : callsOf text = ownCalls text := by
  rw [callsOf, captures_call]
  rfl

/-- A unit is written at `start`. -/
structure Placed (text : List Char) (u : RawUnit) (start : Nat) : Prop where
  written : u.code.toList <+: text.drop start
  first : FirstOfLine text start
  startLine_eq : u.startLine = lineAt text start
  inked : ∃ init c, u.code.toList = init ++ [c] ∧ isBlank c = false
  endLine_eq : u.endLine = lineAt text (start + (u.code.toList.length - 1))
  lines : u.endLine = u.startLine + u.code.toList.count '\n'
  within : u.endLine ≤ lineCount text
  signed : u.signature ≠ ""
  calls : ∃ body, u.code.toList = u.signature.toList ++ body ∧ u.context.calls = ownCalls body

-- The line of the last character of a text that is written at `start`.
theorem lineAt_last (text init : List Char) (start : Nat) (c : Char) (ink : isBlank c = false)
    (written : init ++ [c] <+: text.drop start) :
    lineAt text (start + init.length) = lineAt text start + (init ++ [c]).count '\n' := by
  obtain ⟨rest, there⟩ := written
  have newline : c ≠ '\n' := by
    rintro rfl
    exact absurd ink (by decide)
  have taken : text.take (start + init.length) = text.take start ++ init := by
    rw [List.take_add, ← there]
    simp
  rw [lineAt, taken, lineAt, List.count_append, List.count_append, List.count_singleton]
  simp only [beq_iff_eq, newline, if_false]
  omega

namespace Span.Anchored

variable {text : List Char} {s : Span}

-- The code of a span, trimmed behind, still begins with the signature, and is written where the
-- span starts.
theorem code_split (anchored : s.Anchored text) :
    ∃ body, trimRight ((text.drop s.start).take (s.stop - s.start)) = s.signature ++ body ∧
      s.signature ++ body <+: text.drop s.start := by
  obtain ⟨rest, there⟩ := anchored.signature_prefix
  have covers := anchored.covers
  have slice : (text.drop s.start).take (s.stop - s.start) =
      s.signature ++ rest.take (s.stop - s.start - s.signature.length) := by
    rw [← there, List.take_append, List.take_of_length_le (by omega)]
  obtain ⟨blank, shortened, -⟩ :=
    trimRight_append_blank (rest.take (s.stop - s.start - s.signature.length))
  refine ⟨trimRight (rest.take (s.stop - s.start - s.signature.length)), ?_, ?_⟩
  · rw [slice, anchored.inked.trimRight_append]
  · rw [← there, List.prefix_append_right_inj]
    have inside := List.take_prefix (s.stop - s.start - s.signature.length) rest
    rw [shortened] at inside
    exact (List.prefix_append _ _).trans inside

theorem placed (anchored : s.Anchored text) (path : String) (imports types : List String) :
    Placed text (unitOf path imports types text s) s.start := by
  obtain ⟨body, code, written⟩ := anchored.code_split
  have nonempty : s.signature ++ body ≠ [] := by simp [anchored.inked.ne_nil]
  obtain ⟨init, c, last⟩ : ∃ init c, s.signature ++ body = init ++ [c] :=
    ⟨_, _, (List.dropLast_concat_getLast nonempty).symm⟩
  have ink : isBlank c = false := by
    apply trimRight_last ((text.drop s.start).take (s.stop - s.start)) c
    rw [code, last, List.getLast?_concat]
  have ends : lineAt text (s.start + init.length) =
      lineAt text s.start + (s.signature ++ body).count '\n' := by
    rw [last] at written ⊢
    exact lineAt_last text init s.start c ink written
  have length : (s.signature ++ body).length - 1 = init.length := by simp [last]
  have lines : (unitOf path imports types text s).endLine =
      lineAt text s.start + ((s.signature ++ body).count '\n' : Int) := by
    simp only [unitOf, code]
    rfl
  constructor
  · simpa only [unitOf, code, String.toList_ofList] using written
  · exact anchored.first
  · rfl
  · refine ⟨init, c, ?_, ink⟩
    simp only [unitOf, code, String.toList_ofList, last]
  · simp only [unitOf, code, String.toList_ofList, length]
    rw [ends, Int.natCast_add]
    rfl
  · simp only [unitOf, code, String.toList_ofList]
  · rw [lines, ← Int.natCast_add, ← ends]
    exact Int.ofNat_le.mpr (lineAt_le_lineCount text _)
  · simp [unitOf, anchored.inked.ne_nil]
  · refine ⟨body, ?_, ?_⟩
    · simp only [unitOf, code, String.toList_ofList]
    · simp only [unitOf, code, List.drop_left]
      exact callsOf_eq body

end Span.Anchored

theorem extract_placed (least : Int) (path text : String) (u : RawUnit)
    (member : u ∈ extract least path text) : ∃ start, Placed text.toList u start := by
  obtain ⟨s, inside, rfl⟩ := List.mem_map.mp member
  exact ⟨s.start, (spans_anchored least _ s inside).placed path _ _⟩

theorem extract_increases (least : Int) (path text : String) :
    (extract least path text).Pairwise (·.startLine < ·.startLine) := by
  apply List.pairwise_map.mpr
  apply (spans_increase least text.toList).imp_of_mem
  intro s t firstInside secondInside lt
  have first := (spans_anchored least _ s firstInside).first
  have second := (spans_anchored least _ t secondInside).first
  exact Int.ofNat_lt.mpr (first.lineAt_lt second lt)

-- Every unit stands in its text, and the units start on lines of their own, in order.
theorem extract_anchored (least : Int) (path text : String) :
    (extract least path text).Pairwise (·.startLine < ·.startLine) ∧
      ∀ u ∈ extract least path text, ∃ start, Placed text.toList u start :=
  ⟨extract_increases least path text, extract_placed least path text⟩

def twiceText : String :=
  "// a\n\tfunction twice(x) \x7b\n  if (x) add(x, 1)\n \x7d  \n"

theorem extract_anchored_twice :
    ∃ u ∈ extract 10 "src/a.ts" twiceText, u.startLine = 2 ∧ u.endLine = 4 ∧
      u.context.calls = ["add"] ∧ ∃ start, Placed twiceText.toList u start := by
  let s : Span := ⟨6, 47, .function, "twice", "function twice(".toList⟩
  have found : s ∈ spans 10 twiceText.toList :=
    (List.mergeSort_perm _ _).mem_iff.mpr (by decide +kernel)
  have member : unitOf "src/a.ts" (importsOf twiceText.toList) (typesOf twiceText.toList)
      twiceText.toList s ∈ extract 10 "src/a.ts" twiceText := List.mem_map_of_mem found
  refine ⟨_, member, by decide +kernel, by decide +kernel, by decide +kernel, ?_⟩
  exact (extract_anchored 10 "src/a.ts" twiceText).2 _ member

end CodeAtlas.Source
