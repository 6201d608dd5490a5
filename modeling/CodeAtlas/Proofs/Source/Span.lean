import CodeAtlas.Proofs.Source.Line
import CodeAtlas.Proofs.Source.Marks
import CodeAtlas.Proofs.Source.Shape
import Mathlib.Data.List.Sort

set_option autoImplicit false

/-! Spans of units: each starts at the first character of its line behind spaces and tabs, and no two
start at the same place. -/

namespace CodeAtlas.Source

open CodeAtlas.Pattern CodeAtlas.Text

theorem indexWhere_bounds (pass : Char → Bool) (start : Nat) (text : List Char) (index : Nat)
    (found : indexWhere pass start text = some index) :
    start ≤ index ∧ index < start + text.length := by
  induction text generalizing start with
  | nil => simp [indexWhere] at found
  | cons c rest ih =>
    simp only [indexWhere] at found
    split at found
    · obtain rfl := Option.some.inj found
      simp
    · have bounds := ih (start + 1) found
      simp only [List.length_cons]
      omega

theorem indexOf_bounds (c : Char) (start : Nat) (text : List Char) (index : Nat)
    (found : indexOf c start text = some index) : start ≤ index ∧ index < text.length := by
  have bounds := indexWhere_bounds _ _ _ _ found
  simp only [List.length_drop] at bounds
  omega

theorem declarationEnd_bounds (text : List Char) (parameters stop : Nat)
    (ends : declarationEnd text parameters = some stop) :
    parameters < stop ∧ stop ≤ text.length := by
  unfold declarationEnd at ends
  obtain ⟨behind, closes, ends⟩ := Option.bind_eq_some_iff.mp ends
  obtain ⟨brace, opens, ends⟩ := Option.bind_eq_some_iff.mp ends
  have parametersBounds := findClosing_bounds _ _ _ _ closes
  have braceBounds := indexOf_bounds _ _ _ _ opens
  have block (ends : findClosing braces text brace = some stop) :
      parameters < stop ∧ stop ≤ text.length := by
    have blockBounds := findClosing_bounds _ _ _ _ ends
    omega
  split at ends
  · split at ends
    · simp at ends
    · exact block ends
  · exact block ends

theorem arrowEnd_bounds (text : List Char) (behind stop : Nat) (le : behind ≤ text.length)
    (ends : arrowEnd text behind = some stop) : behind ≤ stop ∧ stop ≤ text.length := by
  unfold arrowEnd at ends
  simp only at ends
  split at ends
  · have bounds := findClosing_bounds _ _ _ _ ends
    omega
  · have bounds := findClosing_bounds _ _ _ _ ends
    omega
  · obtain rfl := Option.some.inj ends
    cases newline : indexOf '\n' behind text with
    | none => exact ⟨le, Nat.le_refl _⟩
    | some index =>
      have bounds := indexOf_bounds _ _ _ _ newline
      simp only [Option.getD_some]
      omega

-- A body does not end before the declaration that opens it.
theorem bodyEnd_bounds (kind : Kind) (text : List Char) (behind stop : Nat)
    (le : behind ≤ text.length) (ends : bodyEnd kind text behind = some stop) :
    behind ≤ stop ∧ stop ≤ text.length := by
  cases kind with
  | method =>
    have bounds := findClosing_bounds _ _ _ _ ends
    omega
  | arrow => exact arrowEnd_bounds text behind stop le ends
  | function | component =>
    have bounds := declarationEnd_bounds _ _ _ ends
    omega

/-- A span that stands in its text: its signature is written at its start, begins and ends in ink,
and lies inside the span. -/
structure Span.Anchored (text : List Char) (s : Span) : Prop where
  first : FirstOfLine text s.start
  signature_prefix : s.signature <+: text.drop s.start
  inked : Inked s.signature
  covers : s.start + s.signature.length ≤ s.stop
  within : s.stop ≤ text.length
  named : Takes (Shape.identifier Shape.nameStart) s.name.toList

theorem Opens.firstOfLine {p : Pattern} {text : List Char} {m : Match}
    {margin signature : List Char} (opens : Opens m margin signature) (matched : Matches p text m) :
    FirstOfLine text (unitStart m) := by
  obtain ⟨c, rest, same, ink⟩ := opens.inked.first
  refine ⟨m.start.before.reverse, margin, c, rest ++ m.stop.after, ?_, ?_, ?_, opens.plain, ?_⟩
  · rw [matched.text_eq, opens.text_eq, same]
    simp
  · simp [opens.unitStart_eq, m.index_eq]
  · rcases opens.at_line with start | ⟨more, start⟩
    · exact .inl (by simp [start])
    · exact .inr ⟨more.reverse, by simp [start]⟩
  · by_contra margin
    rw [isBlank_of_isMargin c (by simpa using margin)] at ink
    exact absurd ink (by decide)

theorem Opens.drop_eq {p : Pattern} {text : List Char} {m : Match} {margin signature : List Char}
    (opens : Opens m margin signature) (matched : Matches p text m) :
    text.drop (unitStart m) = signature ++ m.stop.after := by
  have front : unitStart m = (m.start.before.reverse ++ margin).length := by
    simp [opens.unitStart_eq, m.index_eq]
  have split : text = m.start.before.reverse ++ margin ++ (signature ++ m.stop.after) := by
    rw [matched.text_eq, opens.text_eq]
    simp
  rw [split, front, List.drop_left]

theorem Opens.endIndex_eq {p : Pattern} {text : List Char} {m : Match}
    {margin signature : List Char} (opens : Opens m margin signature) (matched : Matches p text m) :
    m.endIndex = unitStart m + signature.length := by
  rw [matched.endIndex_eq, opens.unitStart_eq, opens.text_eq, List.length_append, Nat.add_assoc]

theorem Opens.endIndex_le {p : Pattern} {text : List Char} {m : Match}
    {margin signature : List Char} (opens : Opens m margin signature) (matched : Matches p text m) :
    m.endIndex ≤ text.length := by
  have lengths := congrArg List.length (opens.drop_eq matched)
  have nonempty := List.length_pos_of_ne_nil opens.inked.ne_nil
  have stop := opens.endIndex_eq matched
  simp only [List.length_drop, List.length_append] at lengths
  omega

theorem Opens.written {p : Pattern} {text : List Char} {m : Match} {margin signature : List Char}
    (opens : Opens m margin signature) (matched : Matches p text m) :
    trim ((text.drop (unitStart m)).take (m.endIndex - unitStart m)) = signature := by
  have width : m.endIndex - unitStart m = signature.length := by
    have := opens.endIndex_eq matched
    omega
  rw [opens.drop_eq matched, width, List.take_left, opens.inked.trim_eq]

theorem Opens.margin_at {p : Pattern} {text : List Char} {m : Match} {margin signature : List Char}
    (opens : Opens m margin signature) (matched : Matches p text m) {index : Nat}
    (least : m.index ≤ index) (most : index < unitStart m) :
    ∃ c, text[index]? = some c ∧ isMargin c = true := by
  obtain ⟨offset, rfl⟩ := Nat.exists_eq_add_of_le least
  have inside : offset < margin.length := by
    have start := opens.unitStart_eq
    omega
  have place : m.index + offset = m.start.before.reverse.length + offset := by
    rw [List.length_reverse, m.index_eq]
  refine ⟨margin[offset], ?_, opens.plain _ (List.getElem_mem inside)⟩
  rw [matched.text_eq, opens.text_eq, place, List.getElem?_append_right (Nat.le_add_right _ _),
    Nat.add_sub_cancel_left, List.append_assoc, List.getElem?_append_left inside,
    List.getElem?_eq_getElem inside]

theorem Opens.last_at {p : Pattern} {text : List Char} {m : Match} {margin signature : List Char}
    (opens : Opens m margin signature) (matched : Matches p text m) :
    ∃ c, text[m.endIndex - 1]? = some c ∧ isBlank c = false := by
  obtain ⟨init, c, same, ink⟩ := opens.inked.last
  refine ⟨c, ?_, ink⟩
  have place : m.endIndex - 1 = unitStart m + init.length := by
    rw [opens.endIndex_eq matched, same, List.length_append, List.length_singleton]
    omega
  rw [place, ← List.getElem?_drop, opens.drop_eq matched, same]
  simp

-- A match begins where the line of its first ink begins.
theorem Margined.index_le {p body : Pattern} (lined : Margined p body) {text : List Char} {m m' : Match}
    (matched : Matches p text m) (matched' : Matches p text m')
    (same : unitStart m = unitStart m') : m'.index ≤ m.index := by
  obtain ⟨margin, signature, opens⟩ := lined.opens matched
  obtain ⟨margin', signature', opens'⟩ := lined.opens matched'
  have start := opens'.unitStart_eq
  by_contra late
  -- The newline in front of the later one stands in the margin of the earlier one.
  rcases opens'.at_line with first | ⟨rest, line⟩
  · rw [m'.index_eq, first] at late
    exact late (Nat.zero_le _)
  · have index : m'.index = rest.length + 1 := by rw [m'.index_eq, line, List.length_cons]
    obtain ⟨c, there, plain⟩ := opens.margin_at matched (by omega : m.index ≤ rest.length) (by omega)
    rw [matched'.text_eq, line] at there
    obtain rfl : '\n' = c := by simpa using there
    exact absurd plain (by decide)

theorem spanOf_eq_some {least : Int} {text : List Char} {kind : Kind} {m : Match} {s : Span} :
    spanOf least text kind m = some s ↔ ∃ name stop, declaredName m = some name ∧
      ¬(kind = .method ∧ name ∈ controlWords) ∧ bodyEnd kind text m.endIndex = some stop ∧
        ¬(stop : Int) - unitStart m < least ∧ s = ⟨unitStart m, stop, kind, name,
          trim ((text.drop (unitStart m)).take (m.endIndex - unitStart m))⟩ := by
  rw [spanOf]
  constructor
  · intro spanned
    obtain ⟨name, named, spanned⟩ := Option.bind_eq_some_iff.mp spanned
    simp only at spanned
    -- Control words, bodies without an end and bodies that are too small give no span.
    split at spanned
    · cases spanned
    next own =>
      obtain ⟨stop, ends, spanned⟩ := Option.bind_eq_some_iff.mp spanned
      split at spanned
      · cases spanned
      next large =>
        exact ⟨name, stop, named, by simpa using own, ends, large, (Option.some.inj spanned).symm⟩
  · rintro ⟨name, stop, named, own, ends, large, rfl⟩
    have free : ¬(kind == .method && controlWords.contains name) = true := by simpa using own
    rw [named, Option.bind_eq_bind, Option.bind_some, if_neg free, ends, Option.bind_eq_bind,
      Option.bind_some, if_neg large]

-- The span of a match stands in the text and starts where the match has its first ink.
theorem spanOf_anchored (least : Int) (text : List Char) (kind : Kind) {p body : Pattern}
    (lined : Lined p body) (m : Match) (matched : Matches p text m) (s : Span)
    (found : spanOf least text kind m = some s) :
    s.Anchored text ∧ s.start = unitStart m ∧ s.kind = kind := by
  obtain ⟨margin, signature, opens⟩ := lined.opens matched
  obtain ⟨name, takes, named⟩ := lined.declaredName matched
  obtain ⟨other, stop, sameName, -, ends, -, rfl⟩ := spanOf_eq_some.mp found
  obtain rfl : other = String.ofList name := Option.some.inj (sameName.symm.trans named)
  have bounds := bodyEnd_bounds kind text _ stop (opens.endIndex_le matched) ends
  have written := opens.written matched
  refine ⟨?_, rfl, rfl⟩
  constructor
  · exact opens.firstOfLine matched
  · simp only [written]
    rw [opens.drop_eq matched]
    exact List.prefix_append _ _
  · simpa only [written] using opens.inked
  · simp only [written]
    have := opens.endIndex_eq matched
    omega
  · exact bounds.2
  · simpa using takes

/-- Spans that stand in their text, no two of which start at the same place. -/
structure Found.Kept (text : List Char) (found : Found) : Prop where
  anchored : ∀ s ∈ found, s.Anchored text
  apart : (found.map (·.start)).Nodup

theorem Span.Anchored.with_kind {text : List Char} {s : Span} (anchored : s.Anchored text)
    (kind : Kind) : ({ s with kind := kind } : Span).Anchored text :=
  ⟨anchored.first, anchored.signature_prefix, anchored.inked, anchored.covers, anchored.within,
    anchored.named⟩

theorem relabel_starts (found : Found) (start : Nat) (kind : Kind) :
    (found.relabel start kind).map (·.start) = found.map (·.start) := by
  simp only [Found.relabel, List.map_map]
  apply List.map_congr_left
  intro s _
  simp only [Function.comp]
  split <;> rfl

theorem relabel_kept (text : List Char) (found : Found) (kept : found.Kept text) (start : Nat)
    (kind : Kind) : (found.relabel start kind).Kept text := by
  constructor
  · intro s member
    obtain ⟨old, inside, rfl⟩ := List.mem_map.mp member
    split
    · exact (kept.anchored old inside).with_kind kind
    · exact kept.anchored old inside
  · rw [relabel_starts]
    exact kept.apart

theorem at?_isSome (found : Found) (start : Nat) :
    (found.at? start).isSome = true ↔ start ∈ found.map (·.start) := by
  simp [Found.at?]

theorem Found.Kept.append {text : List Char} {found : Found} {s : Span} (kept : found.Kept text)
    (anchored : s.Anchored text) (fresh : s.start ∉ found.map (·.start)) :
    Found.Kept text (found ++ [s]) := by
  constructor
  · intro other member
    cases List.mem_append.mp member with
    | inl old => exact kept.anchored other old
    | inr new =>
      obtain rfl := List.mem_singleton.mp new
      exact anchored
  · rw [List.map_append, List.nodup_append]
    refine ⟨kept.apart, by simp, ?_⟩
    intro a inside b last
    obtain rfl : b = s.start := by simpa using last
    rintro rfl
    exact fresh inside

theorem addMatch_kept (least : Int) (text : List Char) (shape : DeclarationShape)
    (known : shape ∈ declarationShapes) (found : Found) (kept : found.Kept text) (m : Match)
    (matched : Matches shape.pattern text m) : (addMatch least text shape found m).Kept text := by
  simp only [addMatch]
  split
  next refines => exact relabel_kept text found kept _ _
  next finds =>
    split
    next => exact kept
    next fresh =>
      split
      next s spans =>
        obtain ⟨body, lined⟩ := declarationShapes_lined shape known (by simpa using finds)
        obtain ⟨anchored, start, -⟩ := spanOf_anchored least text _ lined m matched s spans
        rw [at?_isSome, ← start] at fresh
        exact kept.append anchored fresh
      next => exact kept

theorem addShape_kept (least : Int) (text : List Char) (shape : DeclarationShape)
    (known : shape ∈ declarationShapes) (found : Found) (kept : found.Kept text) :
    (addShape least text found shape).Kept text := by
  have each (m : Match) (member : m ∈ shape.pattern.findAll text) :
      Matches shape.pattern text m := findAll_matches _ _ _ member
  unfold addShape
  generalize shape.pattern.findAll text = matches_ at each
  induction matches_ generalizing found with
  | nil => exact kept
  | cons m rest ih =>
    apply ih _ (addMatch_kept least text shape known found kept m (each m (by simp)))
    exact fun other member => each other (List.mem_cons_of_mem m member)

theorem addShapes_kept (least : Int) (text : List Char) (shapes : List DeclarationShape)
    (known : ∀ shape ∈ shapes, shape ∈ declarationShapes) (found : Found) (kept : found.Kept text) :
    (shapes.foldl (addShape least text) found).Kept text := by
  induction shapes generalizing found with
  | nil => exact kept
  | cons shape rest ih =>
    apply ih (fun other member => known other (List.mem_cons_of_mem shape member)) _
    exact addShape_kept least text shape (known shape (by simp)) found kept

-- Sorting changes nothing about which spans there are.
theorem mem_spans_added {least : Int} {text : List Char} {s : Span} :
    s ∈ spans least text ↔ s ∈ declarationShapes.foldl (addShape least text) [] :=
  List.mem_mergeSort

theorem unitOf_mem {least : Int} {path text : String} {s : Span}
    (added : s ∈ declarationShapes.foldl (addShape least text.toList) []) :
    unitOf path (importsOf text.toList) (typesOf text.toList) text.toList s ∈
      extract least path text :=
  List.mem_map_of_mem (mem_spans_added.mpr added)

theorem spans_anchored (least : Int) (text : List Char) (s : Span) (member : s ∈ spans least text) :
    s.Anchored text := by
  have kept := addShapes_kept least text declarationShapes (fun _ => id) [] ⟨by simp, by simp⟩
  exact kept.anchored s (mem_spans_added.mp member)

theorem spans_increase (least : Int) (text : List Char) :
    (spans least text).Pairwise (·.start < ·.start) := by
  have kept := addShapes_kept least text declarationShapes (fun _ => id) [] ⟨by simp, by simp⟩
  have sorted : (spans least text).Pairwise (·.start ≤ ·.start) := by
    refine (List.pairwise_mergeSort ?_ ?_ _).imp fun le => decide_eq_true_iff.mp le
    · intro a b c
      simp only [decide_eq_true_eq]
      omega
    · intro a b
      simp only [Bool.or_eq_true, decide_eq_true_eq]
      omega
  have apart : (spans least text).Pairwise (·.start ≠ ·.start) := by
    apply List.pairwise_map.mp
    exact ((List.mergeSort_perm _ _).map Span.start).nodup_iff.mpr kept.apart
  exact (sorted.and apart).imp fun ⟨le, ne⟩ => Nat.lt_of_le_of_ne le ne

end CodeAtlas.Source
