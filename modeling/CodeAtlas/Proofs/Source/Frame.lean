import CodeAtlas.Proofs.Pattern.Frame
import CodeAtlas.Proofs.Source.Anchoring
import CodeAtlas.Proofs.Source.Body
import CodeAtlas.Proofs.Source.Heading
import CodeAtlas.Proofs.Source.Margin

set_option autoImplicit false

/-! Units of a text within a frame of white space: they are those of the text, on later lines. -/

namespace CodeAtlas.Source

open CodeAtlas.Pattern CodeAtlas.Text

section

variable {front tail : List Char}

theorem heads_apart {p : Pattern} (frame : Frame front tail) (full : nullable p = false)
    (inked : (heads p).all (·.avoids blankRanges) = true) {cursor : Cursor} {one more : List Char}
    (some : one ≠ []) (last : one <:+ front) (after : cursor.after = one ++ more) :
    matchAt p cursor = none := by
  refine run_none full (fun c first inside => ?_) _
  have member : c ∈ one := by
    obtain ⟨d, rest, rfl⟩ := List.exists_cons_of_ne_nil some
    simp only [after] at first
    obtain rfl : d = c := by simpa using first
    exact List.mem_cons_self
  have ink := inSome_inked inked inside
  rw [frame.front_blank c (last.subset member)] at ink
  cases ink

theorem imported_frameable (frame : Frame front tail) : Frameable front tail Shape.imported :=
  ⟨by decide, by decide, heads_apart frame (by decide) (by decide), agree_of_simple rfl⟩

theorem wordEdge_framed (frame : Frame front tail) {long short : Cursor}
    (framed : Framed front tail long short) :
    Anchor.holds long (.wordEdge false) = Anchor.holds short (.wordEdge false) := by
  have edge {one two : List Char} (blank : ∀ c ∈ two, isBlank c = true) :
      wordAt false (one ++ two) = wordAt false one := by
    cases one with
    | cons c one => rfl
    | nil =>
      cases two with
      | nil => rfl
      | cons c two =>
        have other := not_isIdentifierChar_of_isBlank (blank c List.mem_cons_self)
        simp only [isIdentifierChar, Bool.or_eq_false_iff] at other
        exact other.1
  have front : ∀ c ∈ front.reverse, isBlank c = true :=
    fun c member => frame.front_blank c (List.mem_reverse.mp member)
  simp only [Anchor.holds, framed.before, framed.after, edge front, edge frame.tail_blank]

theorem declaredType_frameable (frame : Frame front tail) :
    Frameable front tail Shape.declaredType :=
  ⟨by decide, by decide, heads_apart frame (by decide) (by decide), fun framed =>
    agree_of_anchored rfl framed (wordEdge_framed frame ⟨framed.before, framed.after⟩)⟩

-- No margin goes over the end of a line.
theorem Margined.apart {p body : Pattern} (lined : Margined p body) (frame : Frame front tail)
    {cursor : Cursor} {one more : List Char} (some : one ≠ []) (last : one <:+ front)
    (after : cursor.after = one ++ more) : matchAt p cursor = none := by
  cases found : matchAt p cursor with
  | none => rfl
  | some m =>
    have matched := matchAt_matches p _ cursor m rfl found
    obtain ⟨margin, signature, opens⟩ := lined.opens matched
    obtain ⟨c, rest, same, ink⟩ := opens.inked.first
    have starts := opens.atLine matched
    rw [matchAt_start found] at starts
    have whole := after.symm.trans starts.after
    have newline : '\n' ∈ one := by
      rcases frame.front_line with none | ⟨init, lines⟩
      · rw [none] at last
        exact absurd (List.suffix_nil.mp last) some
      · rw [lines] at last
        exact (List.suffix_concat_iff.mp last).elim (absurd · some) fun ⟨t, same, _⟩ => by simp [same]
    have other : '\n' ∉ margin := fun member => absurd (opens.plain _ member) (by decide)
    -- So the signature begins in front of the text, where nothing but white space stands.
    have member : c ∈ one := by
      rcases List.append_eq_append_iff.mp whole with ⟨more', split, -⟩ | ⟨rest', split, behind⟩
      · exact absurd (by simp [split, newline]) other
      · cases rest' with
        | nil => exact absurd (by simpa [split] using newline) other
        | cons d rest' =>
          rw [same] at behind
          obtain rfl : c = d := (List.cons.inj behind).1
          simp [split]
    rw [frame.front_blank c (last.subset member)] at ink
    cases ink

theorem Margined.frameable {p body : Pattern} (lined : Margined p body) (frame : Frame front tail) :
    Frameable front tail p := by
  have shape := lined.shape
  refine ⟨?_, ?_, lined.apart frame, fun framed => ?_⟩
  · rw [shape]
    simp [nullable, lined.full]
  · rw [shape]
    simpa [tails, nullable, lined.full] using lined.tails_inked
  · rw [shape]
    exact agree_of_anchored (by simp [simple, moves, Shape.margin, Shape.many, lined.plain]) framed
      (lineStart_framed frame ⟨framed.before, framed.after⟩)

theorem captures_framed {p : Pattern} (frame : Frame front tail) (fits : Frameable front tail p)
    (text : List Char) : captures p (front ++ (text ++ tail)) = captures p text := by
  have found := findAll_framed fits frame text
  unfold captures
  generalize p.findAll (front ++ (text ++ tail)) = ms, p.findAll text = ms' at found
  congr 1
  induction found with
  | nil => rfl
  | cons same _ ih => simp only [List.filterMap_cons, same.group?_eq, ih]

end

section

variable {front tail : List Char} (frame : Frame front tail)

include frame

-- No block closes in the white space behind the text.
theorem findClosing_framed {d : Delimiters} (plain : d.closing ≠ '/') (ink : isBlank d.closing = false)
    (text : List Char) (index : Nat) :
    findClosing d (text ++ tail) index = findClosing d text index := by
  refine Option.ext fun stop => ⟨fun closes => ?_, fun closes => findClosing_extend plain closes tail⟩
  refine findClosing_front plain closes ?_
  by_contra beyond
  have last := findClosing_closing closes
  rw [List.getElem?_append_right (by omega)] at last
  rw [frame.tail_blank _ (List.mem_of_getElem? last)] at ink
  cases ink

theorem indexOf_framed {c : Char} (ink : isBlank c = false) {text : List Char} {start : Nat}
    (inside : start ≤ text.length) : indexOf c start (text ++ tail) = indexOf c start text := by
  have clear : ∀ d ∈ tail, (d == c) = false := by
    intro d member
    by_contra same
    obtain rfl : d = c := by simpa using same
    rw [frame.tail_blank d member] at ink
    cases ink
  rw [indexOf_append inside, indexWhere_none clear, Option.or_none]

theorem declarationEnd_framed (text : List Char) (parameters : Nat) :
    declarationEnd (text ++ tail) parameters = declarationEnd text parameters := by
  unfold declarationEnd
  rw [findClosing_framed frame (by decide) (by decide)]
  cases closes : findClosing parentheses text parameters with
  | none => rfl
  | some behind =>
    have bounds := findClosing_bounds _ _ _ _ closes
    simp only [Option.bind_eq_bind, Option.bind_some,
      indexOf_framed frame (show isBlank '\x7b' = false by decide) bounds.2,
      indexOf_framed frame (show isBlank ';' = false by decide) bounds.2,
      findClosing_framed frame (show braces.closing ≠ '/' by decide) (by decide)]

theorem takeWhile_line (text : List Char) :
    (text ++ tail).takeWhile (· != '\n') = text.takeWhile (· != '\n') := by
  have stops : tail.takeWhile (· != '\n') = [] := by
    rcases frame.tail_line with none | ⟨rest, lines⟩
    · simp [none]
    · simp [lines]
  rw [List.takeWhile_append, stops]
  split
  next all => rw [List.append_nil, (List.takeWhile_prefix _).eq_of_length all]
  next => rfl

theorem opener_framed {text : List Char} (nothing : text.dropWhile isMargin = []) :
    opener (text ++ tail) = none := by
  rw [opener, List.dropWhile_append, nothing, List.isEmpty_nil, if_pos rfl]
  rcases frame.tail_line with rfl | ⟨rest, rfl⟩
  · rfl
  · rfl

theorem arrowEnd_framed {text : List Char} {behind : Nat} (inside : behind ≤ text.length) :
    arrowEnd (text ++ tail) behind = arrowEnd text behind := by
  have within : behind ≤ (text ++ tail).length := by
    rw [List.length_append]
    omega
  rw [arrowEnd_eq within, arrowEnd_eq inside, List.drop_append_of_le_length inside,
    takeWhile_line frame]
  by_cases nothing : (text.drop behind).dropWhile isMargin = []
  · have none : opener (text.drop behind) = none := by rw [opener, nothing]; rfl
    rw [opener_framed frame nothing, none]
  · obtain ⟨same, margin⟩ := opener_append nothing tail
    rw [same, margin]
    cases opens : opener (text.drop behind) with
    | none => rfl
    | some d =>
      exact findClosing_framed frame (opener_closing opens).1 (opener_closing opens).2 text _

theorem bodyEnd_framed (kind : Kind) {text : List Char} {behind : Nat} (pos : 0 < behind)
    (inside : behind ≤ text.length) : bodyEnd kind (front ++ (text ++ tail)) (front.length + behind) =
      (bodyEnd kind text behind).map (front.length + ·) := by
  rw [bodyEnd_shift kind front (text ++ tail) pos]
  congr 1
  cases kind with
  | method => exact findClosing_framed frame (by decide) (by decide) text (behind - 1)
  | arrow => exact arrowEnd_framed frame inside
  | function | component => exact declarationEnd_framed frame text (behind - 1)

end

theorem declarationShapes_margined {shape : DeclarationShape} (known : shape ∈ declarationShapes) :
    ∃ body, Margined shape.pattern body := by
  rw [declarationShapes_eq, List.mem_append, List.mem_singleton] at known
  rcases known with known | rfl
  · obtain ⟨body, lined⟩ := finders_lined known
    exact ⟨body, lined.toMargined⟩
  · exact ⟨componentBody, component_margined⟩

theorem slice_framed (front tail : List Char) {text : List Char} {start stop : Nat}
    (early : start ≤ text.length) (late : stop ≤ text.length) :
    ((front ++ (text ++ tail)).drop (front.length + start)).take
        (front.length + stop - (front.length + start)) = (text.drop start).take (stop - start) := by
  rw [List.drop_length_add_append, Nat.add_sub_add_left, List.drop_append_of_le_length early,
    List.take_append_of_le_length (by rw [List.length_drop]; omega)]

/-- The span behind so many more characters. -/
def Span.moved (size : Nat) (s : Span) : Span :=
  { s with start := size + s.start, stop := size + s.stop }

section

variable {front tail : List Char} (frame : Frame front tail) {least : Int} {text : List Char}

theorem unitStart_framed {m m' : Match} (same : FramedMatch front tail m m') :
    unitStart m = front.length + unitStart m' := by
  rw [unitStart, unitStart, same.index_eq, same.text_eq, Nat.add_assoc]

include frame

theorem spanOf_framed {p body : Pattern} (lined : Margined p body) (kind : Kind) {m m' : Match}
    (matched : Matches p text m') (same : FramedMatch front tail m m') :
    spanOf least (front ++ (text ++ tail)) kind m =
      (spanOf least text kind m').map (·.moved front.length) := by
  obtain ⟨margin, signature, opens⟩ := lined.opens matched
  have within := opens.endIndex_le matched
  have width := opens.endIndex_eq matched
  have pos := List.length_pos_of_ne_nil opens.inked.ne_nil
  have named : declaredName m = declaredName m' := by
    simp only [declaredName, funext same.group?_eq]
  simp only [spanOf, named, unitStart_framed same, same.endIndex_eq,
    slice_framed front tail (show unitStart m' ≤ text.length by omega) within,
    bodyEnd_framed frame kind (show 0 < m'.endIndex by omega) within]
  cases declaredName m' with
  | none => rfl
  | some name =>
    simp only [Option.bind_eq_bind, Option.bind_some]
    split
    · rfl
    · cases bodyEnd kind text m'.endIndex with
      | none => rfl
      | some stop =>
        have size : ((front.length + stop : Nat) : Int) - (front.length + unitStart m' : Nat) =
            (stop : Int) - unitStart m' := by omega
        simp only [Option.map_some, Option.bind_some, size]
        split <;> rfl

theorem addMatch_framed {shape : DeclarationShape} {body : Pattern} (lined : Margined shape.pattern body)
    (found : Found) {m m' : Match} (matched : Matches shape.pattern text m')
    (same : FramedMatch front tail m m') :
    addMatch least (front ++ (text ++ tail)) shape (found.map (·.moved front.length)) m =
      (addMatch least text shape found m').map (·.moved front.length) := by
  have here (s : Span) : ((s.moved front.length).start == unitStart m) = (s.start == unitStart m') := by
    simp [Span.moved, unitStart_framed same]
  have relabels (kind : Kind) : Found.relabel (found.map (·.moved front.length)) (unitStart m) kind =
      (found.relabel (unitStart m') kind).map (·.moved front.length) := by
    simp only [Found.relabel, List.map_map]
    refine List.map_congr_left fun s _ => ?_
    simp only [Function.comp, here]
    split <;> rfl
  have taken : (Found.at? (found.map (·.moved front.length)) (unitStart m)).isSome =
      (found.at? (unitStart m')).isSome := by
    simp only [Found.at?, List.find?_map, Function.comp_def, here, Option.isSome_map]
  simp only [addMatch, relabels, taken, spanOf_framed frame lined shape.kind matched same]
  split
  · rfl
  · split
    · rfl
    · cases spanOf least text shape.kind m' <;> simp

theorem addShape_framed {shape : DeclarationShape} (known : shape ∈ declarationShapes) (found : Found) :
    addShape least (front ++ (text ++ tail)) (found.map (·.moved front.length)) shape =
      (addShape least text found shape).map (·.moved front.length) := by
  obtain ⟨body, lined⟩ := declarationShapes_margined known
  have same := findAll_framed (lined.frameable frame) frame text
  have matched := findAll_matches shape.pattern text
  unfold addShape
  generalize shape.pattern.findAll (front ++ (text ++ tail)) = ms, shape.pattern.findAll text = ms'
    at same matched
  induction same generalizing found with
  | nil => rfl
  | @cons m m' ms ms' first _ ih =>
    rw [List.foldl_cons, List.foldl_cons,
      addMatch_framed frame lined found (matched m' List.mem_cons_self) first]
    exact ih _ fun other member => matched other (List.mem_cons_of_mem m' member)

theorem addShapes_framed (shapes : List DeclarationShape)
    (known : ∀ shape ∈ shapes, shape ∈ declarationShapes) (found : Found) :
    shapes.foldl (addShape least (front ++ (text ++ tail))) (found.map (·.moved front.length)) =
      (shapes.foldl (addShape least text) found).map (·.moved front.length) := by
  induction shapes generalizing found with
  | nil => rfl
  | cons shape rest ih =>
    rw [List.foldl_cons, List.foldl_cons, addShape_framed frame (known shape List.mem_cons_self)]
    exact ih (fun other member => known other (List.mem_cons_of_mem shape member)) _

theorem spans_framed : spans least (front ++ (text ++ tail)) =
    (spans least text).map (·.moved front.length) := by
  have all : declarationShapes.foldl (addShape least (front ++ (text ++ tail))) [] =
      (declarationShapes.foldl (addShape least text) []).map (·.moved front.length) :=
    addShapes_framed frame declarationShapes (fun _ => id) []
  rw [spans, spans, all]
  refine (List.map_mergeSort fun a _ b _ => ?_).symm
  simp [Span.moved]

end

/-- The unit so many lines further down. -/
def RawUnit.moved (lines : Nat) (u : RawUnit) : RawUnit :=
  { u with startLine := u.startLine + lines, endLine := u.endLine + lines }

section

variable {front tail : List Char}

theorem unitOf_framed (path : String) (imports types : List String) {text : List Char} {s : Span}
    (early : s.start ≤ text.length) (late : s.stop ≤ text.length) :
    unitOf path imports types (front ++ (text ++ tail)) (s.moved front.length) =
      (unitOf path imports types text s).moved (front.count '\n') := by
  have lines : ((front ++ (text ++ tail)).take (front.length + s.start)).count '\n' =
      front.count '\n' + (text.take s.start).count '\n' := by
    rw [List.take_length_add_append, List.take_append_of_le_length early, List.count_append]
  simp only [unitOf, Span.moved, RawUnit.moved, slice_framed front tail early late, lines]
  push_cast
  congr 1 <;> omega

theorem extract_of_frame (frame : Frame front tail) (least : Int) (path : String) (text : List Char) :
    extract least path (String.ofList (front ++ (text ++ tail))) =
      (extract least path (String.ofList text)).map (·.moved (front.count '\n')) := by
  simp only [extract, String.toList_ofList, spans_framed frame, importsOf, typesOf,
    captures_framed frame (imported_frameable frame),
    captures_framed frame (declaredType_frameable frame), List.map_map]
  refine List.map_congr_left fun s member => ?_
  have anchored := spans_anchored least text s member
  have covers := anchored.covers
  have within := anchored.within
  exact unitOf_framed path _ _ (by omega) within

end

/-- Lines with a newline behind each. -/
def joinLines (lines : List String) : String :=
  String.join (lines.map (· ++ "\n"))

section

variable {lines : List String} (margins : ∀ line ∈ lines, ∀ c ∈ line.toList, isMargin c = true)

theorem joinLines_toList (lines : List String) :
    (joinLines lines).toList = lines.flatMap fun line => line.toList ++ ['\n'] := by
  simp [joinLines, String.toList_join, List.flatMap_map]

include margins

theorem count_joinLines : (joinLines lines).toList.count '\n' = lines.length := by
  rw [joinLines_toList, List.count_flatMap]
  have single : lines.map (List.count '\n' ∘ fun line => line.toList ++ ['\n']) =
      lines.map fun _ => 1 := by
    refine List.map_congr_left fun line member => ?_
    have clear : '\n' ∉ line.toList := fun inside => absurd (margins line member _ inside) (by decide)
    simp [List.count_eq_zero.mpr clear]
  simp [single]

theorem frame_of_lines {tail : List Char} (ends : tail = [] ∨ ∃ rest, tail = '\n' :: rest)
    (blank : ∀ c ∈ tail, isMargin c = true ∨ c = '\n') : Frame (joinLines lines).toList tail := by
  have blanks (c : Char) (either : isMargin c = true ∨ c = '\n') : isBlank c = true := by
    rcases either with margin | rfl
    · exact isBlank_of_isMargin c margin
    · decide
  refine ⟨?_, ?_, fun c member => blanks c (blank c member), ends⟩
  · intro c member
    rw [joinLines_toList] at member
    obtain ⟨line, inside, member⟩ := List.mem_flatMap.mp member
    refine blanks c ((List.mem_append.mp member).imp (margins line inside c) List.mem_singleton.mp)
  · rw [joinLines_toList]
    rcases List.eq_nil_or_concat lines with rfl | ⟨init, last, rfl⟩
    · exact .inl rfl
    · exact .inr ⟨_, by rw [List.concat_eq_append, List.flatMap_append, List.flatMap_singleton,
        ← List.append_assoc]⟩

end

-- Blank lines around a text move its units down by as many lines as stand in front, and change nothing
-- else about them.
theorem extract_framed (least : Int) (path text tail : String) (lines : List String)
    (margins : ∀ line ∈ lines, ∀ c ∈ line.toList, isMargin c = true)
    (ends : tail = "" ∨ ∃ rest, tail = "\n" ++ rest)
    (blank : ∀ c ∈ tail.toList, isMargin c = true ∨ c = '\n') :
    extract least path (joinLines lines ++ text ++ tail) =
      (extract least path text).map (·.moved lines.length) := by
  have ends : tail.toList = [] ∨ ∃ rest, tail.toList = '\n' :: rest := by
    rcases ends with rfl | ⟨rest, rfl⟩
    · exact .inl rfl
    · exact .inr ⟨rest.toList, by simp⟩
  have whole := extract_of_frame (frame_of_lines margins ends blank) least path text.toList
  rw [count_joinLines margins, String.ofList_toList] at whole
  rw [← whole]
  congr 1
  rw [← String.toList_inj]
  simp

def arrowText : String :=
  "const f = (x) => x"

def arrowUnit : RawUnit :=
  unitOf "a.js" (importsOf arrowText.toList) (typesOf arrowText.toList) arrowText.toList
    ⟨0, 18, .arrow, "f", "const f = (x) =>".toList⟩

-- The body ends with the text, and then with the line.
theorem extract_framed_arrow : arrowUnit ∈ extract 10 "a.js" arrowText ∧
    arrowUnit.moved 2 ∈ extract 10 "a.js" (joinLines ["", " \t"] ++ arrowText ++ "\n\t\n") := by
  have member : arrowUnit ∈ extract 10 "a.js" arrowText := unitOf_mem (by decide +kernel)
  have margins : (["", " \t"].all (·.toList.all isMargin)) = true := by decide
  have blank : ("\n\t\n".toList.all fun c => isMargin c || c = '\n') = true := by decide
  simp only [List.all_eq_true, Bool.or_eq_true, decide_eq_true_eq] at margins blank
  refine ⟨member, ?_⟩
  rw [extract_framed 10 "a.js" arrowText "\n\t\n" ["", " \t"] margins
    (.inr ⟨"\t\n", by decide⟩) blank]
  exact List.mem_map_of_mem member

end CodeAtlas.Source
