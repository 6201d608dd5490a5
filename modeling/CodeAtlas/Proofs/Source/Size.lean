import CodeAtlas.Proofs.Source.Recurrence
import Mathlib.Data.List.DropRight

set_option autoImplicit false

/-! Sizes of units: a greater least size leaves out the units that are smaller, and lets nothing take
their place but methods that a function has been cut out of. -/

namespace CodeAtlas.Source

open CodeAtlas.Pattern CodeAtlas.Text

-- The characters of a span, with the white space behind its code.
def Span.size (s : Span) : Int :=
  (s.stop : Int) - s.start

section

variable {least more : Int} {text : List Char} {s t : Span}

theorem spanOf_more (le : least ≤ more) (kind : Kind) (m : Match) :
    spanOf more text kind m =
      (spanOf least text kind m).filter fun s => decide (more ≤ s.size) := by
  ext s
  rw [Option.filter_eq_some_iff, spanOf_eq_some, spanOf_eq_some]
  constructor
  · rintro ⟨name, stop, named, own, ends, large, rfl⟩
    refine ⟨⟨name, stop, named, own, ends, by omega, rfl⟩, decide_eq_true ?_⟩
    simp only [Span.size]
    omega
  · rintro ⟨⟨name, stop, named, own, ends, -, rfl⟩, large⟩
    have large := of_decide_eq_true large
    simp only [Span.size] at large
    exact ⟨name, stop, named, own, ends, by omega, rfl⟩

theorem located_more (le : least ≤ more) :
    located more text = (located least text).filter fun s => decide (more ≤ s.size) := by
  rw [located, located, List.filter_filterMap]
  congr 1
  funext c
  exact spanOf_more le c.1.kind c.2

theorem located_size (member : s ∈ located least text) : least ≤ s.size := by
  rw [located_more (Int.le_refl least)] at member
  simpa using (List.mem_filter.mp member).2

-- A span that is large enough stays the first one at its place.
theorem foundSpans_more (le : least ≤ more) (member : s ∈ foundSpans least text)
    (large : more ≤ s.size) : s ∈ foundSpans more text := by
  rw [mem_foundSpans] at member ⊢
  rw [located_more le]
  obtain ⟨here, before, after, split, clear⟩ := List.find?_eq_some_iff_append.mp member
  refine List.find?_eq_some_iff_append.mpr ⟨here, before.filter fun t => decide (more ≤ t.size),
    after.filter fun t => decide (more ≤ t.size), ?_, ?_⟩
  · rw [split, List.filter_append, List.filter_cons_of_pos (by simpa using large)]
  · exact fun t inside => clear t (List.mem_of_mem_filter inside)

/-- A function whose name is cut off from that of a method, behind the word `function`. -/
structure CutOff (s t : Span) : Prop where
  function : s.kind = .function
  method : t.kind = .method
  name_eq : t.name = "function" ++ s.name

theorem cutOff_of_glued {front before more more' : List Char}
    (glued : Declares s.signature (front ++ "function".toList) s.name.toList)
    (among : Among markWords front) (declares : Declares t.signature before t.name.toList)
    {words : List String} (led : Led t.kind words before) (function : s.kind = .function)
    (same : s.signature ++ more = t.signature ++ more') : CutOff s t := by
  obtain ⟨method, name⟩ := glued_apart among glued led declares same
  exact ⟨function, method, String.toList_inj.mp (by simpa using name)⟩

-- Two spans at one place are the same, or one is cut out of the other.
theorem located_apart (one : s ∈ located least text) (two : t ∈ located least text)
    (same : s.start = t.start) : s = t ∨ CutOff s t ∨ CutOff t s := by
  obtain ⟨before, declares, lead, anchored⟩ := located_declares one
  obtain ⟨before', declares', lead', anchored'⟩ := located_declares two
  obtain ⟨more, split⟩ := anchored.signature_prefix
  obtain ⟨more', split'⟩ := anchored'.signature_prefix
  rw [← same, ← split] at split'
  have unique (kinds : s.kind = t.kind) : s = t := by
    obtain ⟨shape, known, m, found, spanned⟩ := mem_located.mp one
    obtain ⟨shape', known', m', found', spanned'⟩ := mem_located.mp two
    obtain rfl : shape = shape' := finders_kind known known'
      (by rw [← spanOf_kind spanned, ← spanOf_kind spanned', kinds])
    have start : unitStart m = unitStart m' := by
      rw [← spanOf_start spanned, ← spanOf_start spanned', same]
    rw [spanOf_unique known found found' start, spanned'] at spanned
    exact (Option.some.inj spanned).symm
  generalize kind : s.kind = k at lead unique
  generalize kind' : t.kind = k' at lead' unique
  cases lead with
  | glued front among =>
    cases lead' with
    | glued front' among' => exact .inl (unique rfl)
    | apart words' led' =>
      exact .inr (.inl (cutOff_of_glued declares among declares' (kind' ▸ led') kind split'.symm))
  | apart words led =>
    cases lead' with
    | glued front' among' =>
      exact .inr (.inr (cutOff_of_glued declares' among' declares (kind ▸ led) kind' split'))
    | apart words' led' => exact .inl (unique (led.unique declares led' declares' split'.symm))

theorem located_kind {shapes : List DeclarationShape}
    (member : s ∈ (candidates text shapes).filterMap (·.span? least text)) :
    ∃ shape ∈ shapes, s.kind = shape.kind := by
  obtain ⟨c, candidate, spanned⟩ := List.mem_filterMap.mp member
  exact ⟨c.1, (mem_candidates.mp candidate).1, spanOf_kind spanned⟩

-- Functions have their turn first.
theorem functions_first (member : s ∈ located least text) (function : s.kind = .function)
    (first : (located least text).at? s.start = some t) : t.kind = .function := by
  obtain ⟨shape, others, split, kind, apart⟩ : ∃ shape others, finders = [shape] ++ others ∧
      shape.kind = .function ∧ ∀ other ∈ others, other.kind ≠ .function :=
    ⟨_, _, rfl, rfl, by decide⟩
  rw [located, split, candidates, List.flatMap_append, List.filterMap_append] at member first
  rcases List.mem_append.mp member with early | late
  · rw [at?_append, Option.or_of_isSome ((at?_isSome _ _).mpr (List.mem_map_of_mem early))] at first
    obtain ⟨other, only, same⟩ := located_kind (List.mem_of_find?_eq_some first)
    rw [same, List.mem_singleton.mp only, kind]
  · obtain ⟨other, inside, same⟩ := located_kind late
    exact absurd (same.symm.trans function) (apart other inside)

-- A span that is found only where smaller ones do not count is a method that a smaller function has
-- been cut out of.
theorem foundSpans_less (le : least ≤ more) (member : s ∈ foundSpans more text) :
    s ∈ foundSpans least text ∨
      ∃ t ∈ foundSpans least text, t.start = s.start ∧ t.size < more ∧ CutOff t s := by
  have here := foundSpans_located member
  rw [located_more le] at here
  have here := List.mem_of_mem_filter here
  obtain ⟨t, inside, start⟩ := foundSpans_complete here
  rcases located_apart here (foundSpans_located inside) start.symm with rfl | cut | cut
  · exact .inl inside
  · rw [mem_foundSpans, start] at inside
    have function := functions_first here cut.function inside
    rw [cut.method] at function
    cases function
  · refine .inr ⟨t, inside, start, ?_, cut⟩
    -- The function would keep its place if it counted.
    by_contra large
    have there := foundSpans_kept.at?_mem (foundSpans_more le inside (Int.not_lt.mp large))
    rw [start, foundSpans_kept.at?_mem member, Option.some.injEq] at there
    have kind := cut.function
    rw [← there, cut.method] at kind
    cases kind

end

/-- What a signature ends with. -/
def ending : Kind → String
  | .function | .component => "("
  | .arrow => "=>"
  | .method => "\x7b"

theorem finders_ending {shape : DeclarationShape} (known : shape ∈ finders) {body : Pattern}
    (lined : Lined shape.pattern body) {a c : Cursor} (reached : Reaches body a c) :
    ∃ one, Passes a (one ++ (ending shape.kind).toList) c := by
  have last (ps : List Pattern) (reached : Reaches (Shape.all (ps ++ [Shape.word (ending shape.kind)])) a c) :
      ∃ one, Passes a (one ++ (ending shape.kind).toList) c := by
    obtain ⟨b, first, word⟩ := reaches_all_append reached
    obtain ⟨one, passed, -⟩ := reaches_takes _ _ _ first
    obtain ⟨two, passed', spells⟩ := reaches_spells _ _ _ word
    rw [← spells_word spells]
    exact ⟨one, passed.trans passed'⟩
  rcases finders_body known lined with ⟨kind, rfl⟩ | ⟨kind, rfl⟩ | ⟨kind, rfl⟩
  · exact last functionBody.dropLast (by rw [kind]; exact reached)
  · exact last arrowBody.dropLast (by rw [kind]; exact reached)
  · exact last methodBody.dropLast (by rw [kind]; exact reached)

/-- The arrow of the signature leads to the rest of its line and not to a body with delimiters. -/
def RawUnit.endsWithLine (u : RawUnit) : Bool :=
  hasEnd u.signature "=>" && (opener (u.code.toList.drop u.signature.toList.length)).isNone

/-- The number of characters of a unit. If it ends with its line, the white space at the end of the
line counts. -/
def RawUnit.size (text : List Char) (u : RawUnit) : Int :=
  u.code.toList.length +
    if u.endsWithLine then ((lineText text u.endLine.toNat).rtakeWhile isBlank).length else 0

section

variable {least : Int} {text code blank rest : List Char} {behind : Nat} {s : Span}

-- Of the bodies of an arrow only the rest of a line can end in white space.
theorem arrowEnd_blank (inside : behind ≤ code.length)
    (inked : code.drop behind ≠ [] → (code.drop behind).dropWhile isMargin ≠ [])
    (blanks : ∀ c ∈ blank, isBlank c = true)
    (ends : arrowEnd (code ++ (blank ++ rest)) behind = some (code ++ blank).length) :
    match opener (code.drop behind) with
    | some _ => blank = []
    | none => (blank ++ rest).takeWhile (· != '\n') = blank := by
  have within : behind ≤ (code ++ (blank ++ rest)).length := by
    rw [List.length_append]
    omega
  have width : behind + (code.drop behind).length = code.length := by
    rw [List.length_drop]
    omega
  rw [arrowEnd_eq within, List.drop_append_of_le_length inside] at ends
  have line (clear : opener (code.drop behind ++ (blank ++ rest)) = none) :
      (blank ++ rest).takeWhile (· != '\n') = blank := by
    rw [clear, Option.some.injEq, List.length_append, ← width, Nat.add_assoc] at ends
    have size := (takeWhile_beyond (Nat.add_left_cancel ends)).2
    exact (List.prefix_of_prefix_length_le (List.takeWhile_prefix _) (List.prefix_append blank rest)
      (Nat.le_of_eq size)).eq_of_length size
  by_cases nothing : code.drop behind = []
  · rw [nothing, List.nil_append] at ends line
    cases opens : opener (blank ++ rest) with
    | none =>
      rw [nothing]
      exact line opens
    | some d =>
      -- The body would end where it begins.
      rw [opens] at ends
      obtain rfl := blank_of_closing (opener_closing opens).2 blanks ends
      have bounds := findClosing_bounds _ _ _ _ ends
      rw [nothing, List.length_nil] at width
      rw [List.append_nil] at bounds
      omega
  · obtain ⟨same, -⟩ := opener_append (inked nothing) (blank ++ rest)
    cases opens : opener (code.drop behind) with
    | none => exact line (same.trans opens)
    | some d =>
      rw [same, opens] at ends
      exact blank_of_closing (opener_closing opens).2 blanks ends

theorem located_ending (member : s ∈ located least text) :
    ∃ one, s.signature = one ++ (ending s.kind).toList := by
  obtain ⟨shape, known, m, found, spanned⟩ := mem_located.mp member
  have matched := findAll_matches _ _ _ found
  obtain ⟨body, lined⟩ := finders_lined known
  obtain ⟨margin, signature, between, opens, -, passed, reached⟩ := lined.split matched
  obtain ⟨one, again⟩ := finders_ending known lined reached
  obtain ⟨name, stop, -, -, -, -, rfl⟩ := spanOf_eq_some.mp spanned
  exact ⟨one, by rw [opens.written matched, passed.unique again]⟩

-- The line of a last character has nothing behind it but the white space at its end.
theorem lineText_last {before : List Char} {c : Char} (ink : isBlank c = false)
    (blanks : ∀ d ∈ blank, isBlank d = true)
    (line : (blank ++ rest).takeWhile (· != '\n') = blank) :
    (lineText (before ++ c :: (blank ++ rest))
      (lineAt (before ++ c :: (blank ++ rest)) before.length)).rtakeWhile isBlank = blank := by
  have newline : c ≠ '\n' := by
    rintro rfl
    exact absurd ink (by decide)
  obtain ⟨front, last⟩ := lineText_at before (c :: (blank ++ rest))
  rw [List.takeWhile_cons_of_pos (by simpa using newline), line] at last
  have back : (front ++ c :: blank).reverse = blank.reverse ++ c :: front.reverse := by simp
  rw [lineAt_length, last, List.rtakeWhile, back, List.takeWhile_append_of_pos (by simpa using blanks),
    List.takeWhile_cons_of_neg (by simp [ink]), List.append_nil, List.reverse_reverse]

theorem Span.Coded.last_line (coded : s.Coded text blank rest) (anchored : s.Anchored text)
    (line : (blank ++ rest).takeWhile (· != '\n') = blank) (path : String)
    (imports types : List String) :
    (lineText text (unitOf path imports types text s).endLine.toNat).rtakeWhile isBlank = blank := by
  have placed := anchored.placed path imports types
  obtain ⟨init, c, code, ink⟩ := placed.inked
  have covers := anchored.covers
  have within := anchored.within
  have place : s.start + ((unitOf path imports types text s).code.toList.length - 1) =
      (text.take s.start ++ init).length := by
    rw [code, List.length_append, List.length_append, List.length_take, Nat.min_eq_left (by omega)]
    rfl
  have split : text = text.take s.start ++ init ++ c :: (blank ++ rest) := by
    rw [unitOf_code, String.toList_ofList] at code
    have split := coded.split
    rw [code] at split
    simpa [split] using (List.take_append_drop s.start text).symm
  rw [placed.endLine_eq, place, Int.toNat_natCast]
  generalize text.take s.start ++ init = before at split
  rw [split]
  exact lineText_last ink coded.blanks line

theorem unitOf_endsWithLine (member : s ∈ located least text) {more : List Char}
    (code : s.code text = s.signature ++ more) (path : String) (imports types : List String) :
    (unitOf path imports types text s).endsWithLine = (s.kind == .arrow && (opener more).isNone) := by
  have behind : (s.code text).drop s.signature.length = more := by rw [code, List.drop_left]
  have arrow : hasEnd (unitOf path imports types text s).signature "=>" = (s.kind == .arrow) := by
    obtain ⟨one, last⟩ := located_ending member
    simp only [hasEnd, unitOf, String.toList_ofList, last, List.isSuffixOf, List.reverse_append]
    cases s.kind <;> simp [ending] <;> rfl
  have signature : (unitOf path imports types text s).signature.toList = s.signature :=
    String.toList_ofList
  rw [RawUnit.endsWithLine, arrow, signature, unitOf_code, String.toList_ofList, behind]

theorem unitOf_size (member : s ∈ located least text) (path : String) (imports types : List String) :
    (unitOf path imports types text s).size text = s.size := by
  obtain ⟨shape, known, m, found, spanned⟩ := mem_located.mp member
  obtain ⟨-, -, -, anchored⟩ := located_declares member
  obtain ⟨blank, rest, coded⟩ := anchored.coded
  obtain ⟨more, code⟩ := coded.signed
  have ends := span_body known (findAll_matches _ _ _ found) spanned coded
  rw [← spanOf_kind spanned] at ends
  have behind : (s.code text).drop s.signature.length = more := by rw [code, List.drop_left]
  have counted : (if (unitOf path imports types text s).endsWithLine then
      ((lineText text (unitOf path imports types text s).endLine.toNat).rtakeWhile isBlank).length
      else 0) = blank.length := by
    rw [unitOf_endsWithLine member code]
    cases kind : s.kind with
    | method =>
      rw [kind] at ends
      have full := blank_of_closing (by decide) coded.blanks ends
      simp [full]
    | function | component =>
      rw [kind] at ends
      obtain ⟨_, _, -, -, -, closes⟩ := declarationEnd_eq_some.mp ends
      have full := blank_of_closing (by decide) coded.blanks closes
      simp [full]
    | arrow =>
      rw [kind] at ends
      have inked : more ≠ [] → more.dropWhile isMargin ≠ [] := by
        intro some nothing
        have ink := trimRight_last ((text.drop s.start).take (s.stop - s.start)) (more.getLast some) (by
          rw [← Span.code, code, List.getLast?_append_of_ne_nil _ some, List.getLast?_eq_some_getLast])
        have margin := List.dropWhile_eq_nil_iff.mp nothing _ (List.getLast_mem some)
        rw [isBlank_of_isMargin _ margin] at ink
        cases ink
      have last := arrowEnd_blank (by rw [code, List.length_append]; omega) (by rwa [behind])
        coded.blanks ends
      rw [behind] at last
      cases opens : opener more with
      | some d =>
        rw [opens] at last
        simp [last]
      | none =>
        rw [opens] at last
        rw [coded.last_line anchored last]
        simp
  rw [RawUnit.size, counted, unitOf_code, String.toList_ofList, Span.size, coded.stop_eq,
    List.length_append]
  omega

theorem unitOf_settled_size (member : s ∈ foundSpans least text) (path : String)
    (imports types : List String) :
    (unitOf path imports types text (s.settled text)).size text = s.size := by
  rw [settled_eq, ← unitOf_size (foundSpans_located member) path imports types]
  rfl

end

section

variable {least more : Int} (le : least ≤ more) (path text : String)

include le

theorem extract_sublist :
    ((extract least path text).filter fun u => decide (more ≤ u.size text.toList)).Sublist
      (extract more path text) := by
  have antisymm : Std.Antisymm fun u v : RawUnit => u.startLine < v.startLine :=
    ⟨fun u v lt gt => absurd lt (Int.lt_asymm gt)⟩
  have irrefl : Std.Irrefl fun u v : RawUnit => u.startLine < v.startLine :=
    ⟨fun u => Int.lt_irrefl u.startLine⟩
  have increase := (extract_increases least path text).filter
    fun u => decide (more ≤ u.size text.toList)
  refine List.sublist_of_subperm_of_pairwise (List.subperm_of_subset increase.nodup ?_) increase
    (extract_increases more path text)
  intro u member
  obtain ⟨member, large⟩ := List.mem_filter.mp member
  obtain ⟨s, found, rfl⟩ := mem_extract.mp member
  rw [unitOf_settled_size found, decide_eq_true_eq] at large
  exact mem_extract.mpr ⟨s, foundSpans_more le found large, rfl⟩

theorem extract_less {u : RawUnit} (member : u ∈ extract more path text) :
    u ∈ extract least path text ∨ (u.kind = Kind.method.label ∧ ∃ v ∈ extract least path text,
      v.kind = Kind.function.label ∧ v.size text.toList < more ∧ v.startLine = u.startLine ∧
        u.name = "function" ++ v.name) := by
  obtain ⟨s, found, rfl⟩ := mem_extract.mp member
  rcases foundSpans_less le found with same | ⟨t, inside, start, small, cut⟩
  · exact .inl (mem_extract.mpr ⟨s, same, rfl⟩)
  · have plain := Refined.not_method (foundSpans_located found) cut.method
    have same : s.settled text.toList = s := if_neg plain
    have same' : t.settled text.toList = t := if_neg (start ▸ plain)
    refine .inr ⟨?_, _, mem_extract.mpr ⟨t, inside, rfl⟩, ?_, ?_, ?_, ?_⟩
    · rw [same, unitOf, cut.method]
    · rw [same', unitOf, cut.function]
    · rwa [unitOf_settled_size inside]
    · rw [same, same', unitOf, unitOf, start]
    · rw [same, same']
      exact cut.name_eq

end

-- A greater least size filters the units by their size. Where a function is cut out of a method, the
-- method may come to light when the function is too small.
theorem extract_filtered {least more : Int} (le : least ≤ more) (path text : String) :
    (∀ u ∈ extract more path text, more ≤ u.size text.toList) ∧
      ((extract least path text).filter fun u => decide (more ≤ u.size text.toList)).Sublist
        (extract more path text) ∧
      ∀ u ∈ extract more path text, u ∈ extract least path text ∨
        (u.kind = Kind.method.label ∧ ∃ v ∈ extract least path text,
          v.kind = Kind.function.label ∧ v.size text.toList < more ∧ v.startLine = u.startLine ∧
            u.name = "function" ++ v.name) := by
  refine ⟨fun u member => ?_, extract_sublist le path text, fun u member => extract_less le path text member⟩
  obtain ⟨s, found, rfl⟩ := mem_extract.mp member
  rw [unitOf_settled_size found]
  exact located_size (foundSpans_located found)

def paddedText : String :=
  "const f = (x) => x           \n"

def paddedUnit : RawUnit :=
  unitOf "a.js" (importsOf paddedText.toList) (typesOf paddedText.toList) paddedText.toList
    ⟨0, 29, .arrow, "f", "const f = (x) =>".toList⟩

theorem paddedUnit_mem : paddedUnit ∈ extract 20 "a.js" paddedText :=
  unitOf_mem (by decide +kernel)

theorem extract_filtered_padded : (10 : Int) ≤ 20 ∧ paddedUnit ∈ extract 10 "a.js" paddedText ∧
    (20 : Int) ≤ paddedUnit.size paddedText.toList ∧
    ((extract 10 "a.js" paddedText).filter fun u => decide (20 ≤ u.size paddedText.toList)).Sublist
      (extract 20 "a.js" paddedText) := by
  obtain ⟨large, kept, known⟩ := extract_filtered (by decide : (10 : Int) ≤ 20) "a.js" paddedText
  refine ⟨by decide, ?_, large paddedUnit paddedUnit_mem, kept⟩
  refine (known paddedUnit paddedUnit_mem).resolve_right ?_
  rintro ⟨method, -⟩
  exact absurd method (by decide)

-- The white space at the end of its line lets the unit pass, though its code is too short.
theorem extract_counts_padding : ∃ u ∈ extract 20 "a.js" paddedText,
    (u.code.toList.length : Int) < 20 :=
  ⟨paddedUnit, paddedUnit_mem, by decide +kernel⟩

end CodeAtlas.Source
