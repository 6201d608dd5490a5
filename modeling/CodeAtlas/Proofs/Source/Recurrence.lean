import CodeAtlas.Proofs.Source.Anchoring
import CodeAtlas.Proofs.Source.Body
import CodeAtlas.Proofs.Source.Margin
import CodeAtlas.Proofs.Source.Naming

set_option autoImplicit false

/-! Declarations taken out of their text: what a shape takes at the start of a line it takes at the
start of the code alone, and no other shape takes it there. -/

namespace CodeAtlas.Source

open CodeAtlas.Pattern CodeAtlas.Text

/-- No identifier of the text begins with the word `function` and goes on behind it. -/
def Unglued (text : List Char) : Prop :=
  ∀ before c rest, text = before ++ ("function".toList ++ c :: rest) → Edge before →
    isNameRest c = false

-- Then the words in front of a name are parted from it.
theorem Unglued.led {text before signature more lead name : List Char} {kind : Kind}
    (unglued : Unglued text) (edge : Edge before) (split : text = before ++ (signature ++ more))
    (declares : Declares signature lead name) (leads : Lead kind lead) :
    ∃ words, Led kind words lead := by
  cases leads with
  | apart words led => exact ⟨words, led⟩
  | glued front among =>
    obtain ⟨used, -, phrase⟩ := among
    obtain ⟨gap, d, rest, same, -⟩ := declares.split
    obtain ⟨c, others, rfl, start, -⟩ := declares.named
    have whole : text = before ++ front ++
        ("function".toList ++ c :: (others ++ (gap ++ d :: rest) ++ more)) := by
      rw [split, same]
      simp
    have other := unglued _ c _ whole (edge.append phrase.edge)
    rw [isNameRest_of_isNameStart c start] at other
    cases other

theorem FirstOfLine.edge {text : List Char} {start : Nat} (first : FirstOfLine text start) :
    Edge (text.take start) := by
  obtain ⟨before, margin, c, rest, rfl, rfl, line, plain, -⟩ := first
  rw [List.take_left]
  have front : Edge before := by
    rcases line with rfl | ⟨init, rfl⟩
    · exact edge_nil
    · exact edge_concat (by decide)
  exact front.append (edge_of_gap fun d member =>
    not_isIdentifierChar_of_isBlank (isBlank_of_isMargin d (plain d member)))

theorem finders_kind {shape other : DeclarationShape} (member : shape ∈ finders)
    (member' : other ∈ finders) (same : shape.kind = other.kind) : shape = other := by
  rcases mem_finders.mp member with rfl | rfl | rfl <;>
    rcases mem_finders.mp member' with rfl | rfl | rfl <;>
      first | rfl | cases same

theorem start_atLine {code : List Char} (ink : ∃ c more, code = c :: more ∧ isBlank c = false) :
    AtLine (.start code) [] code :=
  ⟨rfl, rfl, by simp, ink⟩

section

variable {p body : Pattern} {text code tail margin signature : List Char} {m : Match}

theorem declaredName_congr {m' : Match} (same : m.stop.groups = m'.stop.groups) :
    declaredName m = declaredName m' := by
  have groups (index : Nat) : m.group? index = m'.group? index := by
    simp only [Match.group?, Cursor.group?, same]
  simp only [declaredName, funext groups]

/-- A match whose signature stands at the beginning of a code that is written there. -/
structure Written (p : Pattern) (text code tail : List Char) (m : Match) (margin signature : List Char) :
    Prop where
  matched : Matches p text m
  opens : Opens m margin signature
  split : signature ++ m.stop.after = code ++ tail
  short : signature.length ≤ code.length

theorem Written.prefix (written : Written p text code tail m margin signature) :
    ∃ more, code = signature ++ more ∧ m.stop.after = more ++ tail := by
  have front : signature <+: code := by
    have whole : signature <+: code ++ tail := by
      rw [← written.split]
      exact List.prefix_append signature m.stop.after
    exact List.prefix_of_prefix_length_le whole (List.prefix_append code tail) written.short
  obtain ⟨more, rfl⟩ := front
  refine ⟨more, rfl, ?_⟩
  have split := written.split
  rw [List.append_assoc] at split
  exact List.append_cancel_left split

theorem Written.ink (written : Written p text code tail m margin signature) :
    ∃ c more, code = c :: more ∧ isBlank c = false := by
  obtain ⟨more, rfl, -⟩ := written.prefix
  obtain ⟨c, rest, same, ink⟩ := written.opens.inked.first
  exact ⟨c, rest ++ more, by rw [same]; rfl, ink⟩

theorem Written.atLine (written : Written p text code tail m margin signature) :
    AtLine m.start margin (code ++ tail) := by
  rw [← written.split]
  exact written.opens.atLine written.matched

-- The match is made at the start of the code again.
theorem Written.recurs (written : Written p text code tail m margin signature)
    (lined : Margined p body) (found : matchAt p m.start = some m) :
    ∃ m', matchAt p (.start code) = some m' ∧ Cut tail m.stop m'.stop := by
  have agree := lined.agree written.atLine (start_atLine written.ink)
  refine (agree.something m found).resolve_left ?_
  obtain ⟨more, -, after⟩ := written.prefix
  rw [m.stop.left_eq, after, List.length_append]
  omega

theorem Written.opens_own (written : Written p text code tail m margin signature)
    (lined : Margined p body) {m' : Match} (found : matchAt p (.start code) = some m')
    (cut : Cut tail m.stop m'.stop) : Matches p code m' ∧ Opens m' [] signature := by
  have within : (Cursor.start code).Within code := by simp [Cursor.Within, Cursor.start]
  have matched := matchAt_matches p code _ m' within found
  obtain ⟨margin', signature', opens⟩ := lined.opens matched
  obtain ⟨more, same, after⟩ := written.prefix
  have rest : m'.stop.after = more := by
    rw [cut.after] at after
    exact List.append_cancel_right after
  have text : m'.text = signature := by
    have whole := matched.text_eq
    rw [matchAt_start found, rest, same] at whole
    simp only [Cursor.start, List.reverse_nil, List.nil_append] at whole
    exact (List.append_cancel_right whole).symm
  have whole := opens.text_eq
  rw [text] at whole
  cases margin' with
  | nil =>
    rw [List.nil_append] at whole
    exact ⟨matched, whole ▸ opens⟩
  | cons c margin' =>
    obtain ⟨d, others, first, ink⟩ := written.opens.inked.first
    rw [first] at whole
    obtain ⟨rfl, -⟩ := List.cons.inj whole
    rw [isBlank_of_isMargin d (opens.plain d List.mem_cons_self)] at ink
    cases ink

end

/-- The text of a span, trimmed behind. -/
def Span.code (text : List Char) (s : Span) : List Char :=
  trimRight ((text.drop s.start).take (s.stop - s.start))

theorem unitOf_code (path : String) (imports types : List String) (text : List Char) (s : Span) :
    (unitOf path imports types text s).code = String.ofList (s.code text) := rfl

/-- A span and the code that is written there, white space and the rest of the text behind it. -/
structure Span.Coded (text : List Char) (s : Span) (blank rest : List Char) : Prop where
  split : text.drop s.start = s.code text ++ (blank ++ rest)
  blanks : ∀ c ∈ blank, isBlank c = true
  stop_eq : s.stop = s.start + (s.code text ++ blank).length
  signed : ∃ more, s.code text = s.signature ++ more

theorem Span.Anchored.coded {text : List Char} {s : Span} (anchored : s.Anchored text) :
    ∃ blank rest, s.Coded text blank rest := by
  obtain ⟨more, code, -⟩ := anchored.code_split
  obtain ⟨blank, slice, blanks⟩ := trimRight_append_blank ((text.drop s.start).take (s.stop - s.start))
  have covers := anchored.covers
  have within := anchored.within
  have width : (s.code text ++ blank).length = s.stop - s.start := by
    rw [Span.code, ← slice, List.length_take, List.length_drop]
    omega
  refine ⟨blank, (text.drop s.start).drop (s.stop - s.start), ?_, blanks, by omega, more, code⟩
  rw [← List.append_assoc, Span.code, ← slice, List.take_append_drop]

section

variable {least : Int} {text blank rest : List Char} {shape : DeclarationShape} {m : Match} {s : Span}

theorem span_written (known : shape ∈ finders) (matched : Matches shape.pattern text m)
    (spanned : spanOf least text shape.kind m = some s) (coded : s.Coded text blank rest) :
    ∃ margin, Written shape.pattern text (s.code text) (blank ++ rest) m margin s.signature := by
  obtain ⟨body, lined⟩ := finders_lined known
  obtain ⟨margin, signature, opens⟩ := lined.opens matched
  obtain ⟨name, stop, -, -, -, -, same⟩ := spanOf_eq_some.mp spanned
  have signed : s.signature = signature := by rw [same, opens.written matched]
  have start : s.start = unitStart m := by rw [same]
  obtain ⟨more, code⟩ := coded.signed
  refine ⟨margin, matched, signed ▸ opens, ?_, ?_⟩
  · rw [← coded.split, start, opens.drop_eq matched, signed]
  · rw [code, List.length_append]
    omega

-- The body ends with the code, or behind the white space that follows it.
theorem span_body (known : shape ∈ finders) (matched : Matches shape.pattern text m)
    (spanned : spanOf least text shape.kind m = some s) (coded : s.Coded text blank rest) :
    bodyEnd shape.kind (s.code text ++ (blank ++ rest)) s.signature.length =
      some (s.code text ++ blank).length := by
  obtain ⟨margin, written⟩ := span_written known matched spanned coded
  obtain ⟨name, stop, -, -, ends, -, same⟩ := spanOf_eq_some.mp spanned
  have within := written.opens.endIndex_le matched
  have place := written.opens.endIndex_eq matched
  have pos := List.length_pos_of_ne_nil written.opens.inked.ne_nil
  have start : s.start = unitStart m := by rw [same]
  have size : (text.take s.start).length = s.start := by
    rw [List.length_take]
    omega
  have whole : text = text.take s.start ++ (s.code text ++ (blank ++ rest)) := by
    rw [← coded.split, List.take_append_drop]
  have index : m.endIndex = (text.take s.start).length + s.signature.length := by omega
  rw [whole, index, bodyEnd_shift _ _ _ pos] at ends
  obtain ⟨stop', ends, last⟩ := Option.map_eq_some_iff.mp ends
  have stopped : s.stop = stop := by rw [same]
  have width := coded.stop_eq
  rw [ends]
  congr 1
  omega

-- The code alone gives the same span, but for its place.
theorem spanOf_own (known : shape ∈ finders) (found : m ∈ shape.pattern.findAll text)
    (spanned : spanOf least text shape.kind m = some s) (coded : s.Coded text blank rest)
    (large : least ≤ (s.code text).length) :
    ∃ m' ∈ shape.pattern.findAll (s.code text), spanOf least (s.code text) shape.kind m' =
      some ⟨0, (s.code text).length, s.kind, s.name, s.signature⟩ := by
  have matched := findAll_matches _ _ _ found
  obtain ⟨margin, written⟩ := span_written known matched spanned coded
  obtain ⟨body, lined⟩ := finders_lined known
  obtain ⟨m', found', cut⟩ := written.recurs lined.toMargined (findAll_matchAt found)
  obtain ⟨matched', opens⟩ := written.opens_own lined.toMargined found' cut
  obtain ⟨name, stop, named, own, -, -, same⟩ := spanOf_eq_some.mp spanned
  have start : unitStart m' = 0 := by
    rw [opens.unitStart_eq, Match.index, matchAt_start found']
    rfl
  have behind : m'.endIndex = s.signature.length := by
    rw [opens.endIndex_eq matched', start, Nat.zero_add]
  refine ⟨m', findAll_first found', spanOf_eq_some.mpr ⟨name, (s.code text).length, ?_, own, ?_, ?_, ?_⟩⟩
  · rw [← declaredName_congr cut.groups, named]
  · obtain ⟨more, code⟩ := coded.signed
    rw [behind]
    refine bodyEnd_own shape.kind ?_ coded.blanks (span_body known matched spanned coded)
    rw [code, List.length_append]
    omega
  · rw [start]
    omega
  · rw [opens.written matched', same, start]

-- Two matches of a shape at one place give one span.
theorem spanOf_unique (known : shape ∈ finders) {m' : Match} (found : m ∈ shape.pattern.findAll text)
    (found' : m' ∈ shape.pattern.findAll text) (same : unitStart m = unitStart m') (kind : Kind) :
    spanOf least text kind m = spanOf least text kind m' := by
  obtain ⟨body, lined⟩ := finders_lined known
  have matched := findAll_matches _ _ _ found
  have matched' := findAll_matches _ _ _ found'
  have index : m.start.index = m'.start.index :=
    Nat.le_antisymm (lined.toMargined.index_le matched' matched same.symm)
      (lined.toMargined.index_le matched matched' same)
  obtain ⟨before, after⟩ := matched.within.unique matched'.within index
  obtain ⟨m'', again, cut⟩ := lined.toMargined.same before after (findAll_matchAt found)
  obtain rfl : m'' = m' := Option.some.inj (again.symm.trans (findAll_matchAt found'))
  have stop : m.endIndex = m''.endIndex := by
    have size := (matched.passes.within matched.within).size
    have size' := (matched'.passes.within matched'.within).size
    have left := cut.left_eq
    rw [List.length_nil] at left
    unfold Match.endIndex
    omega
  have named : declaredName m = declaredName m'' := declaredName_congr cut.groups
  simp only [spanOf, named, stop, same]

end

-- The span of a unit is found in its code alone, at the very start.
theorem foundSpans_own {least : Int} {text : List Char} {s : Span} (unglued : Unglued text)
    (member : s ∈ foundSpans least text) (large : least ≤ (s.code text).length) :
    (⟨0, (s.code text).length, s.kind, s.name, s.signature⟩ : Span) ∈
      foundSpans least (s.code text) := by
  obtain ⟨shape, known, m, found, spanned⟩ := foundSpans_origin member
  obtain ⟨before, declares, lead, anchored⟩ := foundSpans_declares member
  obtain ⟨blank, rest, coded⟩ := anchored.coded
  obtain ⟨m', found', own⟩ := spanOf_own known found spanned coded large
  obtain ⟨t, inside, first⟩ := foundSpans_complete (mem_located.mpr ⟨shape, known, m', found', own⟩)
  obtain ⟨other, known', m'', found'', spanned'⟩ := foundSpans_origin inside
  obtain ⟨before', declares', lead', anchored'⟩ := foundSpans_declares inside
  -- Both signatures stand at the start of the code, so the same words lead to their names.
  obtain ⟨more, code⟩ := coded.signed
  obtain ⟨more', code'⟩ := anchored'.signature_prefix
  rw [first, List.drop_zero] at code'
  have edge := anchored.first.edge
  have whole : text = text.take s.start ++ (s.code text ++ (blank ++ rest)) := by
    rw [← coded.split, List.take_append_drop]
  obtain ⟨words, led⟩ := unglued.led edge
    (by rwa [code, List.append_assoc] at whole) declares lead
  obtain ⟨words', led'⟩ := unglued.led edge
    (by rwa [← code', List.append_assoc] at whole) declares' lead'
  have kind : s.kind = t.kind := led.unique declares led' declares' (code.symm.trans code'.symm)
  obtain rfl : other = shape := by
    apply finders_kind known' known
    rw [← spanOf_kind spanned', ← spanOf_kind spanned, kind]
  have start : unitStart m'' = 0 := by rw [← spanOf_start spanned', first]
  have start' : unitStart m' = 0 := by rw [← spanOf_start own]
  rw [spanOf_unique known found'' found' (start.trans start'.symm), own] at spanned'
  exact Option.some.inj spanned' ▸ inside

end CodeAtlas.Source
