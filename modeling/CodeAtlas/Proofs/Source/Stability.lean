import CodeAtlas.Proofs.Source.Recurrence
import Mathlib.Data.List.DropRight

set_option autoImplicit false

/-! Units taken out of their text: extraction from the code of a unit finds the unit again. -/

namespace CodeAtlas.Source

open CodeAtlas.Pattern CodeAtlas.Text

-- A signature that the refining shape takes reaches no further than that of the unit at its place.
theorem Exported.within {kind kind' : Kind}
    {signature refined before name more more' : List Char} (exported : Exported kind refined)
    (declares : Declares signature before name) (lead : Lead kind' before)
    (closes : kind' ≠ .method → closer kind' ∈ signature)
    (same : signature ++ more = refined ++ more') : refined.length ≤ signature.length := by
  obtain ⟨words', before', name', declares', led'⟩ := exported.led
  cases lead with
  | glued front among => exact absurd (glued_apart among declares led' declares' same).1 exported.other
  | apart words led =>
    obtain rfl := led.unique declares led' declares' same
    obtain ⟨init, rfl, clear⟩ := exported.closed
    by_contra long
    rw [List.length_append, List.length_singleton] at long
    have front : signature <+: init := by
      have one : signature <+: init ++ ([closer kind'] ++ more') := by
        rw [← List.append_assoc, ← same]
        exact List.prefix_append signature more
      exact List.prefix_of_prefix_length_le one (List.prefix_append init _) (by omega)
    exact clear (front.subset (closes exported.other))

section

variable {least : Int} {text blank rest : List Char} {s : Span}

theorem foundSpans_closer (member : s ∈ foundSpans least text) (other : s.kind ≠ .method) :
    closer s.kind ∈ s.signature := by
  obtain ⟨shape, known, m, found, spanned⟩ := foundSpans_origin member
  have matched := findAll_matches _ _ _ found
  rw [spanOf_kind spanned] at other ⊢
  obtain ⟨body, lined⟩ := finders_lined known
  obtain ⟨margin, signature, between, opens, -, passed, reached⟩ := lined.split matched
  obtain ⟨one, two, again⟩ := finders_closer shape known other lined reached
  obtain rfl := passed.unique again
  obtain ⟨name, stop, -, -, -, -, rfl⟩ := spanOf_eq_some.mp spanned
  simp only [opens.written matched]
  simp

-- A unit that is refined in its text is refined in its code.
theorem Refined.own (member : s ∈ foundSpans least text) (coded : s.Coded text blank rest)
    (refined : Refined text s.start) : Refined (s.code text) 0 := by
  obtain ⟨m, found, start⟩ := refined
  have matched := findAll_matches _ _ _ found
  obtain ⟨margin, signature, between, opens, -, passed, reached⟩ := component_margined.split matched
  obtain ⟨kind, _, again, exported⟩ := component_exported reached
  obtain rfl := passed.unique again
  obtain ⟨before, declares, lead, -⟩ := foundSpans_declares member
  obtain ⟨more, code⟩ := coded.signed
  have split : signature ++ m.stop.after = s.code text ++ (blank ++ rest) := by
    rw [← coded.split, ← start, opens.drop_eq matched]
  have joined : s.signature ++ (more ++ (blank ++ rest)) = signature ++ m.stop.after := by
    rw [split, code, List.append_assoc]
  have short := exported.within declares lead (foundSpans_closer member) joined
  have written : Written Shape.component text (s.code text) (blank ++ rest) m margin signature := by
    refine ⟨matched, opens, split, ?_⟩
    rw [code, List.length_append]
    omega
  obtain ⟨m', found', cut⟩ := written.recurs component_margined (findAll_matchAt found)
  obtain ⟨matched', opens'⟩ := written.opens_own component_margined found' cut
  refine ⟨m', findAll_first found', ?_⟩
  rw [opens'.unitStart_eq, Match.index, matchAt_start found']
  rfl

/-- A match of the refining shape that begins before the place goes on over it. -/
def Overrun (text : List Char) (start : Nat) : Prop :=
  ∃ m ∈ Shape.component.findAll text, unitStart m < start ∧ start < m.endIndex

-- A match that begins on an earlier line and goes on over the start of a later one goes on over the
-- first ink there.
theorem overrun_of_inside {p : Pattern} {m m' : Match} {margin signature : List Char}
    (opens : Opens m margin signature) (matched : Matches p text m)
    (found : m' ∈ Shape.component.findAll text) (early : m'.index < m.index)
    (late : m.index < m'.endIndex) :
    unitStart m' = unitStart m ∨ Overrun text (unitStart m) := by
  have matched' := findAll_matches _ _ _ found
  obtain ⟨margin', signature', opens'⟩ := component_margined.opens matched'
  have start := opens.unitStart_eq
  rcases Nat.lt_trichotomy (unitStart m') (unitStart m) with lt | same | gt
  · refine .inr ⟨m', found, lt, ?_⟩
    by_contra short
    obtain ⟨c, there, ink⟩ := opens'.last_at matched'
    have before : m'.endIndex - 1 < unitStart m := by omega
    obtain ⟨d, there', blank⟩ := opens.margin_at matched (by omega) before
    obtain rfl := Option.some.inj (there.symm.trans there')
    rw [isBlank_of_isMargin c blank] at ink
    cases ink
  · exact .inl same
  · obtain ⟨c, there, ink⟩ := (opens.firstOfLine matched).char
    obtain ⟨d, there', margin⟩ := opens'.margin_at matched' (by omega) gt
    obtain rfl := Option.some.inj (there.symm.trans there')
    rw [ink] at margin
    cases margin

-- Where the refining shape matches at the start of a line a match of it is found there, unless an earlier
-- one goes on over the place.
theorem refined_of_hit {p body : Pattern} (lined : Margined p body) {m : Match}
    (matched : Matches p text m) (hit : (matchAt Shape.component m.start).isSome = true) :
    Refined text (unitStart m) ∨ Overrun text (unitStart m) := by
  obtain ⟨margin, signature, opens⟩ := lined.opens matched
  obtain ⟨m', found', covers⟩ := findAll_complete component_margined.steady
    (by decide : nullable Shape.component = false) matched.within hit
  have inside : unitStart m' = unitStart m ∨ Overrun text (unitStart m) := by
    rcases covers with same | ⟨early, late⟩
    · have matched' := findAll_matches _ _ _ found'
      obtain ⟨margin', signature', opens'⟩ := component_margined.opens matched'
      obtain ⟨-, after⟩ := matched'.within.unique matched.within same
      have starts := opens.atLine matched
      have stops := (opens'.atLine matched').stops.1
      rw [← (opens'.atLine matched').after, after, starts.after, starts.stops.1] at stops
      left
      rw [opens'.unitStart_eq, opens.unitStart_eq, stops]
      exact congrArg (· + margin'.length) same
    · exact overrun_of_inside opens matched found' early late
  exact inside.imp_left fun same => ⟨m', found', same⟩

-- A unit that is refined in its code is refined in its text, if no earlier match hides it there.
theorem Refined.back (member : s ∈ foundSpans least text) (coded : s.Coded text blank rest)
    (refined : Refined (s.code text) 0) : Refined text s.start ∨ Overrun text s.start := by
  obtain ⟨shape, known, m, found, spanned⟩ := foundSpans_origin member
  have matched := findAll_matches _ _ _ found
  obtain ⟨body, lined⟩ := finders_lined known
  obtain ⟨margin, written⟩ := span_written known matched spanned coded
  rw [spanOf_start spanned]
  refine refined_of_hit lined.toMargined matched ?_
  -- The refining shape matches at the start of the code, so it matches at the line in the text.
  obtain ⟨m', found', start⟩ := refined
  have within : (Cursor.start (s.code text)).Within (s.code text) := by
    simp [Cursor.Within, Cursor.start]
  have index : m'.start.index = (Cursor.start (s.code text)).index := by
    unfold unitStart Match.index at start
    simp only [Cursor.start]
    omega
  obtain ⟨before, after⟩ := (findAll_matches _ _ _ found').within.unique within index
  obtain ⟨m'', again, -⟩ := component_margined.same before after (findAll_matchAt found')
  have agree := component_margined.agree written.atLine (start_atLine written.ink)
  rw [Option.isSome_iff_ne_none]
  intro none
  rw [agree.nothing none] at again
  cases again

end

theorem spans_head {least : Int} {text : List Char} {s : Span} (member : s ∈ spans least text)
    (first : s.start = 0) : ∃ rest, spans least text = s :: rest := by
  have increase := spans_increase least text
  cases all : spans least text with
  | nil =>
    rw [all] at member
    cases member
  | cons t rest =>
    rw [all] at member increase
    rcases List.mem_cons.mp member with rfl | later
    · exact ⟨rest, rfl⟩
    · have lt := (List.pairwise_cons.mp increase).1 s later
      omega

theorem trimRight_idempotent (text : List Char) : trimRight (trimRight text) = trimRight text := by
  simp only [trimRight, List.reverse_reverse, List.dropWhile_idempotent]

theorem settled_code (text : List Char) (s : Span) : (s.settled text).code text = s.code text := by
  rw [settled_eq, Span.code, Span.code]

-- The code begins with the span. It is refined there even if a match of the refining shape that goes on
-- over its start has kept it from being refined in the text.
theorem spans_own {least : Int} {text : List Char} {s : Span} (unglued : Unglued text)
    (member : s ∈ foundSpans least text) (large : least ≤ (s.code text).length) :
    ∃ t rest, spans least (s.code text) = t :: rest ∧ t.start = 0 ∧ t.stop = (s.code text).length ∧
      t.name = s.name ∧ t.signature = s.signature ∧
      (t.kind = (s.settled text).kind ∨ (t.kind = .component ∧ Overrun text s.start)) := by
  obtain ⟨-, -, -, anchored⟩ := foundSpans_declares member
  obtain ⟨blank, rest, coded⟩ := anchored.coded
  have own := foundSpans_own unglued member large
  have settled := (mem_spans _).mpr ⟨_, own, rfl⟩
  rw [settled_eq] at settled
  obtain ⟨rest, all⟩ := spans_head settled rfl
  refine ⟨_, rest, all, rfl, rfl, rfl, rfl, ?_⟩
  simp only [settled_kind]
  by_cases refined : Refined (s.code text) 0
  · rcases Refined.back member coded refined with there | overrun
    · exact .inl (by rw [if_pos refined, if_pos there])
    · exact .inr ⟨if_pos refined, overrun⟩
  · have elsewhere : ¬Refined text s.start := fun there => refined (Refined.own member coded there)
    exact .inl (by rw [if_neg refined, if_neg elsewhere])

/-- The unit that is found in the code of another one is that unit, at line one. -/
structure Recurs (u v : RawUnit) : Prop where
  name_eq : v.name = u.name
  code_eq : v.code = u.code
  signature_eq : v.signature = u.signature
  calls_eq : v.context.calls = u.context.calls
  startLine_eq : v.startLine = 1
  endLine_eq : v.endLine = 1 + u.endLine - u.startLine

-- What is read off a span and its code, wherever the code stands.
theorem unitOf_recurs (path : String) (imports types imports' types' : List String)
    (text : List Char) (s t : Span) (start : t.start = 0) (stop : t.stop = (s.code text).length)
    (name : t.name = s.name) (signature : t.signature = s.signature) :
    Recurs (unitOf path imports types text s) (unitOf path imports' types' (s.code text) t) := by
  have code : t.code (s.code text) = s.code text := by
    rw [Span.code, start, stop, List.drop_zero, Nat.sub_zero, List.take_length, Span.code,
      trimRight_idempotent]
  have code' : trimRight (((s.code text).drop t.start).take (t.stop - t.start)) = s.code text := code
  constructor
  · exact name
  · rw [unitOf_code, unitOf_code, code]
  · simp only [unitOf, signature]
  · simp only [unitOf, code', signature]
    rfl
  · simp [unitOf, start]
  · simp only [unitOf, code']
    simp only [start, List.take_zero, List.count_nil, Span.code]
    omega

-- Extraction from the code of a unit begins with the unit, of the same kind unless a match of the
-- refining shape goes on over its start in the text.
theorem extract_stable (least : Int) (path text : String) (u : RawUnit)
    (unglued : Unglued text.toList) (member : u ∈ extract least path text)
    (large : least ≤ u.code.toList.length) :
    ∃ v rest start, extract least path u.code = v :: rest ∧ Recurs u v ∧
      Placed text.toList u start ∧
      (v.kind = u.kind ∨ (v.kind = Kind.component.label ∧ Overrun text.toList start)) := by
  obtain ⟨s, inside, rfl⟩ := List.mem_map.mp member
  obtain ⟨old, found, rfl⟩ := (mem_spans s).mp inside
  have placed := (spans_anchored least _ _ inside).placed path (importsOf text.toList)
    (typesOf text.toList)
  have start : (old.settled text.toList).start = old.start := by rw [settled_eq]
  rw [unitOf_code, settled_code, String.toList_ofList] at large
  obtain ⟨t, rest, all, first, stop, name, signature, kinds⟩ := spans_own unglued found large
  let code := old.code text.toList
  refine ⟨unitOf path (importsOf code) (typesOf code) code t,
    rest.map (unitOf path (importsOf code) (typesOf code) code), old.start, ?_, ?_, start ▸ placed, ?_⟩
  · rw [unitOf_code, settled_code, extract, String.toList_ofList, all, List.map_cons]
  · have recurs := unitOf_recurs path (importsOf text.toList) (typesOf text.toList) (importsOf code)
      (typesOf code) text.toList (old.settled text.toList) t first
    rw [settled_code] at recurs
    apply recurs
    · exact stop
    · rw [name, settled_eq]
    · rw [signature, settled_eq]
  · exact kinds.imp (congrArg Kind.label) (And.imp_left (congrArg Kind.label))

theorem unglued_of_places {text : List Char}
    (each : ∀ k < text.length, "function".toList.isPrefixOf (text.drop k) = true →
      (text.drop (k + 8)).head?.any isNameRest = false) : Unglued text := by
  rintro before c rest rfl -
  have place := each before.length (by simp) (by simp)
  rw [← List.drop_drop, List.drop_left] at place
  simpa using place

def boxText : String :=
  "// box\n  export const Box = (x) => \x7b\n    return wrap(x)\n  \x7d  \nlet y\n"

def boxUnit : RawUnit :=
  unitOf "src/box.tsx" (importsOf boxText.toList) (typesOf boxText.toList) boxText.toList
    ⟨9, 59, .component, "Box", "export const Box = (x) =>".toList⟩

theorem extract_stable_box : boxUnit.kind = "react_component" ∧ boxUnit.startLine = 2 ∧
    ∃ v rest start, extract 10 "src/box.tsx" boxUnit.code = v :: rest ∧ Recurs boxUnit v ∧
      Placed boxText.toList boxUnit start ∧
      (v.kind = boxUnit.kind ∨ (v.kind = Kind.component.label ∧ Overrun boxText.toList start)) := by
  have member : boxUnit ∈ extract 10 "src/box.tsx" boxText :=
    List.mem_map_of_mem ((List.mergeSort_perm _ _).mem_iff.mpr (by decide +kernel))
  have unglued : Unglued boxText.toList := unglued_of_places (by decide +kernel)
  exact ⟨rfl, by decide +kernel,
    extract_stable 10 "src/box.tsx" boxText boxUnit unglued member (by decide +kernel)⟩

def brokenText : String :=
  "export function Foo<\nexport const Bar: Y>(a) = (x) => \x7b\n  return x;\n\x7d\n"

def barSignature : List Char :=
  "export const Bar: Y>(a) = (x) =>".toList

def barUnit : RawUnit :=
  unitOf "a.tsx" (importsOf brokenText.toList) (typesOf brokenText.toList) brokenText.toList
    ⟨21, 69, .arrow, "Bar", barSignature⟩

-- The match for the first function takes the start of the second one, which is refined only in its own
-- code.
theorem extract_refines_late : barUnit ∈ extract 10 "a.tsx" brokenText ∧
    Unglued brokenText.toList ∧ (10 : Int) ≤ barUnit.code.toList.length ∧
    ∀ v rest, extract 10 "a.tsx" barUnit.code = v :: rest → v.kind ≠ barUnit.kind := by
  refine ⟨?_, unglued_of_places (by decide +kernel), by decide +kernel, ?_⟩
  · exact List.mem_map_of_mem ((List.mergeSort_perm _ _).mem_iff.mpr (by decide +kernel))
  · intro v rest units
    have member : ⟨0, 48, .component, "Bar", barSignature⟩ ∈ spans 10 barUnit.code.toList :=
      (List.mergeSort_perm _ _).mem_iff.mpr (by decide +kernel)
    obtain ⟨others, all⟩ := spans_head member rfl
    rw [extract, all, List.map_cons] at units
    rw [← (List.cons.inj units).1]
    decide

end CodeAtlas.Source
