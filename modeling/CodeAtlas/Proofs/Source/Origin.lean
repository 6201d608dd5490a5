import CodeAtlas.Proofs.Source.Span

set_option autoImplicit false

/-! Where spans come from: each is the span of a match, and a match of the refining shape at the same
place gives it another kind. -/

namespace CodeAtlas.Source

open CodeAtlas.Pattern

theorem label_inj {a b : Kind} : a.label = b.label ↔ a = b := by
  cases a <;> cases b <;> decide

/-- The shapes that find units. -/
def finders : List DeclarationShape :=
  declarationShapes.filter (!·.refines)

theorem mem_finders {shape : DeclarationShape} : shape ∈ finders ↔
    shape = ⟨.function, Shape.function, false⟩ ∨ shape = ⟨.arrow, Shape.arrow, false⟩ ∨
      shape = ⟨.method, Shape.method, false⟩ := by
  have all : finders = [⟨.function, Shape.function, false⟩, ⟨.arrow, Shape.arrow, false⟩,
      ⟨.method, Shape.method, false⟩] := rfl
  simp [all]

theorem finders_find {shape : DeclarationShape} (member : shape ∈ finders) :
    shape.refines = false := by
  have finds := (List.mem_filter.mp member).2
  simpa using finds

theorem finders_lined {shape : DeclarationShape} (member : shape ∈ finders) :
    ∃ body, Lined shape.pattern body :=
  declarationShapes_lined shape (List.mem_of_mem_filter member) (finders_find member)

theorem finders_other {shape : DeclarationShape} (member : shape ∈ finders) :
    shape.kind ≠ .component := by
  rcases mem_finders.mp member with rfl | rfl | rfl <;> decide

theorem declarationShapes_eq :
    declarationShapes = finders ++ [⟨.component, Shape.component, true⟩] := rfl

abbrev Candidate := DeclarationShape × Match

def candidates (text : List Char) (shapes : List DeclarationShape) : List Candidate :=
  shapes.flatMap fun shape => (shape.pattern.findAll text).map (shape, ·)

def Candidate.span? (least : Int) (text : List Char) (c : Candidate) : Option Span :=
  spanOf least text c.1.kind c.2

theorem mem_candidates {text : List Char} {shapes : List DeclarationShape} {c : Candidate} :
    c ∈ candidates text shapes ↔ c.1 ∈ shapes ∧ c.2 ∈ c.1.pattern.findAll text := by
  obtain ⟨shape, m⟩ := c
  simp only [candidates, List.mem_flatMap, List.mem_map, Prod.mk.injEq]
  constructor
  · rintro ⟨_, known, _, found, rfl, rfl⟩
    exact ⟨known, found⟩
  · rintro ⟨known, found⟩
    exact ⟨shape, known, m, found, rfl, rfl⟩

theorem spanOf_start {least : Int} {text : List Char} {kind : Kind} {m : Match} {s : Span}
    (spanned : spanOf least text kind m = some s) : s.start = unitStart m := by
  obtain ⟨name, stop, -, -, -, -, rfl⟩ := spanOf_eq_some.mp spanned
  rfl

theorem spanOf_kind {least : Int} {text : List Char} {kind : Kind} {m : Match} {s : Span}
    (spanned : spanOf least text kind m = some s) : s.kind = kind := by
  obtain ⟨name, stop, -, -, -, -, rfl⟩ := spanOf_eq_some.mp spanned
  rfl

section

variable {least : Int} {text : List Char}

theorem at?_append (one two : Found) (start : Nat) :
    Found.at? (one ++ two) start = (one.at? start).or (two.at? start) :=
  List.find?_append

-- What has been found at a place stays, and else the span of the match is added.
theorem addMatch_at (c : Candidate) (finds : c.1.refines = false) (found : Found) (start : Nat) :
    (addMatch least text c.1 found c.2).at? start =
      (found.at? start).or (Found.at? (c.span? least text).toList start) := by
  rw [← at?_append, addMatch]
  simp only [finds, Bool.false_eq_true, if_false]
  split
  next known =>
    -- A span at the place of the match hides the one that it would give.
    rw [at?_append]
    cases spanned : c.span? least text with
    | none => simp [Found.at?]
    | some s =>
      by_cases here : s.start = start
      · rw [← here, spanOf_start spanned, Option.or_of_isSome known]
      · simp [Found.at?, here]
  next =>
    cases spanned : c.span? least text with
    | none => rw [Candidate.span?] at spanned; simp [spanned]
    | some s => rw [Candidate.span?] at spanned; simp [spanned]

theorem addMatches_at {cs : List Candidate} (finds : ∀ c ∈ cs, c.1.refines = false) (found : Found)
    (start : Nat) :
    Found.at? (cs.foldl (fun found c => addMatch least text c.1 found c.2) found) start =
      (found.at? start).or (Found.at? (cs.filterMap (·.span? least text)) start) := by
  induction cs generalizing found with
  | nil => simp [Found.at?]
  | cons c cs ih =>
    rw [List.foldl_cons, ih (fun d member => finds d (List.mem_cons_of_mem c member)),
      addMatch_at c (finds c List.mem_cons_self), Option.or_assoc, ← at?_append]
    congr 2
    cases spanned : c.span? least text <;> simp [spanned]

theorem addShapes_eq (shapes : List DeclarationShape) (found : Found) :
    shapes.foldl (addShape least text) found =
      (candidates text shapes).foldl (fun found c => addMatch least text c.1 found c.2) found := by
  rw [candidates, List.foldl_flatMap]
  simp only [List.foldl_map]
  rfl

-- What the finders have found, before any span is relabelled.
def foundSpans (least : Int) (text : List Char) : Found :=
  finders.foldl (addShape least text) []

/-- The spans of all matches, in the order in which the shapes have their turns. -/
def located (least : Int) (text : List Char) : Found :=
  (candidates text finders).filterMap (·.span? least text)

theorem foundSpans_at (start : Nat) :
    (foundSpans least text).at? start = (located least text).at? start := by
  have finds (c : Candidate) (member : c ∈ candidates text finders) : c.1.refines = false :=
    finders_find (mem_candidates.mp member).1
  rw [foundSpans, addShapes_eq, addMatches_at finds]
  rfl

theorem foundSpans_kept : (foundSpans least text).Kept text :=
  addShapes_kept least text finders (fun _ => List.mem_of_mem_filter) [] ⟨by simp, by simp⟩

theorem Found.Kept.at?_mem {found : Found} (kept : found.Kept text) {s : Span} (member : s ∈ found) :
    found.at? s.start = some s := by
  have known := (at?_isSome found s.start).mpr (List.mem_map_of_mem member)
  obtain ⟨t, here⟩ := Option.isSome_iff_exists.mp known
  have start : t.start = s.start := by simpa using List.find?_some here
  rw [here, List.inj_on_of_nodup_map kept.apart (List.mem_of_find?_eq_some here) member start]

-- A span is found if it is the first of those at its place.
theorem mem_foundSpans {s : Span} :
    s ∈ foundSpans least text ↔ (located least text).at? s.start = some s := by
  rw [← foundSpans_at]
  exact ⟨foundSpans_kept.at?_mem, List.mem_of_find?_eq_some⟩

theorem mem_located {s : Span} : s ∈ located least text ↔
    ∃ shape ∈ finders, ∃ m ∈ shape.pattern.findAll text, spanOf least text shape.kind m = some s := by
  rw [located, List.mem_filterMap]
  constructor
  · rintro ⟨⟨shape, m⟩, candidate, spanned⟩
    obtain ⟨known, found⟩ := mem_candidates.mp candidate
    exact ⟨shape, known, m, found, spanned⟩
  · rintro ⟨shape, known, m, found, spanned⟩
    exact ⟨(shape, m), mem_candidates.mpr ⟨known, found⟩, spanned⟩

theorem foundSpans_located {s : Span} (member : s ∈ foundSpans least text) : s ∈ located least text :=
  List.mem_of_find?_eq_some (mem_foundSpans.mp member)

theorem foundSpans_origin {s : Span} (member : s ∈ foundSpans least text) :
    ∃ shape ∈ finders, ∃ m ∈ shape.pattern.findAll text, spanOf least text shape.kind m = some s :=
  mem_located.mp (foundSpans_located member)

-- There is a span wherever a match has one.
theorem foundSpans_complete {s : Span} (member : s ∈ located least text) :
    ∃ t ∈ foundSpans least text, t.start = s.start := by
  have known := (at?_isSome (located least text) s.start).mpr (List.mem_map_of_mem member)
  rw [← foundSpans_at, at?_isSome] at known
  exact List.mem_map.mp known

theorem relabel_all (ms : List Match) (kind : Kind) (found : Found) :
    ms.foldl (fun found m => found.relabel (unitStart m) kind) found = found.map fun s =>
      if ∃ m ∈ ms, unitStart m = s.start then { s with kind := kind } else s := by
  induction ms generalizing found with
  | nil => simp
  | cons m ms ih =>
    rw [List.foldl_cons, ih, Found.relabel, List.map_map]
    apply List.map_congr_left
    intro s _
    by_cases here : s.start = unitStart m
    · simp [here]
    · simp [here, Ne.symm here]

/-- A match of the refining shape starts here. -/
def Refined (text : List Char) (start : Nat) : Prop :=
  ∃ m ∈ Shape.component.findAll text, unitStart m = start

instance (text : List Char) (start : Nat) : Decidable (Refined text start) :=
  inferInstanceAs (Decidable (∃ m ∈ Shape.component.findAll text, unitStart m = start))

-- A span with the kind that it has in the end.
def Span.settled (text : List Char) (s : Span) : Span :=
  if Refined text s.start then { s with kind := .component } else s

theorem settled_start (text : List Char) (s : Span) : (s.settled text).start = s.start := by
  unfold Span.settled
  split <;> rfl

theorem spans_eq : spans least text =
    ((foundSpans least text).mergeSort fun a b => a.start ≤ b.start).map (·.settled text) := by
  have relabelled : declarationShapes.foldl (addShape least text) [] =
      (foundSpans least text).map (·.settled text) := by
    rw [declarationShapes_eq, List.foldl_append, List.foldl_cons, List.foldl_nil]
    exact relabel_all (Shape.component.findAll text) .component (foundSpans least text)
  rw [spans, relabelled]
  refine (List.map_mergeSort fun a _ b _ => ?_).symm
  rw [settled_start, settled_start]

theorem mem_spans (s : Span) :
    s ∈ spans least text ↔ ∃ old ∈ foundSpans least text, s = old.settled text := by
  rw [spans_eq, List.mem_map]
  simp only [List.mem_mergeSort, eq_comm]

theorem mem_extract {path text : String} {u : RawUnit} : u ∈ extract least path text ↔
    ∃ s ∈ foundSpans least text.toList, u = unitOf path (importsOf text.toList) (typesOf text.toList)
      text.toList (s.settled text.toList) := by
  rw [extract, List.mem_map]
  constructor
  · rintro ⟨s, member, rfl⟩
    obtain ⟨old, found, rfl⟩ := (mem_spans s).mp member
    exact ⟨old, found, rfl⟩
  · rintro ⟨s, found, rfl⟩
    exact ⟨_, (mem_spans _).mpr ⟨s, found, rfl⟩, rfl⟩

end

theorem settled_kind (text : List Char) (s : Span) :
    (s.settled text).kind = if Refined text s.start then .component else s.kind := by
  unfold Span.settled
  split <;> rfl

theorem settled_eq (text : List Char) (s : Span) :
    s.settled text = { s with kind := (s.settled text).kind } := by
  unfold Span.settled
  split <;> rfl

end CodeAtlas.Source
