import CodeAtlas.Proofs.Pattern.Complete
import CodeAtlas.Proofs.Source.Stability

set_option autoImplicit false

/-! Components: which units are refined, and that nothing but their kind changes. -/

namespace CodeAtlas.Source

open CodeAtlas.Pattern CodeAtlas.Text

/-- A name with a capital letter first. -/
def IsUpperName (name : List Char) : Prop :=
  ∃ c, name.head? = some c ∧ c.isUpper = true

/-- A signature that begins as the refining shape has it: the words of an exported function or constant,
white space behind each of them, and then a name of this sort. -/
def ComponentHead (signature name : List Char) : Prop :=
  ∃ words ∈ componentWords ++ constWords, ∃ lead rest, Spaced words lead ∧
    signature = lead ++ (name ++ rest) ∧ IsUpperName name

theorem componentHead_words {words : List String} (member : words ∈ componentWords ++ constWords) :
    Plain words ∧ "export" ∈ words := by
  have each : ∀ words ∈ componentWords ++ constWords, Plain words ∧ "export" ∈ words := by decide
  exact each words member

theorem spells_upperName {name : List Char}
    (spells : Spells (Shape.identifier (Shape.setOf [Shape.upperLetters])) name) : IsUpperName name := by
  obtain ⟨_, rest, rfl, ⟨c, rfl, holds⟩, -⟩ := spells
  exact ⟨c, rfl, by rwa [upper_holds] at holds⟩

/-- What the refining shape has taken in front of a name and as the name. -/
structure Heads (kind : Kind) (words : List String) (signature before name : List Char) : Prop where
  known : words ∈ componentWords ++ constWords
  spaced : Spaced words before
  led : Led kind words before
  declares : Declares signature before name
  other : kind ≠ .method
  upper : IsUpperName name

theorem component_heads {a c : Cursor} (reached : Reaches componentBody a c) :
    ∃ kind words signature before name, Passes a signature c ∧ Heads kind words signature before name := by
  rcases component_reaches reached with reached | reached
  · obtain ⟨signature, before, name, passed, headed, -⟩ := functionComponent_headed reached
    obtain ⟨words, member, spaced⟩ := spells_componentLead.mp headed.lead_spells
    obtain ⟨plain, fits⟩ := componentWords_led words member
    exact ⟨.function, words, signature, before, name, passed, List.mem_append_left _ member, spaced,
      ⟨plain, fits, spaced.phrase⟩, headed.declares, by decide, spells_upperName headed.name_spells⟩
  · obtain ⟨signature, before, name, passed, headed, -⟩ := constComponent_headed reached
    obtain ⟨words, member, spaced⟩ := spells_constLead.mp headed.lead_spells
    obtain ⟨plain, fits⟩ := constWords_led words member
    exact ⟨.arrow, words, signature, before, name, passed, List.mem_append_right _ member, spaced,
      ⟨plain, fits, spaced.phrase⟩, headed.declares, by decide, spells_upperName headed.name_spells⟩

theorem Refined.heads {text : List Char} {start : Nat} (refined : Refined text start) :
    ∃ kind words signature before name more, text.drop start = signature ++ more ∧
      Heads kind words signature before name := by
  obtain ⟨m, found, rfl⟩ := refined
  have matched := findAll_matches _ _ _ found
  obtain ⟨margin, signature, between, opens, -, passed, reached⟩ := component_margined.split matched
  obtain ⟨kind, words, _, before, name, again, heads⟩ := component_heads reached
  obtain rfl := passed.unique again
  exact ⟨kind, words, signature, before, name, m.stop.after, opens.drop_eq matched, heads⟩

theorem Headed.split {lead tail : List Pattern} {first : CharSet} {signature before name : List Char}
    (headed : Headed lead first tail signature before name) :
    ∃ rest, signature = before ++ (name ++ rest) := by
  obtain ⟨gap, rest, split, -⟩ := headed.tail_spells
  exact ⟨gap ++ rest, split⟩

section

variable {least : Int} {text : List Char} {s : Span}

-- A unit that is refined begins as the refining shape has it.
theorem Refined.componentHead (member : s ∈ located least text) (refined : Refined text s.start) :
    ComponentHead s.signature s.name.toList := by
  obtain ⟨before, headed, other, anchored⟩ := located_headed member
  obtain ⟨more, written⟩ := anchored.signature_prefix
  obtain ⟨kind, words, signature, before', name, more', there, heads⟩ := refined.heads
  have same : s.signature ++ more = signature ++ more' := written.trans there
  have lead := leadOf_lead other headed.lead_spells
  generalize s.kind = kind' at lead
  cases lead with
  | glued front among =>
    exact absurd (glued_apart among headed.declares heads.led heads.declares same).1 heads.other
  | apart words' led =>
    obtain ⟨rfl, rfl⟩ := led.words_eq headed.declares heads.led heads.declares same
    obtain rfl := led.before_eq headed.declares heads.led heads.declares same
    obtain ⟨rest, split⟩ := headed.split
    exact ⟨words', heads.known, before, rest, heads.spaced, split, heads.upper⟩

def capitals : List Char :=
  (List.range 26).map fun k => Char.ofNat (65 + k)

theorem mem_capitals {c : Char} (upper : c.isUpper = true) : c ∈ capitals := by
  have bounds : 65 ≤ c.toNat ∧ c.toNat ≤ 90 := of_decide_eq_true upper
  refine List.mem_map.mpr ⟨c.toNat - 65, List.mem_range.mpr (by omega), ?_⟩
  rw [Nat.add_sub_cancel' bounds.1, Char.ofNat_toNat]

theorem not_upper_of_spells {p : Pattern}
    (clear : capitals.all (fun c => (alphabet p).all fun s => !s.holds c) = true) {text : List Char}
    (spells : Spells p text) : ∀ c ∈ text, c.isUpper = false := by
  intro c member
  by_contra upper
  have apart := List.all_eq_true.mp clear c (mem_capitals (by simpa using upper))
  exact not_mem_of_spells apart spells member

-- No capital letter stands in front of a name.
theorem not_upper_of_lead (kind : Kind) {before : List Char}
    (spells : Spells (Shape.all (leadOf kind)) before) : ∀ c ∈ before, c.isUpper = false := by
  refine not_upper_of_spells ?_ spells
  cases kind <;> decide +kernel

theorem not_upper_of_spaced {words : List String} (known : words ∈ componentWords ++ constWords)
    {lead : List Char} (spaced : Spaced words lead) : ∀ c ∈ lead, c.isUpper = false := by
  rcases List.mem_append.mp known with known | known
  · exact not_upper_of_spells (by decide +kernel) (spells_componentLead.mpr ⟨words, known, spaced⟩)
  · exact not_upper_of_spells (by decide +kernel) (spells_constLead.mpr ⟨words, known, spaced⟩)

-- So a name with a capital letter first tells where what leads to it ends.
theorem lead_unique {one two name rest rest' : List Char} (clear : ∀ c ∈ one, c.isUpper = false)
    (clear' : ∀ c ∈ two, c.isUpper = false) (upper : IsUpperName name)
    (same : one ++ (name ++ rest) = two ++ (name ++ rest')) : one = two := by
  obtain ⟨c, first, capital⟩ := upper
  have front {lead rest : List Char} (clear : ∀ c ∈ lead, c.isUpper = false) :
      (lead ++ (name ++ rest)).takeWhile (!·.isUpper) = lead := by
    rw [List.takeWhile_append_of_pos (by simpa using clear)]
    cases name with
    | nil => cases first
    | cons d more =>
      obtain rfl : d = c := by simpa using first
      simp [capital]
  rw [← front clear, same, front clear']

theorem headed_spells (index : Nat) {lead tail : List Pattern} {before name gap rest : List Char}
    (leads : Spells (Shape.all lead) before) (named : IsName name) (upper : IsUpperName name)
    (gaps : Spells (Shape.many Shape.space) gap) (ends : Spells (Shape.all tail) rest) :
    Spells (Shape.all (lead ++ Shape.upperName index :: Shape.many Shape.space :: tail))
      (before ++ (name ++ (gap ++ rest))) := by
  obtain ⟨c, others, rfl, -, more⟩ := named
  obtain ⟨d, first, capital⟩ := upper
  obtain rfl : c = d := by simpa using first
  have spelled : Spells (Shape.upperName index) (c :: others) := by
    refine ⟨[c], others, rfl, ⟨c, rfl, by rwa [upper_holds]⟩, loop_set_spells _ (Nat.zero_le _) ?_⟩
    intro e member
    rw [nameRest_holds]
    exact more e member
  exact spells_all_append.mpr ⟨before, _, rfl, leads, spells_all_cons.mpr ⟨_, _, rfl, spelled,
    spells_all_cons.mpr ⟨gap, rest, rfl, gaps, ends⟩⟩⟩

theorem Spaced.not_glued {words : List String} {front : List Char}
    (spaced : Spaced words (front ++ "function".toList)) : False := by
  have last := spaced.phrase.edge 'n' (by simp)
  exact absurd last (by decide)

-- What a unit with such a signature begins with is taken by the refining shape.
theorem ComponentHead.spells (member : s ∈ located least text)
    (head : ComponentHead s.signature s.name.toList) :
    ∃ taken rest, s.signature = taken ++ rest ∧ Spells componentBody taken := by
  obtain ⟨words, known, lead, rest, spaced, split, upper⟩ := head
  obtain ⟨before, headed, other, -⟩ := located_headed member
  obtain ⟨gap, tail, split', gaps, ends⟩ := headed.tail_spells
  obtain rfl : lead = before := lead_unique (not_upper_of_spaced known spaced)
    (not_upper_of_lead s.kind headed.lead_spells) upper (split.symm.trans split')
  have fits : Fits s.kind words := by
    have leads := leadOf_lead other headed.lead_spells
    generalize s.kind = kind at leads
    cases leads with
    | glued front among => exact spaced.not_glued.elim
    | apart words' led =>
      have same := led.phrase.words_eq led.plain
      rw [spaced.phrase.words_eq (componentHead_words known).1] at same
      rw [List.map_injective_iff.mpr (fun _ _ => String.toList_inj.mp) same]
      exact led.fits
  rcases List.mem_append.mp known with known | known
  · have kind := fits.unique (componentWords_led words known).2
    rw [kind] at ends
    refine ⟨_, [], by rw [List.append_nil, split'], ?_⟩
    have spells := headed_spells 1 (spells_componentLead.mpr ⟨words, known, spaced⟩)
      headed.declares.named upper gaps ends
    obtain ⟨one, _, same, exported, two, three, rfl, default, last⟩ := spells
    exact same ▸ ⟨one, _, rfl, exported, two, three, rfl, default, .inl last⟩
  · have kind := fits.unique (constWords_led words known).2
    rw [kind] at ends
    -- What the refining shape takes ends before the value.
    have ends : Spells (Shape.all ((tailOf .arrow).take 2 ++ (tailOf .arrow).drop 2)) tail := by
      rwa [List.take_append_drop]
    obtain ⟨front, back, rfl, ends, -⟩ := spells_all_append.mp ends
    refine ⟨lead ++ (s.name.toList ++ (gap ++ front)), back, by simpa using split', ?_⟩
    have spells := headed_spells 2 (spells_constLead.mpr ⟨words, known, spaced⟩)
      headed.declares.named upper gaps ends
    obtain ⟨one, _, same, exported, two, three, rfl, default, last⟩ := spells
    exact same ▸ ⟨one, _, rfl, exported, two, three, rfl, default, .inr last⟩

theorem ComponentHead.refined (member : s ∈ located least text)
    (head : ComponentHead s.signature s.name.toList) :
    Refined text s.start ∨ Overrun text s.start := by
  obtain ⟨taken, rest, split, spells⟩ := head.spells member
  obtain ⟨shape, known, m, found, spanned⟩ := mem_located.mp member
  have matched := findAll_matches _ _ _ found
  obtain ⟨body, lined⟩ := finders_lined known
  obtain ⟨margin, signature, opens⟩ := lined.toMargined.opens matched
  obtain ⟨name, stop, -, -, -, -, same⟩ := spanOf_eq_some.mp spanned
  have signed : s.signature = signature := by rw [same, opens.written matched]
  have starts := opens.atLine matched
  rw [← signed, split, List.append_assoc] at starts
  rw [spanOf_start spanned]
  refine refined_of_hit lined.toMargined matched ?_
  rw [component_margined.matchAt_eq starts]
  exact run_complete componentBody component_margined.plain _ spells (fun _ _ => rfl) _ rfl

-- A match that begins at a place keeps others from going over it.
theorem Refined.not_overrun {start : Nat} (refined : Refined text start) : ¬Overrun text start := by
  rintro ⟨m, found, early, late⟩
  obtain ⟨m', found', rfl⟩ := refined
  have matched' := findAll_matches _ _ _ found'
  obtain ⟨margin, signature, opens⟩ := component_margined.opens matched'
  have stop := opens.endIndex_eq matched'
  have start : m.index ≤ unitStart m := Nat.le_add_right _ _
  have start' : m'.index ≤ unitStart m' := Nat.le_add_right _ _
  rcases findAll_disjoint (by decide) found found' with rfl | le | le
  · exact Nat.lt_irrefl _ early
  · omega
  · omega

-- A unit is refined if it begins as the refining shape has it and no earlier match goes over its start.
theorem refined_iff (member : s ∈ located least text) :
    Refined text s.start ↔ ComponentHead s.signature s.name.toList ∧ ¬Overrun text s.start := by
  constructor
  · exact fun refined => ⟨refined.componentHead member, refined.not_overrun⟩
  · rintro ⟨head, clear⟩
    exact (head.refined member).resolve_right clear

end

-- The units before any of them is refined.
def unrefined (least : Int) (path text : String) : List RawUnit :=
  ((foundSpans least text.toList).mergeSort fun a b => a.start ≤ b.start).map
    (unitOf path (importsOf text.toList) (typesOf text.toList) text.toList)

-- Refinement changes the kinds of units and nothing else: just those become components whose signature
-- begins as the refining shape has it, unless a match of that shape goes on over the start of the unit.
theorem extract_refined (least : Int) (path text : String) :
    List.Forall₂ (fun u v => v = { u with kind := v.kind }) (unrefined least path text)
        (extract least path text) ∧
      ∀ u ∈ extract least path text, ∃ start, Placed text.toList u start ∧
        (u.kind = Kind.component.label ↔
          ComponentHead u.signature.toList u.name.toList ∧ ¬Overrun text.toList start) := by
  constructor
  · rw [extract, spans_eq, List.map_map, unrefined, List.forall₂_map_left_iff,
      List.forall₂_map_right_iff, List.forall₂_same]
    intro s _
    simp only [Function.comp]
    rw [settled_eq]
    rfl
  · intro u member
    obtain ⟨s, found, rfl⟩ := mem_extract.mp member
    have inside := foundSpans_located found
    have placed := (spans_anchored least _ _ ((mem_spans _).mpr ⟨s, found, rfl⟩)).placed path
      (importsOf text.toList) (typesOf text.toList)
    rw [settled_start] at placed
    refine ⟨s.start, placed, ?_⟩
    have kind : (s.settled text.toList).kind = .component ↔ Refined text.toList s.start := by
      obtain ⟨before, headed, other, -⟩ := located_headed inside
      rw [settled_kind]
      split
      next refined => simp [refined]
      next plain => simp [plain, other]
    simp only [unitOf, String.toList_ofList]
    rw [label_inj, kind, refined_iff inside, settled_eq]

theorem boxUnit_mem : boxUnit ∈ extract 10 "src/box.tsx" boxText :=
  unitOf_mem (by decide +kernel)

theorem extract_refined_box : boxUnit ∈ extract 10 "src/box.tsx" boxText ∧
    ∃ start, Placed boxText.toList boxUnit start ∧
      ComponentHead boxUnit.signature.toList boxUnit.name.toList ∧ ¬Overrun boxText.toList start := by
  obtain ⟨start, placed, refined⟩ := (extract_refined 10 "src/box.tsx" boxText).2 boxUnit boxUnit_mem
  exact ⟨boxUnit_mem, start, placed, refined.mp rfl⟩

-- A function that a match goes over is no component, though it begins as the refining shape has it.
theorem extract_hides_component : barUnit ∈ extract 10 "a.tsx" brokenText ∧
    ComponentHead barUnit.signature.toList barUnit.name.toList ∧
    barUnit.kind ≠ Kind.component.label := by
  refine ⟨?_, ?_, by decide⟩
  · exact unitOf_mem (by decide +kernel)
  · have gap : ∀ c ∈ [' '], isBlank c = true := List.forall_mem_singleton.mpr (by decide)
    have words : Spaced ["export", "const"] "export const ".toList :=
      .cons "export" [' '] (by decide) gap (.cons "const" [' '] (by decide) gap .nil)
    exact ⟨_, by decide, _, ": Y>(a) = (x) =>".toList, words, by decide, 'B', by decide, by decide⟩

end CodeAtlas.Source
