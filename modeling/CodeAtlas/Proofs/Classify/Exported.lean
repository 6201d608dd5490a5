import CodeAtlas.Classify.Basic
import CodeAtlas.Proofs.Source.Refinement
import CodeAtlas.Proofs.Text.Distinct

set_option autoImplicit false

/-! Exported units: what is said of a unit's being exported, and what its signature begins with. -/

namespace CodeAtlas.Classify

open CodeAtlas.Pattern CodeAtlas.Source CodeAtlas.Text

theorem mem_labelsMet {α : Type} {bank : List (String × (α → Bool))} {subject : α} {label : String} :
    label ∈ labelsMet bank subject ↔ ∃ entry ∈ bank, entry.2 subject = true ∧ entry.1 = label := by
  simp only [labelsMet, labelSet, sortTexts, List.mem_mergeSort, mem_distinct, List.mem_map,
    List.mem_filter, and_assoc]

theorem mem_patternsOf_exported (u : RawUnit) :
    "public-api" ∈ patternsOf u ↔ u.isExported = true := by
  simp [patternsOf, mem_labelsMet, patternBank]

theorem mem_tags_exported {u : RawUnit} {kind : Kind} (labelled : u.kind = kind.label) :
    "exported" ∈ u.tags ↔ u.isExported = true := by
  have other : kind.label ≠ "exported" := by cases kind <;> decide
  simp [RawUnit.tags, labelled, other.symm]

/-- The words that an exported declaration begins with, and the one that tells what is declared. -/
def exportHeads : List (List String × String) :=
  (leadWords [⟨"export", false⟩, ⟨"default", true⟩, ⟨"async", true⟩]).map (·, "function") ++
    bindingWords.map (["export"], ·)

/-- A signature that begins as the shapes that find units have an exported declaration. -/
def Exports (signature : List Char) : Prop :=
  ∃ head ∈ exportHeads, ∃ lead rest, Spaced head.1 lead ∧
    signature = lead ++ (head.2.toList ++ rest)

/-- A method whose name is the keyword, with nothing in front of it. -/
def NamedExport (u : RawUnit) : Prop :=
  u.kind = Kind.method.label ∧ u.name = "export" ∧ u.name.toList <+: u.signature.toList

theorem Exports.begins {signature : List Char} (exports : Exports signature) :
    "export".toList <+: signature := by
  obtain ⟨head, member, lead, rest, spaced, rfl⟩ := exports
  have first : ∀ head ∈ exportHeads, head.1.head? = some "export" := by decide
  exact (spaced.begins (first head member)).trans (List.prefix_append _ _)

/-- The text begins with a character, and it is not this one. -/
def startsOther (c : Char) (text : List Char) : Bool :=
  text.head?.any (· != c)

theorem startsOther_append {c : Char} {text : List Char} (other : startsOther c text = true)
    (rest : List Char) : startsOther c (text ++ rest) = true := by
  obtain ⟨d, first, apart⟩ := (Option.any_eq_true _ _).mp other
  simp [startsOther, List.head?_append, first, apart]

theorem startsOther_spaced {c : Char} {words : List String} {lead after : List Char}
    (spaced : Spaced words lead) (each : ∀ word ∈ words, startsOther c word.toList = true)
    (behind : startsOther c after = true) : startsOther c (lead ++ after) = true := by
  cases spaced with
  | nil => exact behind
  | cons word gap wide blank more =>
    rw [List.append_assoc]
    exact startsOther_append (each word List.mem_cons_self) _

/-- The words that may stand in front of a function. -/
def functionMarks : List LeadWord :=
  [⟨"export", true⟩, ⟨"default", true⟩, ⟨"async", true⟩]

/-- The words that may stand in front of a value. -/
def arrowMarks : List LeadWord :=
  [⟨"export", true⟩]

theorem functionLead_eq : functionLead = functionMarks.map LeadWord.pattern ++
    [Shape.word "function", Shape.many Shape.space, Shape.maybe (Shape.char '*'),
      Shape.many Shape.space] :=
  rfl

theorem arrowLead_eq : arrowLead = arrowMarks.map LeadWord.pattern ++
    [Shape.oneOf (bindingWords.map Shape.word), Shape.several Shape.space] :=
  rfl

section

variable {words : List String} {keyword : String} {lead before after : List Char}

-- Of all the words in front of a name only the first of an exported declaration begins so.
theorem exports_or_startsOther (spaced : Spaced words lead)
    (known : (words, keyword) ∈ exportHeads ∨
      ∀ word ∈ words ++ [keyword], startsOther 'e' word.toList = true) :
    Exports (lead ++ (keyword.toList ++ after)) ∨
      startsOther 'e' (lead ++ (keyword.toList ++ after)) = true := by
  rcases known with exported | others
  · exact .inl ⟨_, exported, lead, after, spaced, rfl⟩
  · refine .inr (startsOther_spaced spaced (fun word member => ?_) (startsOther_append ?_ after))
    · exact others word (List.mem_append_left _ member)
    · exact others keyword (by simp)

theorem functionLead_exports (spells : Spells (Shape.all functionLead) before) :
    Exports (before ++ after) ∨ startsOther 'e' (before ++ after) = true := by
  rw [functionLead_eq, spells_all_append] at spells
  obtain ⟨lead, _, rfl, marks, last⟩ := spells
  obtain ⟨words, known, spaced⟩ := (spells_leadWords _).mp marks
  obtain ⟨_, gap, rfl, keyword, -⟩ := spells_all_cons.mp last
  obtain rfl := spells_word keyword
  have each : ∀ words ∈ leadWords functionMarks,
      (words, "function") ∈ exportHeads ∨
        ∀ word ∈ words ++ ["function"], startsOther 'e' word.toList = true := by decide
  simp only [List.append_assoc]
  exact exports_or_startsOther spaced (each words known)

theorem arrowLead_exports (spells : Spells (Shape.all arrowLead) before) :
    Exports (before ++ after) ∨ startsOther 'e' (before ++ after) = true := by
  rw [arrowLead_eq, spells_all_append] at spells
  obtain ⟨lead, _, rfl, marks, last⟩ := spells
  obtain ⟨words, known, spaced⟩ := (spells_leadWords _).mp marks
  obtain ⟨_, gap, rfl, binding, -⟩ := spells_all_cons.mp last
  obtain ⟨keyword, member, rfl⟩ := spells_oneOf (by decide) binding
  have each : ∀ words ∈ leadWords arrowMarks, ∀ keyword ∈ bindingWords,
      (words, keyword) ∈ exportHeads ∨
        ∀ word ∈ words ++ [keyword], startsOther 'e' word.toList = true := by decide
  simp only [List.append_assoc]
  exact exports_or_startsOther spaced (each words known keyword member)

end

-- A method's first word is a modifier, or its name.
theorem method_named {before name signature : List Char} (declares : Declares signature before name)
    (lead : Lead .method before) (begins : "export ".toList <+: signature) :
    name = "export".toList := by
  obtain ⟨rest, split⟩ := begins
  cases lead with
  | apart words led =>
    have heads := declares.headWords_eq []
    rw [List.append_nil, led.phrase.nameWords_name led.plain declares.named, ← split, headWords,
      List.takeWhile_append_of_pos (List.all_eq_true.mp (by decide))] at heads
    have cut : "export ".toList = "export".toList ++ [' '] := by decide
    rw [cut, List.append_assoc, List.singleton_append, nameWords_split (by decide),
      nameWords_word (by decide) (List.all_eq_true.mp (by decide))] at heads
    cases words with
    | nil => exact (List.cons.inj heads).1.symm
    | cons word words =>
      have same : "export".toList = word.toList := (List.cons.inj heads).1
      have modifier := led.fits word List.mem_cons_self
      rw [← String.toList_inj.mp same] at modifier
      exact absurd modifier (by decide)

theorem keyword_begins : "export".toList <+: "export ".toList :=
  ⟨[' '], by decide⟩

section

variable {least : Int} {text : List Char} {s : Span} (member : s ∈ located least text)

include member

theorem located_exports (other : s.kind ≠ .method) (begins : "export".toList <+: s.signature) :
    Exports s.signature := by
  obtain ⟨before, headed, finds, -⟩ := located_headed member
  obtain ⟨rest, split⟩ := headed.split
  have leads := headed.lead_spells
  have same : startsOther 'e' s.signature = false := by
    obtain ⟨rest, split⟩ := begins
    rw [← split]
    rfl
  rw [split] at same ⊢
  generalize s.kind = kind at other finds leads
  cases kind with
  | function => exact (functionLead_exports leads).resolve_right (by simp [same])
  | arrow => exact (arrowLead_exports leads).resolve_right (by simp [same])
  | method => exact absurd rfl other
  | component => exact absurd rfl finds

theorem located_named (begins : "export ".toList <+: s.signature) :
    Exports s.signature ∨ s.kind = .method ∧ s.name = "export" ∧ s.name.toList <+: s.signature := by
  by_cases method : s.kind = .method
  · obtain ⟨before, headed, finds, -⟩ := located_headed member
    have lead := leadOf_lead finds headed.lead_spells
    rw [method] at lead
    have named := method_named headed.declares lead begins
    exact .inr ⟨method, String.toList_inj.mp named, named ▸ keyword_begins.trans begins⟩
  · exact .inl (located_exports member method (keyword_begins.trans begins))

-- What the refining shape takes is exported.
theorem refined_exports (refined : Refined text s.start) : Exports s.signature := by
  have method : s.kind ≠ .method := fun method => Refined.not_method member method refined
  obtain ⟨words, known, lead, rest, spaced, split, -⟩ := refined.componentHead member
  have first : ∀ words ∈ componentWords ++ constWords, words.head? = some "export" := by decide
  refine located_exports member method ?_
  rw [split]
  exact (spaced.begins (first words known)).trans (List.prefix_append _ _)

end

theorem begins_iff {text : List Char} (begins : "export".toList <+: text) :
    "export ".toList <+: text ↔ text[6]? = some ' ' := by
  obtain ⟨rest, rfl⟩ := begins
  have cut : "export ".toList = "export".toList ++ [' '] := by decide
  have size : "export".toList.length = 6 := by decide
  rw [cut, List.prefix_append_right_inj, List.getElem?_append_right (by omega), size,
    Nat.sub_self, ← List.head?_eq_getElem?]
  cases rest with
  | nil => simp
  | cons c rest => simp [eq_comm]

-- A unit is said to be exported in three places that agree: just if a space follows the keyword of its
-- exported declaration, or the name of a method that is the keyword. All components are exported.
theorem extract_exported (least : Int) (path text : String) (u : RawUnit)
    (member : u ∈ extract least path text) :
    (u.isExported = true ↔
      u.signature.toList[6]? = some ' ' ∧ (Exports u.signature.toList ∨ NamedExport u)) ∧
    ("exported" ∈ u.tags ↔ u.isExported = true) ∧
    ("public-api" ∈ patternsOf u ↔ u.isExported = true) ∧
    (u.kind = Kind.component.label → Exports u.signature.toList) := by
  obtain ⟨s, found, rfl⟩ := mem_extract.mp member
  have inside := foundSpans_located found
  have kind := settled_kind text.toList s
  have signed : (s.settled text.toList).signature = s.signature := by rw [settled_eq]
  have named : (s.settled text.toList).name = s.name := by rw [settled_eq]
  refine ⟨?_, mem_tags_exported rfl, mem_patternsOf_exported _, ?_⟩
  · simp only [RawUnit.isExported, hasStart, List.isPrefixOf_iff_prefix, NamedExport, unitOf,
      String.toList_ofList, label_inj, signed, named]
    constructor
    · intro begins
      refine ⟨(begins_iff (keyword_begins.trans begins)).mp begins, ?_⟩
      rcases located_named inside begins with exports | ⟨method, same⟩
      · exact .inl exports
      · exact .inr ⟨by rw [kind, if_neg (Refined.not_method inside method), method], same⟩
    · rintro ⟨space, exports | ⟨-, same, begins⟩⟩
      · exact (begins_iff exports.begins).mpr space
      · rw [same] at begins
        exact (begins_iff begins).mpr space
  · intro component
    have refined : Refined text.toList s.start := by
      by_contra plain
      obtain ⟨-, -, finds, -⟩ := located_headed inside
      exact finds (by rw [← label_inj.mp component, kind, if_neg plain])
    simpa only [unitOf, String.toList_ofList, signed] using refined_exports inside refined

theorem extract_exported_box : boxUnit ∈ extract 10 "src/box.tsx" boxText ∧
    boxUnit.isExported = true ∧ "exported" ∈ boxUnit.tags ∧ "public-api" ∈ patternsOf boxUnit ∧
      Exports boxUnit.signature.toList := by
  obtain ⟨-, tagged, labelled, component⟩ :=
    extract_exported 10 "src/box.tsx" boxText boxUnit boxUnit_mem
  have exported : boxUnit.isExported = true := by decide
  exact ⟨boxUnit_mem, exported, tagged.mpr exported, labelled.mpr exported, component rfl⟩

def tabText : String :=
  "export\tfunction total(a) \x7b\n  return a;\n\x7d\n"

def tabUnit : RawUnit :=
  unitOf "a.js" (importsOf tabText.toList) (typesOf tabText.toList) tabText.toList
    ⟨0, 40, .function, "total", "export\tfunction total(".toList⟩

-- Behind a tab the declaration is found as an exported one, and nothing says so of the unit.
theorem extract_hides_export : tabUnit ∈ extract 10 "a.js" tabText ∧
    Exports tabUnit.signature.toList ∧ tabUnit.isExported = false ∧
      "exported" ∉ tabUnit.tags ∧ "public-api" ∉ patternsOf tabUnit := by
  have member : tabUnit ∈ extract 10 "a.js" tabText := unitOf_mem (by decide +kernel)
  have function : tabUnit.kind = Kind.function.label := rfl
  have hidden : tabUnit.isExported ≠ true := by decide
  have spaced : Spaced ["export"] "export\t".toList :=
    @Spaced.single "export" ['\t'] (by decide) (List.forall_mem_singleton.mpr (by decide))
  refine ⟨member, ?_, by simpa using hidden, ?_, ?_⟩
  · exact ⟨(["export"], "function"), by decide, _, " total(".toList, spaced, by decide⟩
  · rwa [mem_tags_exported function]
  · rwa [mem_patternsOf_exported]

end CodeAtlas.Classify
