import CodeAtlas.Proofs.Source.Heading

set_option autoImplicit false

/-! Names of units: each is the last identifier in front of the parameters, the type or the value. -/

namespace CodeAtlas.Source

open CodeAtlas.Pattern CodeAtlas.Text

-- The name of a span stands in its signature as the shape has taken it.
theorem span_headed {least : Int} {text : List Char} {shape : DeclarationShape}
    (known : shape ∈ finders) {m : Match} (matched : Matches shape.pattern text m) {s : Span}
    (spanned : spanOf least text shape.kind m = some s) :
    ∃ before, Headed (leadOf shape.kind) Shape.nameStart (tailOf shape.kind) s.signature before
      s.name.toList := by
  obtain ⟨body, lined⟩ := finders_lined known
  obtain ⟨margin, signature, between, opens, -, passed, reached⟩ := lined.split matched
  obtain ⟨_, before, name, again, headed, group⟩ := finders_headed known lined reached
  obtain rfl := passed.unique again
  have named : declaredName m = some (String.ofList name) := by
    have first : m.group? 1 = some name := group
    simp [declaredName, first, headed.declares.named.ne_nil]
  obtain ⟨other, stop, sameName, -, -, -, rfl⟩ := spanOf_eq_some.mp spanned
  obtain rfl : other = String.ofList name := Option.some.inj (sameName.symm.trans named)
  refine ⟨before, ?_⟩
  simpa only [opens.written matched, String.toList_ofList] using headed

theorem located_headed {least : Int} {text : List Char} {s : Span} (member : s ∈ located least text) :
    ∃ before, Headed (leadOf s.kind) Shape.nameStart (tailOf s.kind) s.signature before
      s.name.toList ∧ s.kind ≠ .component ∧ s.Anchored text := by
  obtain ⟨shape, known, m, found, spanned⟩ := mem_located.mp member
  have matched := findAll_matches _ _ _ found
  obtain ⟨before, headed⟩ := span_headed known matched spanned
  obtain ⟨body, lined⟩ := finders_lined known
  obtain ⟨anchored, -, same⟩ := spanOf_anchored least text _ lined m matched s spanned
  rw [← same] at headed
  exact ⟨before, headed, same ▸ finders_other known, anchored⟩

-- The name of a span is the one that its signature declares.
theorem located_declares {least : Int} {text : List Char} {s : Span} (member : s ∈ located least text) :
    ∃ before, Declares s.signature before s.name.toList ∧ Lead s.kind before ∧
      s.Anchored text := by
  obtain ⟨before, headed, other, anchored⟩ := located_headed member
  exact ⟨before, headed.declares, leadOf_lead other headed.lead_spells, anchored⟩

theorem foundSpans_declares {least : Int} {text : List Char} {s : Span}
    (member : s ∈ foundSpans least text) :
    ∃ before, Declares s.signature before s.name.toList ∧ Lead s.kind before ∧
      s.Anchored text :=
  located_declares (foundSpans_located member)

theorem Refined.exported {text : List Char} {start : Nat} (refined : Refined text start) :
    ∃ kind signature more, text.drop start = signature ++ more ∧ Exported kind signature := by
  obtain ⟨m, found, rfl⟩ := refined
  have matched := findAll_matches _ _ _ found
  obtain ⟨margin, signature, between, opens, -, passed, reached⟩ := component_margined.split matched
  obtain ⟨kind, _, again, exported⟩ := component_exported reached
  obtain rfl := passed.unique again
  exact ⟨kind, signature, m.stop.after, opens.drop_eq matched, exported⟩

-- The refining shape begins with words that no method begins with.
theorem Refined.not_method {least : Int} {text : List Char} {s : Span}
    (member : s ∈ located least text) (method : s.kind = .method) : ¬Refined text s.start := by
  intro refined
  obtain ⟨before, declares, lead, anchored⟩ := located_declares member
  obtain ⟨rest, written⟩ := anchored.signature_prefix
  obtain ⟨kind, signature, more, there, exported⟩ := refined.exported
  obtain ⟨words, before', name, declares', led⟩ := exported.led
  rw [method] at lead
  cases lead with
  | apart words' led' => exact exported.other (led.unique declares' led' declares (written.trans there).symm)

-- A span whose name is glued to the word function keeps the kind that it was found with.
theorem glued_settled {least : Int} {text : List Char} {s : Span} (member : s ∈ foundSpans least text)
    {before : List Char} (declares : Declares s.signature before s.name.toList)
    (lead : Lead s.kind before) :
    Edge before ∨ ((s.settled text).kind = .function ∧
      ∃ front, before = front ++ "function".toList ∧ Edge front) := by
  generalize kept : s.kind = kind at lead
  cases lead with
  | apart words led => exact .inl led.phrase.edge
  | glued front among =>
    right
    constructor
    · rw [settled_kind, kept]
      split
      next refined =>
        obtain ⟨kind', signature, more, there, exported⟩ := refined.exported
        obtain ⟨words, before', name, declares', led⟩ := exported.led
        obtain ⟨-, -, -, anchored⟩ := foundSpans_declares member
        obtain ⟨rest, written⟩ := anchored.signature_prefix
        exact absurd (glued_apart among declares led declares' (written.trans there)).1 exported.other
      next => rfl
    · obtain ⟨used, -, phrase⟩ := among
      exact ⟨front, rfl, phrase.edge⟩

-- The name of a unit is the last identifier in front of what ends it. It is a whole identifier, or
-- that of a function and all of one but the word `function`.
theorem extract_names (least : Int) (path text : String) (u : RawUnit)
    (member : u ∈ extract least path text) :
    ∃ before, Declares u.signature.toList before u.name.toList ∧
      (∃ c rest, u.signature.toList = before ++ (u.name.toList ++ c :: rest) ∧
        isIdentifierChar c = false) ∧
      (Edge before ∨ (u.kind = Kind.function.label ∧
        ∃ front, before = front ++ "function".toList ∧ Edge front)) := by
  obtain ⟨s, inside, rfl⟩ := List.mem_map.mp member
  obtain ⟨old, found, rfl⟩ := (mem_spans s).mp inside
  obtain ⟨before, declares, lead, -⟩ := foundSpans_declares found
  have glued := glued_settled found declares lead
  simp only [unitOf, String.toList_ofList]
  rw [settled_eq]
  refine ⟨before, declares, declares.whole, glued.imp_right fun ⟨kind, front⟩ => ⟨?_, front⟩⟩
  rw [kind]

def registryText : String :=
  "class Registry \x7b\n  functionFor(key) \x7b\n    return this.map[key];\n  \x7d\n\x7d\n"

def registrySpan : Span :=
  ⟨19, 67, .function, "For", "functionFor(".toList⟩

theorem registrySpan_mem : registrySpan ∈ spans 10 registryText.toList :=
  mem_spans_added.mpr (by decide +kernel)

def registryUnit : RawUnit :=
  unitOf "src/registry.js" (importsOf registryText.toList) (typesOf registryText.toList)
    registryText.toList registrySpan

theorem registryUnit_mem : registryUnit ∈ extract 10 "src/registry.js" registryText :=
  List.mem_map_of_mem registrySpan_mem

theorem extract_names_registry : registryUnit ∈ extract 10 "src/registry.js" registryText ∧
    registryUnit.name = "For" ∧ ∃ before,
      Declares registryUnit.signature.toList before registryUnit.name.toList ∧
        (Edge before ∨ (registryUnit.kind = Kind.function.label ∧
          ∃ front, before = front ++ "function".toList ∧ Edge front)) := by
  obtain ⟨before, declares, -, lead⟩ :=
    extract_names 10 "src/registry.js" registryText registryUnit registryUnit_mem
  exact ⟨registryUnit_mem, rfl, before, declares, lead⟩

/-- The name stands somewhere in the text as an identifier of its own. -/
def Whole (name text : List Char) : Prop :=
  ∃ before after, text = before ++ (name ++ after) ∧ Edge before ∧
    ∀ c, after.head? = some c → isIdentifierChar c = false

-- The name of a unit need not be an identifier of its signature: the word function is cut off.
theorem extract_cuts_name : ∃ u ∈ extract 10 "src/registry.js" registryText,
    u.signature = "functionFor(" ∧ ¬Whole u.name.toList u.signature.toList := by
  refine ⟨registryUnit, registryUnit_mem, by decide, ?_⟩
  rintro ⟨before, after, split, edge, -⟩
  have places : ∀ k < 13, "For".toList.isPrefixOf ("functionFor(".toList.drop k) = true → k = 8 := by
    decide
  have text : "functionFor(".toList = before ++ ("For".toList ++ after) := split
  have short : before.length < 13 := by
    have lengths := congrArg List.length text
    simp only [List.length_append] at lengths
    have size : "functionFor(".toList.length = 12 := by decide
    omega
  have eight : before.length = 8 := by
    refine places before.length short ?_
    rw [text, List.drop_left]
    simp
  have front : before = "function".toList := by
    have taken : "functionFor(".toList.take 8 = before := by
      rw [text, ← eight, List.take_left]
    rw [← taken]
    decide
  rw [front] at edge
  exact absurd (edge 'n' (by decide)) (by decide)

end CodeAtlas.Source
