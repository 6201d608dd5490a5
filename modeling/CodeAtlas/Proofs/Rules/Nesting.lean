import CodeAtlas.Proofs.Document.Every
import CodeAtlas.Proofs.Rules.Build
import Mathlib.Data.List.Forall2

set_option autoImplicit false

/-! Trees of rules: how the rules of a document are built along its objects, and where each of them stands
below the others. -/

namespace CodeAtlas.Rules

theorem ok_of_bind {α β : Type} {first : Built α} {next : α → Built β} {value : β}
    (built : first >>= next = .ok value) : ∃ a, first = .ok a ∧ next a = .ok value := by
  cases first with
  | error fault => cases built
  | ok a => exact ⟨a, rfl, built⟩

/-! ### Rules along a document -/

theorem buildNamed_eq (labelKey place key : String) (fields : List (String × Document)) :
    buildNamed labelKey place key fields =
      (Keyed.lookup key fields).map (buildBlock labelKey place) := by
  induction fields with
  | nil => rfl
  | cons field rest ih =>
    obtain ⟨name, value⟩ := field
    rw [buildNamed, Keyed.lookup, ih]
    split <;> rfl

def membersOf : Document → List (String × Document)
  | .object fields => fields
  | _ => []

/-- The rules that are nested in the one with these fields, under either of two names. -/
def nestedFields (fields : List (String × Document)) : List (String × Document) :=
  ((Keyed.lookup "subPatterns" fields <|> Keyed.lookup "subRules" fields).map membersOf).getD []

section

variable {labelKey : String} {holds : String → Document → Rule → Prop}

theorem buildRules_forall₂ {place : String} {fields : List (String × Document)} {rules : List Rule}
    (each : ∀ field ∈ fields, ∀ place name rule,
      buildRule labelKey place name field.2 = .ok rule → holds name field.2 rule)
    (built : buildRules labelKey place fields = .ok rules) :
    List.Forall₂ (fun field rule => holds field.1 field.2 rule) fields rules := by
  induction fields generalizing rules with
  | nil =>
    rw [buildRules] at built
    obtain rfl := Except.ok.inj built
    exact .nil
  | cons field rest ih =>
    obtain ⟨name, value⟩ := field
    rw [buildRules] at built
    obtain ⟨rule, first, built⟩ := ok_of_bind built
    obtain ⟨others, later, built⟩ := ok_of_bind built
    obtain rfl := Except.ok.inj built
    have here := each (name, value) List.mem_cons_self _ name rule first
    exact .cons here (ih (fun field member => each field (List.mem_cons_of_mem _ member)) later)

theorem buildRule_plain {document : Document} (plain : ∀ fields, document ≠ .object fields)
    (place name : String) (rule : Rule) : buildRule labelKey place name document ≠ .ok rule := by
  intro built
  rw [buildRule] at built
  · cases built
  · exact plain

theorem buildBlock_plain {document : Document} (plain : ∀ fields, document ≠ .object fields)
    {place : String} {rules : List Rule} (built : buildBlock labelKey place document = .ok rules) :
    membersOf document = [] ∧ rules = [] := by
  rw [buildBlock] at built
  · split at built
    · cases built
    · refine ⟨?_, (Except.ok.inj built).symm⟩
      cases document with
      | object fields => exact absurd rfl (plain fields)
      | _ => rfl
  · exact plain

/-- What holds of each rule that is assembled, given that it holds of the rules nested in it, holds of all
rules that are built. A rule and the block of the rules in it are followed at once, as each holds the
next. -/
theorem built_induct
    (step : ∀ place name fields texts explicit subRules rule,
      conditionTexts place (Keyed.lookup "conditions" fields) = .ok texts →
      explicitMatch place (Keyed.lookup "match" fields) = .ok explicit →
      List.Forall₂ (fun field sub => holds field.1 field.2 sub) (nestedFields fields) subRules →
      assemble labelKey place name fields texts explicit subRules = .ok rule →
      holds name (.object fields) rule) (document : Document) :
    (∀ place name rule, buildRule labelKey place name document = .ok rule →
      holds name document rule) ∧
    ∀ place rules, buildBlock labelKey place document = .ok rules →
      List.Forall₂ (fun field rule => holds field.1 field.2 rule) (membersOf document) rules := by
  have atom (document : Document) (plain : ∀ fields, document ≠ .object fields) :
      (∀ place name rule, buildRule labelKey place name document = .ok rule →
        holds name document rule) ∧
      ∀ place rules, buildBlock labelKey place document = .ok rules →
        List.Forall₂ (fun field rule => holds field.1 field.2 rule) (membersOf document) rules := by
    constructor
    · intro place name rule built
      exact absurd built (buildRule_plain plain place name rule)
    · intro place rules built
      obtain ⟨empty, rfl⟩ := buildBlock_plain plain built
      rw [empty]
      exact .nil
  induction document using Document.induct with
  | scalar document _ plain => exact atom document plain
  | list items _ => exact atom (.list items) (fun _ => nofun)
  | object fields ih =>
    constructor
    · intro place name rule built
      rw [buildRule] at built
      obtain ⟨texts, read, built⟩ := ok_of_bind built
      obtain ⟨explicit, joined, built⟩ := ok_of_bind built
      simp only [buildNamed_eq] at built
      have nested {value : Document} {key place : String} {subRules : List Rule}
          (found : Keyed.lookup key fields = some value)
          (below : buildBlock labelKey place value = .ok subRules) :=
        (ih _ (Keyed.mem_of_lookup found)).2 place subRules below
      cases patterns : Keyed.lookup "subPatterns" fields with
      | some value =>
        rw [patterns] at built
        obtain ⟨subRules, below, built⟩ := ok_of_bind built
        refine step place name fields texts explicit subRules rule read joined ?_ built
        simpa [nestedFields, patterns] using nested patterns below
      | none =>
        rw [patterns] at built
        obtain ⟨subRules, below, built⟩ := ok_of_bind built
        refine step place name fields texts explicit subRules rule read joined ?_ built
        cases rules : Keyed.lookup "subRules" fields with
        | some value =>
          rw [rules] at below
          simpa [nestedFields, patterns, rules] using nested rules below
        | none =>
          rw [rules] at below
          obtain rfl := Except.ok.inj below
          simp [nestedFields, patterns, rules]
    · intro place rules built
      rw [buildBlock] at built
      exact buildRules_forall₂ (fun field member => (ih field member).1) built

theorem patternRules_forall₂ {group : String} {patterns : Document} {rules : List Rule}
    (each : ∀ document place name rule, buildRule labelKey place name document = .ok rule →
      holds name document rule)
    (built : patternRules labelKey group patterns = .ok rules) :
    List.Forall₂ (fun field rule => holds field.1 field.2 rule) (membersOf patterns) rules := by
  obtain ⟨fields, isObject, built⟩ := ok_of_bind built
  obtain rfl := fieldsOf_ok isObject
  exact buildRules_forall₂ (fun field _ => each field.2) built

end

/-- A rule as it is declared by the object under its name, with the rules nested in it in the order of
their fields. -/
inductive Rule.Declared (labelKey : String) : String → Document → Rule → Prop
  | intro {place name : String} {fields : List (String × Document)} {explicit : Option Combinator}
      {rule : Rule} (named : rule.name = name)
      (asks : conditionTexts place (Keyed.lookup "conditions" fields) = .ok rule.conditions)
      (parsed : rule.conditions.mapM Condition.parse = .ok rule.predicates)
      (joined : explicitMatch place (Keyed.lookup "match" fields) = .ok explicit)
      (combined : rule.combinator = .resolve rule.predicates explicit)
      (labelled : Keyed.lookup labelKey fields = some (.text rule.label))
      (nested : List.Forall₂ (fun field sub => Declared labelKey field.1 field.2 sub)
        (nestedFields fields) rule.subRules) :
      Declared labelKey name (.object fields) rule

theorem label_eq {place text : String} {value : Option Document}
    (checked : label place value = .ok text) : value = some (.text text) := by
  unfold label at checked
  split at checked
  · split at checked
    · cases checked
    · exact congrArg (some ∘ Document.text) (Except.ok.inj checked)
  · cases checked

theorem built_declared (labelKey : String) (document : Document) :
    (∀ place name rule, buildRule labelKey place name document = .ok rule →
      rule.Declared labelKey name document) ∧
    ∀ place rules, buildBlock labelKey place document = .ok rules →
      List.Forall₂ (fun field rule => rule.Declared labelKey field.1 field.2)
        (membersOf document) rules := by
  apply built_induct
  intro place name fields texts explicit subRules rule read joined nested built
  obtain ⟨predicates, parsed, built⟩ := ok_of_bind built
  obtain ⟨label, labelled, built⟩ := ok_of_bind built
  obtain ⟨confidence, -, built⟩ := ok_of_bind built
  obtain rfl := Except.ok.inj built
  constructor
  · rfl
  · exact read
  · exact parsed
  · exact joined
  · rfl
  · exact label_eq labelled
  · exact nested

/-! ### The groups of a document -/

def memberOf (name : String) (document : Document) : Document :=
  (Keyed.lookup name (membersOf document)).getD .null

-- The bundle rules of a document as it declares them.
def bundlePatterns (document : Document) : List (String × Document) :=
  membersOf (memberOf "patterns" (memberOf "bundleHeuristics" document))

/-- What the parts of a rule set are built from, given its two groups of rules. -/
structure Grouped (document : Document) (rules : RuleSet) (purpose bundle : Group) : Prop where
  purposeGroup : groupOf "purposeHeuristics" (memberOf "purposeHeuristics" document) = .ok purpose
  bundleGroup : groupOf "bundleHeuristics" (memberOf "bundleHeuristics" document) = .ok bundle
  purposes : patternRules "purpose" "purposeHeuristics" purpose.patterns = .ok rules.purposeRules
  bundles : patternRules "bundle" "bundleHeuristics" bundle.patterns = .ok rules.bundleRules
  path : pathRuleOf bundle.fallback = .ok rules.pathRule
  defaults : defaultsOf bundle.fallback = .ok (rules.defaultLabels, rules.defaultConfidence)
  fallback : label "purposeHeuristics.fallback.purpose" (Keyed.lookup "purpose" purpose.fallback) =
    .ok rules.fallbackPurpose
  confident : confidenceField "purposeHeuristics.fallback" 0.5 purpose.fallback =
    .ok rules.fallbackConfidence

theorem requiredGroup_ok {fields : List (String × Document)} {name : String} {value : Document}
    (found : requiredGroup fields name = .ok value) : memberOf name (.object fields) = value := by
  unfold requiredGroup at found
  split at found
  · next present =>
    obtain rfl := Except.ok.inj found
    exact congrArg (·.getD .null) present
  · cases found

theorem build_grouped {source : String} {document : Document} {rules : RuleSet}
    (built : build source document = .ok rules) :
    ∃ purpose bundle, Grouped document rules purpose bundle := by
  obtain ⟨fields, isObject, built⟩ := ok_of_bind built
  obtain rfl := fieldsOf_ok isObject
  obtain ⟨purposeValue, purposeFound, built⟩ := ok_of_bind built
  obtain ⟨bundleValue, bundleFound, built⟩ := ok_of_bind built
  obtain ⟨mappingValue, -, built⟩ := ok_of_bind built
  obtain ⟨purpose, purposeGroup, built⟩ := ok_of_bind built
  obtain ⟨bundle, bundleGroup, built⟩ := ok_of_bind built
  obtain ⟨pathRule, path, built⟩ := ok_of_bind built
  obtain ⟨⟨defaultLabels, defaultConfidence⟩, defaults, built⟩ := ok_of_bind built
  obtain ⟨typeClusters, -, built⟩ := ok_of_bind built
  obtain ⟨version, -, built⟩ := ok_of_bind built
  obtain ⟨purposeRules, purposes, built⟩ := ok_of_bind built
  obtain ⟨fallbackPurpose, fallback, built⟩ := ok_of_bind built
  obtain ⟨fallbackConfidence, confident, built⟩ := ok_of_bind built
  obtain ⟨bundleRules, bundles, built⟩ := ok_of_bind built
  obtain ⟨-, -, built⟩ := ok_of_bind built
  obtain rfl := Except.ok.inj built
  rw [← requiredGroup_ok purposeFound] at purposeGroup
  rw [← requiredGroup_ok bundleFound] at bundleGroup
  exact ⟨purpose, bundle, purposeGroup, bundleGroup, purposes, bundles, path, defaults, fallback,
    confident⟩

theorem groupOf_patterns {name : String} {value : Document} {group : Group}
    (given : groupOf name value = .ok group) : memberOf "patterns" value = group.patterns := by
  obtain ⟨fields, isObject, made⟩ := ok_of_bind given
  obtain rfl := fieldsOf_ok isObject
  split at made
  · next patterns _ found _ =>
    obtain ⟨others, -, made⟩ := ok_of_bind made
    obtain rfl := Except.ok.inj made
    exact congrArg (·.getD .null) found
  · cases made

/-- The bundle rules of a document that is taken are those that it declares, each with the rules nested in
it. -/
theorem build_declares {source : String} {document : Document} {rules : RuleSet}
    (built : build source document = .ok rules) :
    List.Forall₂ (fun field rule => rule.Declared "bundle" field.1 field.2)
      (bundlePatterns document) rules.bundleRules := by
  obtain ⟨purpose, bundle, grouped⟩ := build_grouped built
  rw [bundlePatterns, groupOf_patterns grouped.bundleGroup]
  exact patternRules_forall₂ (fun document => (built_declared "bundle" document).1) grouped.bundles

/-! ### Places in a tree -/

/-- A rule in a tree of rules, with the rules that it is nested in, nearest first. -/
structure Placed where
  above : List Rule
  rule : Rule

mutual

-- A rule and all below it, in the order of their declaration.
def Rule.placed (above : List Rule) : Rule → List Placed
  | ⟨name, conditions, predicates, label, confidence, combinator, subRules⟩ =>
    let rule := ⟨name, conditions, predicates, label, confidence, combinator, subRules⟩
    ⟨above, rule⟩ :: placedAll (rule :: above) subRules

def placedAll (above : List Rule) : List Rule → List Placed
  | [] => []
  | rule :: rest => rule.placed above ++ placedAll above rest

end

theorem Rule.placed_eq (above : List Rule) (rule : Rule) :
    rule.placed above = ⟨above, rule⟩ :: placedAll (rule :: above) rule.subRules := by
  cases rule
  rw [Rule.placed]

-- What is nested in a rule has all the rules above that one above it too.
theorem above_suffix :
    (∀ above, ∀ rule : Rule, ∀ p ∈ rule.placed above, above <:+ p.above) ∧
      ∀ above rules, ∀ p ∈ placedAll above rules, above <:+ p.above := by
  apply Rule.placed.mutual_induct
  case case1 =>
    intro above name conditions predicates label confidence combinator subRules rule below p member
    rw [Rule.placed] at member
    cases List.mem_cons.mp member with
    | inl here => exact here ▸ List.suffix_rfl
    | inr nested => exact (List.suffix_cons rule above).trans (below p nested)
  case case2 =>
    intro above p member
    cases member
  case case3 =>
    intro above rule rest first later p member
    rw [placedAll, List.mem_append] at member
    exact member.elim (first p) (later p)

/-- Met in its place: all the rules above it are met too. -/
def Placed.met (s : Sighting) (p : Placed) : Bool :=
  p.rule.meets s && p.above.all (·.meets s)

def Placed.depth (p : Placed) : Nat :=
  p.above.length

end CodeAtlas.Rules
