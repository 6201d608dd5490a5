import CodeAtlas.Classify.Basic
import CodeAtlas.Proofs.Rules.Nesting
import CodeAtlas.Proofs.Text.Distinct

set_option autoImplicit false

/-! What every rule set that is built from a document keeps to, at any depth of its rules, and what
that says about purposes. -/

namespace CodeAtlas.Rules

open CodeAtlas.Text

def InUnit (x : Float) : Prop :=
  0.0 ≤ x ∧ x ≤ 1.0

/-- A text that is neither empty nor made of white space alone. -/
def Labels (text : String) : Prop :=
  ∃ c ∈ text.toList, isBlank c = false

/-- A rule as it has to be, with all that are nested in it. -/
inductive Rule.WellFormed : Rule → Prop
  | intro (rule : Rule) (asks : rule.conditions ≠ [])
      (parsed : List.Forall₂ (fun text condition => Condition.parse text = .ok condition)
        rule.conditions rule.predicates)
      (labelled : Labels rule.label) (confident : InUnit rule.confidence)
      (combined : rule.combinator = .all ∨ rule.combinator = .any)
      (nested : ∀ sub ∈ rule.subRules, sub.WellFormed) : rule.WellFormed

structure RuleSet.WellFormed (rules : RuleSet) : Prop where
  purposes : ∀ rule ∈ rules.purposeRules, rule.WellFormed
  bundles : ∀ rule ∈ rules.bundleRules, rule.WellFormed
  path : ∀ rule, rules.pathRule = some rule → rule.WellFormed
  fallback : Labels rules.fallbackPurpose
  fallbackConfident : InUnit rules.fallbackConfidence
  defaultConfident : InUnit rules.defaultConfidence

theorem Rule.WellFormed.labelled {rule : Rule} (formed : rule.WellFormed) : Labels rule.label := by
  cases formed
  assumption

theorem Rule.WellFormed.confident {rule : Rule} (formed : rule.WellFormed) :
    InUnit rule.confidence := by
  cases formed
  assumption

theorem unitInterval_ok {place : String} {x y : Float} (checked : unitInterval place x = .ok y) :
    InUnit y := by
  unfold unitInterval at checked
  split at checked
  · next inside =>
    obtain rfl := Except.ok.inj checked
    exact (Bool.and_eq_true_iff.mp inside).imp of_decide_eq_true of_decide_eq_true
  · cases checked

theorem confidenceField_ok {place : String} {default x : Float} {fields : List (String × Document)}
    (checked : confidenceField place default fields = .ok x) : InUnit x := by
  unfold confidenceField confidence at checked
  split at checked
  · split at checked
    · exact unitInterval_ok checked
    · cases checked
  · exact unitInterval_ok checked
  · cases checked

theorem label_ok {place text : String} {value : Option Document}
    (checked : label place value = .ok text) : Labels text := by
  unfold label at checked
  split at checked
  · split at checked
    · cases checked
    · next inked =>
      obtain rfl := Except.ok.inj checked
      simpa [isBlankText, Labels] using inked
  · cases checked

theorem texts?_nonempty {item : Document} {items : List Document} {texts : List String}
    (read : (Document.list (item :: items)).texts? = some texts) : texts ≠ [] := by
  rintro rfl
  simp only [Document.texts?, List.mapM_cons] at read
  obtain ⟨first, -, read⟩ := Option.bind_eq_some_iff.mp read
  obtain ⟨others, -, read⟩ := Option.bind_eq_some_iff.mp read
  cases read

theorem conditionTexts_ok {place : String} {value : Option Document} {texts : List String}
    (read : conditionTexts place value = .ok texts) : texts ≠ [] := by
  unfold conditionTexts at read
  split at read
  · obtain rfl := Except.ok.inj read
    exact List.cons_ne_nil _ _
  · split at read
    · next found =>
      obtain rfl := Except.ok.inj read
      exact texts?_nonempty found
    · cases read
  · cases read

theorem forall₂_of_mapM {α β : Type} {next : α → Built β} {items : List α} {values : List β}
    (mapped : items.mapM next = .ok values) :
    List.Forall₂ (fun item value => next item = .ok value) items values := by
  induction items generalizing values with
  | nil =>
    obtain rfl := Except.ok.inj mapped
    exact .nil
  | cons item rest ih =>
    rw [List.mapM_cons] at mapped
    obtain ⟨value, first, mapped⟩ := ok_of_bind mapped
    obtain ⟨others, later, mapped⟩ := ok_of_bind mapped
    obtain rfl := Except.ok.inj mapped
    exact .cons first (ih later)

theorem assemble_wellFormed {labelKey place name : String} {fields : List (String × Document)}
    {texts : List String} {explicit : Option Combinator} {subRules : List Rule} {rule : Rule}
    (asks : texts ≠ []) (nested : ∀ sub ∈ subRules, sub.WellFormed)
    (built : assemble labelKey place name fields texts explicit subRules = .ok rule) :
    rule.WellFormed := by
  obtain ⟨predicates, parsed, built⟩ := ok_of_bind built
  obtain ⟨label, labelled, built⟩ := ok_of_bind built
  obtain ⟨confidence, confident, built⟩ := ok_of_bind built
  obtain rfl := Except.ok.inj built
  constructor
  · exact asks
  · exact forall₂_of_mapM parsed
  · exact label_ok labelled
  · exact confidenceField_ok confident
  · cases Combinator.resolve predicates explicit
    · exact .inl rfl
    · exact .inr rfl
  · exact nested

/-- Whatever rules come out of a document are well formed, at any depth. -/
theorem built_wellFormed (labelKey : String) (document : Document) :
    (∀ place name rule, buildRule labelKey place name document = .ok rule → rule.WellFormed) ∧
    ∀ place rules, buildBlock labelKey place document = .ok rules →
      List.Forall₂ (fun _ rule => rule.WellFormed) (membersOf document) rules := by
  apply built_induct
  intro place name fields texts explicit subRules rule read _ nested built
  refine assemble_wellFormed (conditionTexts_ok read) ?_ built
  intro sub member
  obtain ⟨field, -, formed⟩ := mem_of_forall₂ nested.flip member
  exact formed

theorem buildRule_wellFormed {labelKey place name : String} {document : Document} {rule : Rule}
    (built : buildRule labelKey place name document = .ok rule) : rule.WellFormed :=
  (built_wellFormed labelKey document).1 place name rule built

theorem patternRules_wellFormed {labelKey group : String} {patterns : Document} {rules : List Rule}
    (built : patternRules labelKey group patterns = .ok rules) :
    ∀ rule ∈ rules, rule.WellFormed := by
  have each := patternRules_forall₂ (fun _ _ _ _ => buildRule_wellFormed) built
  intro rule member
  obtain ⟨field, -, formed⟩ := mem_of_forall₂ each.flip member
  exact formed

theorem pathRuleOf_wellFormed {fallback : List (String × Document)} {found : Option Rule}
    (built : pathRuleOf fallback = .ok found) (rule : Rule) (given : found = some rule) :
    rule.WellFormed := by
  unfold pathRuleOf at built
  split at built
  · obtain ⟨other, raw, built⟩ := ok_of_bind built
    obtain rfl := Except.ok.inj built
    obtain rfl := Option.some.inj given
    exact buildRule_wellFormed raw
  · obtain rfl := Except.ok.inj built
    cases given

theorem defaultsOf_confident {fallback : List (String × Document)} {labels : List String}
    {confidence : Float} (built : defaultsOf fallback = .ok (labels, confidence)) :
    InUnit confidence := by
  unfold defaultsOf at built
  split at built
  · obtain ⟨fields, -, built⟩ := ok_of_bind built
    split at built
    · obtain ⟨x, checked, built⟩ := ok_of_bind built
      obtain rfl := (Prod.mk.inj (Except.ok.inj built)).2
      exact confidenceField_ok checked
    · cases built
  · obtain rfl := (Prod.mk.inj (Except.ok.inj built)).2
    exact ⟨by decide, by decide⟩

theorem build_ok {source : String} {document : Document} {rules : RuleSet}
    (built : build source document = .ok rules) : rules.WellFormed := by
  obtain ⟨purpose, bundle, grouped⟩ := build_grouped built
  constructor
  · exact patternRules_wellFormed grouped.purposes
  · exact patternRules_wellFormed grouped.bundles
  · exact pathRuleOf_wellFormed grouped.path
  · exact label_ok grouped.fallback
  · exact confidenceField_ok grouped.confident
  · exact defaultsOf_confident grouped.defaults

theorem builtin_formed : builtin.WellFormed :=
  build_ok build_builtin

end CodeAtlas.Rules

namespace CodeAtlas.Classify

open CodeAtlas.Rules CodeAtlas.Source

/-- What the purpose of a unit has to be: a label with a confidence, and with the name of a rule just
where a rule is met. The classified unit takes it over. -/
structure Judged (rules : RuleSet) (u : RawUnit) : Prop where
  labelled : Labels (purposeOf rules u).label
  confident : InUnit (purposeOf rules u).confidence
  unnamed : (purposeOf rules u).rule = none ↔
    ∀ rule ∈ rules.purposeRules, rule.meets (unitSighting u) = false
  classified : Labels (classify rules u).purpose ∧ InUnit (classify rules u).confidence

theorem purposeOf_unmet {rules : RuleSet} {u : RawUnit}
    (unmet : firstMet rules.purposeRules (unitSighting u) = none) :
    purposeOf rules u = ⟨rules.fallbackPurpose, rules.fallbackConfidence, none⟩ := by
  rw [purposeOf, unmet]

theorem purposeOf_met {rules : RuleSet} {u : RawUnit} {rule : Rule}
    (met : firstMet rules.purposeRules (unitSighting u) = some rule) :
    purposeOf rules u = ⟨rule.label, rule.confidence, some rule.name⟩ := by
  rw [purposeOf, met]

theorem judged {rules : RuleSet} (formed : rules.WellFormed) (u : RawUnit) : Judged rules u := by
  suffices legal : Labels (purposeOf rules u).label ∧ InUnit (purposeOf rules u).confidence ∧
      ((purposeOf rules u).rule = none ↔
        ∀ rule ∈ rules.purposeRules, rule.meets (unitSighting u) = false) by
    obtain ⟨labelled, confident, unnamed⟩ := legal
    exact ⟨labelled, confident, unnamed, labelled, confident⟩
  cases met : firstMet rules.purposeRules (unitSighting u) with
  | none =>
    have unmet : ∀ rule ∈ rules.purposeRules, rule.meets (unitSighting u) = false := by
      simpa [firstMet] using met
    rw [purposeOf_unmet met]
    exact ⟨formed.fallback, formed.fallbackConfident, fun _ => unmet, fun _ => rfl⟩
  | some rule =>
    have found : rules.purposeRules.find? (·.meets (unitSighting u)) = some rule := met
    have member : rule ∈ rules.purposeRules := List.mem_of_find?_eq_some found
    have meets := List.find?_some found
    have rule_formed := formed.purposes rule member
    rw [purposeOf_met met]
    refine ⟨rule_formed.labelled, rule_formed.confident, ?_, ?_⟩
    · intro unnamed
      cases unnamed
    · intro unmet
      simp [unmet rule member] at meets

-- A document that is taken gives well-formed rules at every depth, and a purpose for any unit.
theorem build_judges (source : String) (document : Document) (rules : RuleSet)
    (built : build source document = .ok rules) :
    rules.WellFormed ∧ ∀ u : RawUnit, Judged rules u :=
  ⟨build_ok built, judged (build_ok built)⟩

theorem build_judges_builtin : build "default" Builtin.document = .ok builtin ∧
    builtin.WellFormed ∧ ∀ u : RawUnit, Judged builtin u :=
  ⟨build_builtin, build_judges "default" Builtin.document builtin build_builtin⟩

end CodeAtlas.Classify
