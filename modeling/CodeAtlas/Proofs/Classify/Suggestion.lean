import CodeAtlas.Classify.Purpose
import CodeAtlas.Proofs.Rules.Nesting
import CodeAtlas.Rules.Builtin

set_option autoImplicit false

/-! The labels suggested for a path, in terms of the whole tree of rules. -/

namespace CodeAtlas.Classify

open CodeAtlas.Rules CodeAtlas.Text

def labelsAt (places : List Placed) : List String :=
  places.map (·.rule.label)

/-- Met in its place, and a rule at the top or right below one. -/
def within (s : Sighting) (p : Placed) : Bool :=
  p.met s && decide (p.depth ≤ 1)

section

variable {s : Sighting}

theorem filter_deep {above : List Rule} (deep : 1 < above.length) (rules : List Rule) :
    (placedAll above rules).filter (within s) = [] := by
  rw [List.filter_eq_nil_iff]
  intro p member inside
  obtain ⟨-, shallow⟩ := Bool.and_eq_true_iff.mp inside
  have lower := (above_suffix.2 above rules p member).length_le
  exact absurd (of_decide_eq_true shallow) (Nat.not_le.mpr (Nat.lt_of_lt_of_le deep lower))

theorem labels_below {rule : Rule} (met : rule.meets s = true) (subRules : List Rule) :
    labelsAt ((placedAll [rule] subRules).filter (within s)) =
      (subRules.filter (·.meets s)).map (·.label) := by
  induction subRules with
  | nil => rfl
  | cons sub rest ih =>
    have here : within s ⟨[rule], sub⟩ = sub.meets s := by
      simp [within, Placed.met, Placed.depth, met]
    have deeper : (placedAll [sub, rule] sub.subRules).filter (within s) = [] :=
      filter_deep (by simp) sub.subRules
    rw [placedAll, Rule.placed_eq, List.cons_append, List.filter_cons, List.filter_append, deeper,
      List.nil_append, here, List.filter_cons]
    split
    · exact congrArg (sub.label :: ·) ih
    · exact ih

theorem labels_unmet {rule : Rule} (unmet : rule.meets s = false) :
    (rule.placed []).filter (within s) = [] := by
  rw [List.filter_eq_nil_iff]
  intro p member inside
  obtain ⟨met, -⟩ := Bool.and_eq_true_iff.mp inside
  obtain ⟨here, outside⟩ := Bool.and_eq_true_iff.mp met
  rw [Rule.placed_eq, List.mem_cons] at member
  cases member with
  | inl top =>
    rw [top, unmet] at here
    cases here
  | inr nested =>
    have outer := (above_suffix.2 [rule] rule.subRules p nested).subset List.mem_cons_self
    have holds := List.all_eq_true.mp outside rule outer
    rw [unmet] at holds
    cases holds

/-- Of all that is nested in a rule, only the rules right below it give their labels. -/
theorem labelsOf_places (s : Sighting) (rule : Rule) :
    labelsOf s rule = labelsAt ((rule.placed []).filter (within s)) := by
  rw [labelsOf]
  split
  · next met =>
    have top : within s ⟨[], rule⟩ = true := by simp [within, Placed.met, Placed.depth, met]
    rw [Rule.placed_eq, List.filter_cons_of_pos top, ← labels_below met rule.subRules]
    rfl
  · next unmet => rw [labels_unmet (Bool.not_eq_true _ ▸ unmet)]; rfl

theorem flatMap_labelsOf (s : Sighting) (rules : List Rule) :
    rules.flatMap (labelsOf s) = labelsAt ((placedAll [] rules).filter (within s)) := by
  induction rules with
  | nil => rfl
  | cons rule rest ih =>
    rw [List.flatMap_cons, labelsOf_places, ih, placedAll, List.filter_append, labelsAt, labelsAt,
      labelsAt, List.map_append]

end

/-- What a path is given where some bundle rule is met: the labels of the bundle rules that are met and of
the rules right below them that are, each once, in the order of the document. If no rule further
down is met in its place, they are the labels of all rules that are. -/
theorem suggestLabels_nested {source : String} {document : Document} {rules : RuleSet}
    (built : build source document = .ok rules) {path : String}
    (met : ∃ rule ∈ rules.bundleRules, rule.meets (pathSighting path) = true) :
    List.Forall₂ (fun field rule => rule.Declared "bundle" field.1 field.2)
        (bundlePatterns document) rules.bundleRules ∧
      suggestLabels rules path =
        distinct (labelsAt ((placedAll [] rules.bundleRules).filter (within (pathSighting path)))) ∧
      ((∀ p ∈ placedAll [] rules.bundleRules, p.met (pathSighting path) = true → p.depth ≤ 1) →
        suggestLabels rules path =
          distinct (labelsAt ((placedAll [] rules.bundleRules).filter
            (Placed.met (pathSighting path))))) := by
  have suggested : suggestLabels rules path =
      distinct (labelsAt ((placedAll [] rules.bundleRules).filter (within (pathSighting path)))) := by
    rw [suggestLabels, ← flatMap_labelsOf]
    obtain ⟨rule, member, here⟩ := met
    have given : rule.label ∈ rules.bundleRules.flatMap (labelsOf (pathSighting path)) := by
      refine List.mem_flatMap.mpr ⟨rule, member, ?_⟩
      rw [labelsOf, if_pos here]
      exact List.mem_cons_self
    split
    · next nothing =>
      rw [nothing] at given
      cases given
    · rfl
  refine ⟨build_declares built, suggested, ?_⟩
  intro shallow
  have same : (placedAll [] rules.bundleRules).filter (within (pathSighting path)) =
      (placedAll [] rules.bundleRules).filter (Placed.met (pathSighting path)) := by
    refine List.filter_congr fun p member => ?_
    rw [within, Bool.and_eq_left_iff_imp]
    exact fun here => decide_eq_true (shallow p member here)
  rw [suggested, same]

def formsEntry (name condition : String) (more : List (String × Document)) : String × Document :=
  Builtin.ruleEntry "bundle" name [condition] name 0.5 more

/-- Rules for forms within those for an interface within those for an application. -/
def formsDocument : Document :=
  .object
    [("purposeHeuristics", .object
      [("patterns", .object []), ("fallback", .object [("purpose", .text "Misc")])]),
     ("bundleHeuristics", .object
      [("patterns", .object
        [formsEntry "app" "pathParts.includes('app')"
          [("subPatterns", .object
            [formsEntry "ui" "pathParts.includes('ui')"
              [("subRules", .object [formsEntry "forms" "fileName.includes('form')" []])]])]]),
       ("fallback", .object [])]),
     ("semanticTypeMapping", .object [("clusters", .object [])])]

def formsRules : RuleSet :=
  (build "inline" formsDocument).toOption.getD bare

theorem forms_built : build "inline" formsDocument = .ok formsRules := by
  have valid : (build "inline" formsDocument).toOption.isSome = true := by decide +kernel
  unfold formsRules
  generalize build "inline" formsDocument = result at valid ⊢
  cases result with
  | ok rules => rfl
  | error fault => cases valid

/-- A path where no form is met, and all that is met is suggested. -/
theorem suggestLabels_nested_list :
    build "inline" formsDocument = .ok formsRules ∧
      (∃ rule ∈ formsRules.bundleRules, rule.meets (pathSighting "app/ui/list.ts") = true) ∧
      suggestLabels formsRules "app/ui/list.ts" = ["app", "ui"] ∧
      suggestLabels formsRules "app/ui/list.ts" =
        distinct (labelsAt ((placedAll [] formsRules.bundleRules).filter
          (Placed.met (pathSighting "app/ui/list.ts")))) := by
  have met : ∃ rule ∈ formsRules.bundleRules,
      rule.meets (pathSighting "app/ui/list.ts") = true := by decide +kernel
  have shallow : ∀ p ∈ placedAll [] formsRules.bundleRules,
      p.met (pathSighting "app/ui/list.ts") = true → p.depth ≤ 1 := by decide +kernel
  have nested := suggestLabels_nested forms_built met
  exact ⟨forms_built, met, nested.2.1.trans (by decide +kernel), nested.2.2 shallow⟩

/-- A form is met in its place below the interface, and its label is not suggested. -/
theorem suggestLabels_omits_form :
    build "inline" formsDocument = .ok formsRules ∧
      (∃ rule ∈ formsRules.bundleRules, rule.meets (pathSighting "app/ui/form.ts") = true) ∧
      suggestLabels formsRules "app/ui/form.ts" = ["app", "ui"] ∧
      distinct (labelsAt ((placedAll [] formsRules.bundleRules).filter
        (Placed.met (pathSighting "app/ui/form.ts")))) = ["app", "ui", "forms"] :=
  ⟨forms_built, by decide +kernel, by decide +kernel, by decide +kernel⟩

end CodeAtlas.Classify
