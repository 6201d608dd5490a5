import CodeAtlas.Classify.Entry
import CodeAtlas.Proofs.Rules.Build
import CodeAtlas.Proofs.Source.Separators

set_option autoImplicit false

/-! Units are classified alike, and paths labelled alike, if their paths differ only in their separators,
unless a rule asks a file name for a separator. -/

namespace CodeAtlas

open CodeAtlas.Classify CodeAtlas.Rules CodeAtlas.Source CodeAtlas.Text

namespace Rules

/-- A condition that asks a file name for no separator. -/
def Condition.isClear : Condition → Bool
  | .fileContains value => value.toList.all (!isSeparator ·)
  | .fileEnds value => value.toList.all (!isSeparator ·)
  | _ => true

def Rule.isClear (rule : Rule) : Bool :=
  rule.predicates.all (·.isClear)

/-- No rule that is asked anything asks a file name for a separator. The rules inside of a sub-rule are
asked nothing. -/
structure RuleSet.Clear (rules : RuleSet) : Prop where
  purpose : ∀ rule ∈ rules.purposeRules, rule.isClear = true
  bundle : ∀ rule ∈ rules.bundleRules, rule.isClear = true
  sub : ∀ rule ∈ rules.bundleRules, ∀ sub ∈ rule.subRules, sub.isClear = true
  path : ∀ rule, rules.pathRule = some rule → rule.isClear = true

/-- What is seen of one thing under paths that differ only in their separators. -/
inductive SeenAlike : Sighting → Sighting → Prop
  | seen (s : Sighting) (path other : String) (alike : Alike path other) :
      SeenAlike { s with fileName := lower path } { s with fileName := lower other }

theorem Condition.holds_eq {s t : Sighting} (seen : SeenAlike s t) {c : Condition}
    (clear : c.isClear = true) : c.holds t = c.holds s := by
  obtain ⟨s, path, other, alike⟩ := seen
  cases c with
  | fileContains value =>
    have plain : ∀ c ∈ value.toList, isSeparator c = false := by simpa [isClear] using clear
    simp only [holds, alike.lower_isEmpty_eq, alike.contains_eq plain]
  | fileEnds value =>
    have plain : ∀ c ∈ value.toList, isSeparator c = false := by simpa [isClear] using clear
    simp only [holds, alike.lower_isEmpty_eq, alike.hasEnd_eq plain]
  | _ => rfl

theorem Rule.meets_eq {s t : Sighting} (seen : SeenAlike s t) {rule : Rule}
    (clear : rule.isClear = true) : rule.meets t = rule.meets s := by
  have each : rule.predicates.map (·.holds t) = rule.predicates.map (·.holds s) :=
    List.map_congr_left fun c member =>
      Condition.holds_eq seen (List.all_eq_true.mp clear c member)
  have any := congrArg (List.any · id) each
  have all := congrArg (List.all · id) each
  simp only [List.any_map, List.all_map, Function.id_comp] at any all
  simp only [Rule.meets, Combinator.holds]
  cases rule.combinator with
  | any => exact congrArg (!rule.predicates.isEmpty && ·) any
  | all => exact congrArg (!rule.predicates.isEmpty && ·) all

end Rules

namespace Classify

theorem labelsOf_eq {s t : Sighting} (seen : SeenAlike s t) {rule : Rule}
    (own : rule.isClear = true) (subs : ∀ sub ∈ rule.subRules, sub.isClear = true) :
    labelsOf t rule = labelsOf s rule := by
  have met : rule.subRules.filter (·.meets t) = rule.subRules.filter (·.meets s) :=
    List.filter_congr fun sub member => Rule.meets_eq seen (subs sub member)
  rw [labelsOf, labelsOf, Rule.meets_eq seen own, met]

theorem seenAlike_unit (u : RawUnit) {path other : String} (alike : Source.Alike path other) :
    SeenAlike (unitSighting { u with path := path }) (unitSighting { u with path := other }) := by
  have seen := SeenAlike.seen (unitSighting { u with path := path }) path other alike
  simpa [unitSighting, RawUnit.pathParts, alike.splitPath_eq] using seen

theorem seenAlike_path {path other : String} (alike : Source.Alike path other) :
    SeenAlike (pathSighting path) (pathSighting other) := by
  have seen := SeenAlike.seen (pathSighting path) path other alike
  simpa [pathSighting, alike.splitPath_eq] using seen

section

variable {rules : RuleSet} (clear : rules.Clear) {s t : Sighting} (seen : SeenAlike s t)

include clear seen

theorem firstMet_eq : firstMet rules.purposeRules t = firstMet rules.purposeRules s := by
  have met : rules.purposeRules.filter (·.meets t) = rules.purposeRules.filter (·.meets s) :=
    List.filter_congr fun rule member => Rule.meets_eq seen (clear.purpose rule member)
  rw [firstMet, firstMet, ← List.head?_filter, met, List.head?_filter]

theorem bundleLabels_eq :
    rules.bundleRules.flatMap (labelsOf t) = rules.bundleRules.flatMap (labelsOf s) :=
  List.flatMap_congr fun rule member =>
    labelsOf_eq seen (clear.bundle rule member) (clear.sub rule member)

theorem fallbackLabels_eq : fallbackLabels rules t = fallbackLabels rules s := by
  cases found : rules.pathRule with
  | none => simp [fallbackLabels, found]
  | some rule =>
    simp [fallbackLabels, found, Option.filter, Rule.meets_eq seen (clear.path rule found)]

end

theorem domainsOf_alike (u : RawUnit) {path other : String} (alike : Source.Alike path other) :
    domainsOf { u with path := other } = domainsOf { u with path := path } := by
  simp only [domainsOf, DomainView.of, RawUnit.pathParts, alike.splitPath_eq]

section

variable {rules : RuleSet} (clear : rules.Clear)

include clear

theorem purposeOf_alike (u : RawUnit) {path other : String} (alike : Source.Alike path other) :
    purposeOf rules { u with path := other } = purposeOf rules { u with path := path } := by
  rw [purposeOf, purposeOf, firstMet_eq clear (seenAlike_unit u alike)]

theorem suggestLabels_alike {path other : String} (alike : Source.Alike path other) :
    suggestLabels rules other = suggestLabels rules path := by
  have seen := seenAlike_path alike
  simp only [suggestLabels, bundleLabels_eq clear seen, fallbackLabels_eq clear seen]

theorem classify_alike (u : RawUnit) {path other : String} (alike : Source.Alike path other) :
    classify rules { u with path := other } =
      { classify rules { u with path := path } with raw := { u with path := other } } := by
  simp only [classify, purposeOf_alike clear u alike, domainsOf_alike u alike]
  rfl

theorem searchText_alike (u : RawUnit) {path other : String} (alike : Source.Alike path other) :
    (classify rules { u with path := other }).searchText =
      (classify rules { u with path := path }).searchText := by
  have files : (textsOf other).map baseName = (textsOf path).map baseName := by
    rw [textsOf, textsOf, alike.isEmpty_eq]
    split <;> simp [alike.baseName_eq]
  rw [classify_alike clear u alike]
  simp only [ClassifiedUnit.searchText, searchParts, classify, files]

/-- Which separators a path has decides on nothing but the path itself. -/
theorem classify_separators (u : RawUnit) {path other : String} (alike : Source.Alike path other) :
    purposeOf rules { u with path := other } = purposeOf rules { u with path := path } ∧
      classify rules { u with path := other } =
        { classify rules { u with path := path } with raw := { u with path := other } } ∧
      (classify rules { u with path := other }).searchText =
        (classify rules { u with path := path }).searchText ∧
      suggestLabels rules other = suggestLabels rules path :=
  ⟨purposeOf_alike clear u alike, classify_alike clear u alike, searchText_alike clear u alike,
    suggestLabels_alike clear alike⟩

end

theorem builtin_clear : builtin.Clear := by
  have clear : (builtin.purposeRules.all (·.isClear) && builtin.bundleRules.all (·.isClear) &&
      builtin.bundleRules.all (·.subRules.all (·.isClear)) && builtin.pathRule.all (·.isClear)) =
        true := by decide +kernel
  simp only [Bool.and_eq_true, List.all_eq_true] at clear
  obtain ⟨⟨⟨purpose, bundle⟩, sub⟩, path⟩ := clear
  exact ⟨purpose, bundle, sub, fun rule found => by simpa [found] using path⟩

-- The built-in rules ask file names for parts and ends, and segments of a path for names.
theorem classify_separators_builtin :
    builtin.Clear ∧ Source.Alike "web/api/check.ts" "web\\api/check.ts" ∧
      ∀ u : RawUnit,
        (classify builtin { u with path := "web\\api/check.ts" }).searchText =
          (classify builtin { u with path := "web/api/check.ts" }).searchText ∧
        suggestLabels builtin "web\\api/check.ts" = suggestLabels builtin "web/api/check.ts" := by
  have alike : Source.Alike "web/api/check.ts" "web\\api/check.ts" := by
    rw [Source.Alike]
    decide +kernel
  exact ⟨builtin_clear, alike, fun u => (classify_separators builtin_clear u alike).2.2⟩

end Classify

end CodeAtlas
