import CodeAtlas.Rules.Basic
import CodeAtlas.Source.Unit

set_option autoImplicit false

/-! Purposes of units and bundle labels of paths, by the rules of a rule set. -/

namespace CodeAtlas.Classify

open CodeAtlas.Rules CodeAtlas.Source CodeAtlas.Text

def unitSighting (u : RawUnit) : Sighting :=
  { kind := some u.kind
    name := lower u.name
    pathParts := u.pathParts
    fileName := lower u.path
    imports := u.context.imports }

def pathSighting (path : String) : Sighting :=
  { pathParts := splitPath path
    fileName := lower path }

/-- A purpose and the rule that gave it, if it is not the fallback. -/
structure PurposeMatch where
  label : String
  confidence : Float
  rule : Option String

def firstMet (rules : List Rule) (s : Sighting) : Option Rule :=
  rules.find? (·.meets s)

def purposeOf (rules : RuleSet) (u : RawUnit) : PurposeMatch :=
  match firstMet rules.purposeRules (unitSighting u) with
  | some rule => ⟨rule.label, rule.confidence, some rule.name⟩
  | none => ⟨rules.fallbackPurpose, rules.fallbackConfidence, none⟩

-- The label of a rule that is met, and those of its own sub-rules that are.
def labelsOf (s : Sighting) (rule : Rule) : List String :=
  if rule.meets s then
    rule.label :: (rule.subRules.filter (·.meets s)).map (·.label)
  else []

def fallbackLabels (rules : RuleSet) (s : Sighting) : List String :=
  match rules.pathRule.filter (·.meets s) with
  | some rule => [rule.label]
  | none => rules.defaultLabels

def suggestLabels (rules : RuleSet) (path : String) : List String :=
  let s := pathSighting path
  match rules.bundleRules.flatMap (labelsOf s) with
  | [] => distinct (fallbackLabels rules s)
  | labels => distinct labels

end CodeAtlas.Classify
