import CodeAtlas.Rules.Condition

set_option autoImplicit false

/-! Rules and the set of them that one document holds. -/

namespace CodeAtlas.Rules

structure Rule where
  name : String
  conditions : List String
  predicates : List Condition
  label : String
  confidence : Float
  combinator : Combinator
  subRules : List Rule

def Rule.meets (rule : Rule) (s : Sighting) : Bool :=
  rule.combinator.holds rule.predicates s

/-- A snapshot of a rule document. It never changes; `revision` tells which one was published. -/
structure RuleSet where
  version : String
  purposeRules : List Rule
  fallbackPurpose : String
  fallbackConfidence : Float
  bundleRules : List Rule
  pathRule : Option Rule
  defaultLabels : List String
  defaultConfidence : Float
  typeClusters : List (String × Int)
  document : Document
  source : String
  revision : Nat

namespace RuleSet

-- The cluster of each type. A type named again keeps its place and takes the later cluster.
def mapping (rules : RuleSet) : List (String × Int) :=
  Keyed.ofList rules.typeClusters

def documentText (rules : RuleSet) : String :=
  rules.document.render

end RuleSet

end CodeAtlas.Rules
