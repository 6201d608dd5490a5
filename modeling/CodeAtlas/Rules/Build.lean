import CodeAtlas.Number.Read
import CodeAtlas.Rules.Basic

set_option autoImplicit false

/-! Rule sets built from rule documents. A document is taken as a whole or refused. -/

namespace CodeAtlas.Rules

open CodeAtlas.Number CodeAtlas.Text

abbrev Built (α : Type) := Except Fault α

def refuse {α : Type} (problem : RuleProblem) : Built α :=
  .error (.rules problem)

def fieldsOf (place : String) : Document → Built (List (String × Document))
  | .object fields => .ok fields
  | _ => refuse (.notObject place)

def unitInterval (place : String) (x : Float) : Built Float :=
  if 0.0 ≤ x && x ≤ 1.0 then .ok x else refuse (.confidenceRange place)

def confidence (place : String) : Document → Built Float
  | .int n =>
    match ofInt? n with
    | some x => unitInterval place x
    | none => .error .tooLarge
  | .float x => unitInterval place x
  | _ => refuse (.confidenceType place)

def confidenceField (place : String) (default : Float) (fields : List (String × Document)) :
    Built Float :=
  confidence place ((Keyed.lookup "confidence" fields).getD (.float default))

def label (place : String) : Option Document → Built String
  | some (.text s) => if isBlankText s then refuse (.blankText place) else .ok s
  | _ => refuse (.blankText place)

-- One text, or a list of texts that is not empty.
def conditionTexts (place : String) : Option Document → Built (List String)
  | some (.text s) => .ok [s]
  | some (.list (item :: items)) =>
    match (Document.list (item :: items)).texts? with
    | some texts => .ok texts
    | none => refuse (.badConditions place)
  | _ => refuse (.badConditions place)

def explicitMatch (place : String) : Option Document → Built (Option Combinator)
  | none => .ok none
  | some .null => .ok none
  | some (.text s) =>
    match Combinator.ofLabel? s with
    | some combinator => .ok (some combinator)
    | none => refuse (.badMatch place)
  | some _ => refuse (.badMatch place)

def assemble (labelKey place name : String) (fields : List (String × Document))
    (texts : List String) (explicit : Option Combinator) (subRules : List Rule) : Built Rule := do
  let predicates ← texts.mapM Condition.parse
  let label ← label s!"{place}.{labelKey}" (Keyed.lookup labelKey fields)
  let confidence ← confidenceField place 0.0 fields
  pure ⟨name, texts, predicates, label, confidence, .resolve predicates explicit, subRules⟩

mutual

-- A rule from its document. Sub-rules are checked before the rule's own label and confidence.
def buildRule (labelKey place name : String) : Document → Built Rule
  | .object fields => do
    let texts ← conditionTexts place (Keyed.lookup "conditions" fields)
    let explicit ← explicitMatch place (Keyed.lookup "match" fields)
    let subRules ←
      match buildNamed labelKey s!"{place}.subPatterns" "subPatterns" fields with
      | some built => built
      | none => (buildNamed labelKey s!"{place}.subPatterns" "subRules" fields).getD (.ok [])
    assemble labelKey place name fields texts explicit subRules
  | _ => refuse (.notObject place)

def buildNamed (labelKey place key : String) :
    List (String × Document) → Option (Built (List Rule))
  | [] => none
  | (name, value) :: rest =>
    if name == key then some (buildBlock labelKey place value)
    else buildNamed labelKey place key rest

-- Sub-rules may be left out by any value that counts as absent.
def buildBlock (labelKey place : String) : Document → Built (List Rule)
  | .object fields => buildRules labelKey place fields
  | value => if value.isPresent then refuse (.notObject place) else .ok []

def buildRules (labelKey place : String) : List (String × Document) → Built (List Rule)
  | [] => .ok []
  | (name, value) :: rest => do
    let rule ← buildRule labelKey s!"{place}.{name}" name value
    let rules ← buildRules labelKey place rest
    pure (rule :: rules)

end

/-- The two required parts of a group of rules. -/
structure Group where
  patterns : Document
  fallback : List (String × Document)

def groupOf (name : String) (value : Document) : Built Group := do
  let fields ← fieldsOf name value
  match Keyed.lookup "patterns" fields, Keyed.lookup "fallback" fields with
  | some patterns, some fallback => pure ⟨patterns, ← fieldsOf s!"{name}.fallback" fallback⟩
  | _, _ => refuse (.badStructure name)

def patternRules (labelKey group : String) (patterns : Document) : Built (List Rule) := do
  let place := s!"{group}.patterns"
  buildRules labelKey place (← fieldsOf place patterns)

def presentField (name : String) (fields : List (String × Document)) : Option Document :=
  match Keyed.lookup name fields with
  | some .null => none
  | found => found

def pathRuleOf (fallback : List (String × Document)) : Built (Option Rule) := do
  match presentField "webFallback" fallback with
  | some raw =>
    let rule ← buildRule "bundle" "bundleHeuristics.fallback.webFallback" "webFallback" raw
    pure (some rule)
  | none => pure none

def defaultsOf (fallback : List (String × Document)) : Built (List String × Float) := do
  let place := "bundleHeuristics.fallback.defaultFallback"
  match presentField "defaultFallback" fallback with
  | some raw =>
    let fields ← fieldsOf place raw
    match (Keyed.lookup "bundles" fields).bind Document.texts? with
    | some labels => pure (labels, ← confidenceField place 0.0 fields)
    | none => refuse .badLabels
  | none => pure ([], 0.0)

def clusterOf (name : String) (value : Document) : Built (List (String × Int)) := do
  let fields ← fieldsOf s!"semanticTypeMapping.clusters.{name}" value
  match (Keyed.lookup "types" fields).bind Document.texts?,
      Keyed.lookup "clusterId" fields with
  | some types, some (.int cluster) => pure (types.map fun type => (type, cluster))
  | _, _ => refuse (.badCluster name)

def clustersOf (value : Document) : Built (List (String × Int)) := do
  let mapping ← fieldsOf "semanticTypeMapping" value
  let clusters ← fieldsOf "semanticTypeMapping.clusters"
    ((Keyed.lookup "clusters" mapping).getD .null)
  let parts ← clusters.mapM fun (name, cluster) => clusterOf name cluster
  pure parts.flatten

def requiredGroup (fields : List (String × Document)) (name : String) : Built Document :=
  match Keyed.lookup name fields with
  | some value => .ok value
  | none => refuse (.missingGroup name)

def checkWritable (document : Document) : Built Unit :=
  if document.isWritable then .ok () else .error .badValue

def versionOf (fields : List (String × Document)) : Built String := do
  let version := (Keyed.lookup "version" fields).getD (.text "1.0.0")
  checkWritable version
  pure version.toText

-- The rule set of a document, with the reasons for a refusal looked for in a fixed order.
def build (source : String) (document : Document) : Built RuleSet := do
  let fields ← fieldsOf "rule document" document
  let purposeValue ← requiredGroup fields "purposeHeuristics"
  let bundleValue ← requiredGroup fields "bundleHeuristics"
  let mappingValue ← requiredGroup fields "semanticTypeMapping"
  let purpose ← groupOf "purposeHeuristics" purposeValue
  let bundle ← groupOf "bundleHeuristics" bundleValue
  let pathRule ← pathRuleOf bundle.fallback
  let (defaultLabels, defaultConfidence) ← defaultsOf bundle.fallback
  let typeClusters ← clustersOf mappingValue
  let version ← versionOf fields
  let purposeRules ← patternRules "purpose" "purposeHeuristics" purpose.patterns
  let fallbackPurpose ←
    label "purposeHeuristics.fallback.purpose" (Keyed.lookup "purpose" purpose.fallback)
  let fallbackConfidence ← confidenceField "purposeHeuristics.fallback" 0.5 purpose.fallback
  let bundleRules ← patternRules "bundle" "bundleHeuristics" bundle.patterns
  checkWritable document
  pure
    { version, purposeRules, fallbackPurpose, fallbackConfidence, bundleRules, pathRule
      defaultLabels, defaultConfidence, typeClusters, document, source
      revision := 0 }

end CodeAtlas.Rules
