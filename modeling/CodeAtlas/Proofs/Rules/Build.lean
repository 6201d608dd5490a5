import CodeAtlas.Proofs.Document.Every
import CodeAtlas.Rules.Builtin

set_option autoImplicit false

/-! How the building of a rule set can fail. Beside a document that is refused, all depends on its
confidences and conditions. -/

namespace CodeAtlas.Rules

open CodeAtlas.Number

/-- A computation that fails only for causes that are allowed. -/
def FailsOnly (allowed : Fault → Prop) {α : Type} (result : Except Fault α) : Prop :=
  ∀ fault, result = .error fault → allowed fault

section

variable {allowed : Fault → Prop} {α β : Type}

theorem failsOnly_ok (value : α) : FailsOnly allowed (.ok value) := by
  intro fault failed
  cases failed

theorem failsOnly_error {fault : Fault} (cause : allowed fault) :
    FailsOnly allowed (.error fault : Except Fault α) := by
  intro other failed
  cases failed
  exact cause

theorem FailsOnly.bind {result : Except Fault α} {next : α → Except Fault β}
    (first : FailsOnly allowed result)
    (later : ∀ value, result = .ok value → FailsOnly allowed (next value)) :
    FailsOnly allowed (result >>= next) := by
  cases result with
  | error fault => exact failsOnly_error (first fault rfl)
  | ok value => exact later value rfl

theorem failsOnly_mapM {next : α → Except Fault β} {items : List α}
    (each : ∀ item ∈ items, FailsOnly allowed (next item)) : FailsOnly allowed (items.mapM next) := by
  induction items with
  | nil => exact failsOnly_ok []
  | cons item rest ih =>
    rw [List.mapM_cons]
    apply (each item List.mem_cons_self).bind
    intro value _
    apply (ih fun other member => each other (List.mem_cons_of_mem item member)).bind
    intro values _
    exact failsOnly_ok _

end

theorem fieldsOf_ok {place : String} {document : Document} {fields : List (String × Document)}
    (given : fieldsOf place document = .ok fields) : document = .object fields := by
  cases document with
  | object others =>
    cases given
    rfl
  | _ => cases given

/-- A document that rules can be built from but for causes that are allowed: its confidences are within the
range of floating-point numbers, and its conditions can be read. Nothing else matters, and nothing
inside of a list. -/
inductive Tame (allowed : Fault → Prop) : Document → Prop
  | object (fields : List (String × Document)) (members : ∀ field ∈ fields, Tame allowed field.2)
      (confident : ∀ n, Keyed.lookup "confidence" fields = some (.int n) → ofInt? n = none →
        allowed .tooLarge)
      (readable : ∀ place texts, conditionTexts place (Keyed.lookup "conditions" fields) = .ok texts →
        ∀ text ∈ texts, FailsOnly allowed (Condition.parse text)) : Tame allowed (.object fields)
  | other (document : Document) (plain : ∀ fields, document ≠ .object fields) : Tame allowed document

namespace Tame

variable {allowed : Fault → Prop}

theorem member {fields : List (String × Document)} (tame : Tame allowed (.object fields))
    {field : String × Document} (inside : field ∈ fields) : Tame allowed field.2 := by
  cases tame with
  | object _ members _ _ => exact members field inside
  | other _ plain => exact absurd rfl (plain fields)

theorem lookup {fields : List (String × Document)} (tame : Tame allowed (.object fields))
    {name : String} {value : Document} (found : Keyed.lookup name fields = some value) :
    Tame allowed value :=
  tame.member (Keyed.mem_of_lookup found)

theorem presentField {fields : List (String × Document)} (tame : Tame allowed (.object fields))
    {name : String} {value : Document} (found : presentField name fields = some value) :
    Tame allowed value := by
  unfold Rules.presentField at found
  split at found
  · cases found
  · exact tame.lookup found

theorem requiredGroup {fields : List (String × Document)} (tame : Tame allowed (.object fields))
    {name : String} {value : Document} (found : requiredGroup fields name = .ok value) :
    Tame allowed value := by
  unfold Rules.requiredGroup at found
  split at found
  · next other same =>
    cases found
    exact tame.lookup same
  · cases found

theorem groupOf {value : Document} (tame : Tame allowed value) {name : String} {group : Group}
    (found : groupOf name value = .ok group) :
    Tame allowed group.patterns ∧ Tame allowed (.object group.fallback) := by
  cases value with
  | object fields =>
    simp only [Rules.groupOf, fieldsOf, bind, Except.bind] at found
    split at found
    · next patterns fallback first second =>
      cases fallback with
      | object others =>
        cases found
        exact ⟨tame.lookup first, tame.lookup second⟩
      | _ => cases found
    · cases found
  | _ => cases found

end Tame

section

variable {allowed : Fault → Prop} (refusable : ∀ problem, allowed (.rules problem))

include refusable

theorem failsOnly_refuse {α : Type} (problem : RuleProblem) :
    FailsOnly allowed (refuse problem : Built α) :=
  failsOnly_error (refusable problem)

theorem failsOnly_fieldsOf (place : String) (document : Document) :
    FailsOnly allowed (fieldsOf place document) := by
  cases document with
  | object fields => exact failsOnly_ok fields
  | _ => exact failsOnly_refuse refusable _

theorem failsOnly_unitInterval (place : String) (x : Float) :
    FailsOnly allowed (unitInterval place x) := by
  unfold unitInterval
  split
  · exact failsOnly_ok x
  · exact failsOnly_refuse refusable _

theorem failsOnly_label (place : String) (value : Option Document) :
    FailsOnly allowed (label place value) := by
  unfold label
  split
  · split
    · exact failsOnly_refuse refusable _
    · exact failsOnly_ok _
  · exact failsOnly_refuse refusable _

theorem failsOnly_conditionTexts (place : String) (value : Option Document) :
    FailsOnly allowed (conditionTexts place value) := by
  unfold conditionTexts
  split
  · exact failsOnly_ok _
  · split
    · exact failsOnly_ok _
    · exact failsOnly_refuse refusable _
  · exact failsOnly_refuse refusable _

theorem failsOnly_explicitMatch (place : String) (value : Option Document) :
    FailsOnly allowed (explicitMatch place value) := by
  unfold explicitMatch
  split
  · exact failsOnly_ok _
  · exact failsOnly_ok _
  · split
    · exact failsOnly_ok _
    · exact failsOnly_refuse refusable _
  · exact failsOnly_refuse refusable _

theorem failsOnly_confidenceField (place : String) (default : Float)
    {fields : List (String × Document)} (tame : Tame allowed (.object fields)) :
    FailsOnly allowed (confidenceField place default fields) := by
  cases tame with
  | other _ plain => exact absurd rfl (plain fields)
  | object _ _ confident _ =>
    rw [confidenceField]
    cases found : Keyed.lookup "confidence" fields with
    | none => exact failsOnly_unitInterval refusable place default
    | some value =>
      cases value with
      | int n =>
        simp only [Option.getD_some, confidence]
        cases number : ofInt? n with
        | none => exact failsOnly_error (confident n found number)
        | some x => exact failsOnly_unitInterval refusable place x
      | float x => exact failsOnly_unitInterval refusable place x
      | _ => exact failsOnly_refuse refusable _

theorem failsOnly_assemble (labelKey place name : String) (explicit : Option Combinator)
    (subRules : List Rule) {fields : List (String × Document)} {texts : List String}
    (tame : Tame allowed (.object fields))
    (read : conditionTexts place (Keyed.lookup "conditions" fields) = .ok texts) :
    FailsOnly allowed (assemble labelKey place name fields texts explicit subRules) := by
  rw [assemble]
  apply FailsOnly.bind
  · cases tame with
    | object _ _ _ readable => exact failsOnly_mapM (readable place texts read)
    | other _ plain => exact absurd rfl (plain fields)
  intro predicates _
  apply (failsOnly_label refusable _ _).bind
  intro label _
  apply (failsOnly_confidenceField refusable place 0.0 tame).bind
  intro confidence _
  exact failsOnly_ok _

omit refusable in
theorem failsOnly_buildRules (labelKey place : String) {fields : List (String × Document)}
    (members : ∀ field ∈ fields, ∀ labelKey place name,
      FailsOnly allowed (buildRule labelKey place name field.2)) :
    FailsOnly allowed (buildRules labelKey place fields) := by
  induction fields with
  | nil =>
    rw [buildRules]
    exact failsOnly_ok []
  | cons field rest ih =>
    obtain ⟨name, value⟩ := field
    rw [buildRules]
    apply (members (name, value) List.mem_cons_self _ _ _).bind
    intro rule _
    apply (ih fun other member => members other (List.mem_cons_of_mem _ member)).bind
    intro rules _
    exact failsOnly_ok _

omit refusable in
theorem failsOnly_buildNamed (labelKey place key : String) {fields : List (String × Document)}
    (members : ∀ field ∈ fields, ∀ labelKey place,
      FailsOnly allowed (buildBlock labelKey place field.2)) (built : Built (List Rule))
    (found : buildNamed labelKey place key fields = some built) : FailsOnly allowed built := by
  induction fields with
  | nil =>
    rw [buildNamed] at found
    cases found
  | cons field rest ih =>
    obtain ⟨name, value⟩ := field
    rw [buildNamed] at found
    split at found
    · obtain rfl := Option.some.inj found
      exact members (name, value) List.mem_cons_self _ _
    · exact ih (fun other member => members other (List.mem_cons_of_mem _ member)) found

-- A rule holds further ones as a block, so both are followed at once.
theorem tame_rule_block {document : Document} (tame : Tame allowed document) :
    (∀ labelKey place name, FailsOnly allowed (buildRule labelKey place name document)) ∧
      ∀ labelKey place, FailsOnly allowed (buildBlock labelKey place document) := by
  induction tame with
  | other document plain =>
    constructor
    · intro labelKey place name
      rw [buildRule]
      · exact failsOnly_refuse refusable _
      · exact plain
    · intro labelKey place
      rw [buildBlock]
      · split
        · exact failsOnly_refuse refusable _
        · exact failsOnly_ok []
      · exact plain
  | object fields members confident readable ih =>
    have tame := Tame.object fields members confident readable
    have blocks {key place labelKey : String} {built : Built (List Rule)}
        (found : buildNamed labelKey place key fields = some built) : FailsOnly allowed built :=
      failsOnly_buildNamed labelKey place key (fun field member => (ih field member).2) built found
    constructor
    · intro labelKey place name
      rw [buildRule]
      apply (failsOnly_conditionTexts refusable place _).bind
      intro texts read
      apply (failsOnly_explicitMatch refusable place _).bind
      intro explicit _
      have assembled (subRules : List Rule) :
          FailsOnly allowed (assemble labelKey place name fields texts explicit subRules) :=
        failsOnly_assemble refusable labelKey place name explicit subRules tame read
      split
      · next built found => exact (blocks found).bind fun subRules _ => assembled subRules
      · cases found : buildNamed labelKey s!"{place}.subPatterns" "subRules" fields with
        | none => exact assembled []
        | some built => exact (blocks found).bind fun subRules _ => assembled subRules
    · intro labelKey place
      rw [buildBlock]
      exact failsOnly_buildRules labelKey place fun field member => (ih field member).1

theorem failsOnly_requiredGroup (fields : List (String × Document)) (name : String) :
    FailsOnly allowed (requiredGroup fields name) := by
  unfold requiredGroup
  split
  · exact failsOnly_ok _
  · exact failsOnly_refuse refusable _

theorem failsOnly_groupOf (name : String) (value : Document) :
    FailsOnly allowed (groupOf name value) := by
  rw [groupOf]
  apply (failsOnly_fieldsOf refusable name value).bind
  intro fields _
  split
  · apply (failsOnly_fieldsOf refusable _ _).bind
    intro fallback _
    exact failsOnly_ok _
  · exact failsOnly_refuse refusable _

theorem failsOnly_patternRules (labelKey group : String) {patterns : Document}
    (tame : Tame allowed patterns) : FailsOnly allowed (patternRules labelKey group patterns) := by
  rw [patternRules]
  apply (failsOnly_fieldsOf refusable _ patterns).bind
  intro fields same
  obtain rfl := fieldsOf_ok same
  exact failsOnly_buildRules labelKey _ fun field member =>
    (tame_rule_block refusable (tame.member member)).1

theorem failsOnly_pathRuleOf {fallback : List (String × Document)}
    (tame : Tame allowed (.object fallback)) : FailsOnly allowed (pathRuleOf fallback) := by
  rw [pathRuleOf]
  cases found : presentField "webFallback" fallback with
  | none => exact failsOnly_ok none
  | some raw =>
    apply ((tame_rule_block refusable (tame.presentField found)).1 _ _ _).bind
    intro rule _
    exact failsOnly_ok _

theorem failsOnly_defaultsOf {fallback : List (String × Document)}
    (tame : Tame allowed (.object fallback)) : FailsOnly allowed (defaultsOf fallback) := by
  rw [defaultsOf]
  cases found : presentField "defaultFallback" fallback with
  | none => exact failsOnly_ok _
  | some raw =>
    apply (failsOnly_fieldsOf refusable _ raw).bind
    intro fields same
    obtain rfl := fieldsOf_ok same
    split
    · apply (failsOnly_confidenceField refusable _ 0.0 (tame.presentField found)).bind
      intro confidence _
      exact failsOnly_ok _
    · exact failsOnly_refuse refusable _

theorem failsOnly_clustersOf (value : Document) : FailsOnly allowed (clustersOf value) := by
  rw [clustersOf]
  apply (failsOnly_fieldsOf refusable _ value).bind
  intro mapping _
  apply (failsOnly_fieldsOf refusable _ _).bind
  intro clusters _
  apply FailsOnly.bind
  · apply failsOnly_mapM
    rintro ⟨name, cluster⟩ -
    simp only [clusterOf]
    apply (failsOnly_fieldsOf refusable _ cluster).bind
    intro fields _
    split
    · exact failsOnly_ok _
    · exact failsOnly_refuse refusable _
  intro parts _
  exact failsOnly_ok _

omit refusable in
theorem failsOnly_checkWritable {document : Document}
    (written : document.isWritable = false → allowed .badValue) :
    FailsOnly allowed (checkWritable document) := by
  rw [checkWritable]
  split
  · exact failsOnly_ok ()
  · next long => exact failsOnly_error (written (by simpa using long))

omit refusable in
theorem failsOnly_versionOf {fields : List (String × Document)}
    (written : (Document.object fields).isWritable = false → allowed .badValue) :
    FailsOnly allowed (versionOf fields) := by
  rw [versionOf]
  apply FailsOnly.bind
  · apply failsOnly_checkWritable
    intro long
    apply written
    cases found : Keyed.lookup "version" fields with
    | none =>
      rw [found] at long
      cases long
    | some version =>
      rw [found] at long
      rw [← Bool.not_eq_true]
      intro all
      rw [Option.getD_some, Document.isWritable, Document.every_lookup all found] at long
      cases long
  intro _ _
  exact failsOnly_ok _

/-- A rule set is built from a tame document that can be written, or fails for an allowed cause. -/
theorem failsOnly_build (source : String) {document : Document} (tame : Tame allowed document)
    (written : document.isWritable = false → allowed .badValue) :
    FailsOnly allowed (build source document) := by
  rw [build]
  apply (failsOnly_fieldsOf refusable _ document).bind
  intro fields same
  obtain rfl := fieldsOf_ok same
  apply (failsOnly_requiredGroup refusable fields _).bind
  intro purposeValue purposeFound
  apply (failsOnly_requiredGroup refusable fields _).bind
  intro bundleValue bundleFound
  apply (failsOnly_requiredGroup refusable fields _).bind
  intro mappingValue _
  apply (failsOnly_groupOf refusable _ purposeValue).bind
  intro purpose purposeParts
  apply (failsOnly_groupOf refusable _ bundleValue).bind
  intro bundle bundleParts
  obtain ⟨purposePatterns, purposeFallback⟩ := (tame.requiredGroup purposeFound).groupOf purposeParts
  obtain ⟨bundlePatterns, bundleFallback⟩ := (tame.requiredGroup bundleFound).groupOf bundleParts
  apply (failsOnly_pathRuleOf refusable bundleFallback).bind
  intro pathRule _
  apply (failsOnly_defaultsOf refusable bundleFallback).bind
  rintro ⟨defaultLabels, defaultConfidence⟩ _
  apply (failsOnly_clustersOf refusable mappingValue).bind
  intro typeClusters _
  apply (failsOnly_versionOf written).bind
  intro version _
  apply (failsOnly_patternRules refusable _ _ purposePatterns).bind
  intro purposeRules _
  apply (failsOnly_label refusable _ _).bind
  intro fallbackPurpose _
  apply (failsOnly_confidenceField refusable _ 0.5 purposeFallback).bind
  intro fallbackConfidence _
  apply (failsOnly_patternRules refusable _ _ bundlePatterns).bind
  intro bundleRules _
  apply (failsOnly_checkWritable written).bind
  intro _ _
  exact failsOnly_ok _

end

theorem compile_failure {value : String} {fault : Fault}
    (failed : Condition.compile value = .error (.failure fault)) :
    fault = .tooLarge ∨ fault = .badValue := by
  rw [Condition.compile] at failed
  cases read : Pattern.read { ignoreCase := true } value.toList with
  | ok pattern =>
    rw [read] at failed
    cases failed
  | error problem =>
    rw [read] at failed
    cases problem with
    | malformed => cases failed
    | tooManyRounds | codeTooLarge =>
      cases failed
      exact .inl rfl
    | tooManyDigits | conflictingFlags =>
      cases failed
      exact .inr rfl

theorem failsOnly_parse {allowed : Fault → Prop} (large : allowed .tooLarge)
    (conflicting : allowed .badValue) (text : String) :
    FailsOnly allowed (Condition.parse text) := by
  simp only [Condition.parse, Condition.parseWith]
  split
  · exact failsOnly_ok _
  · split
    · next call value _ =>
      cases call with
      | nameMatches =>
        simp only [Condition.ofCall, Condition.matching]
        split
        · exact failsOnly_ok _
        · exact failsOnly_ok _
        · next fault failed =>
          obtain rfl | rfl := compile_failure failed
          · exact failsOnly_error large
          · exact failsOnly_error conflicting
      | _ => exact failsOnly_ok _
    · exact failsOnly_ok _

/-- Where both causes are allowed that a confidence or a condition can have, any document is tame. -/
theorem tame_of_causes {allowed : Fault → Prop} (large : allowed .tooLarge)
    (conflicting : allowed .badValue) : (document : Document) → Tame allowed document
  | .object fields => by
    apply Tame.object
    · rintro ⟨name, value⟩ member
      exact tame_of_causes large conflicting value
    · intro n _ _
      exact large
    · intro place texts _ text _
      exact failsOnly_parse large conflicting text
  | .null | .bool _ | .int _ | .float _ | .text _ | .list _ => by
    apply Tame.other
    intro fields same
    cases same
termination_by document => sizeOf document
decreasing_by
  have smaller := List.sizeOf_lt_of_mem member
  simp only [Prod.mk.sizeOf_spec, Document.object.sizeOf_spec] at smaller ⊢
  omega

/-- The built-in rules are built from their document. -/
theorem build_builtin : build "default" Builtin.document = .ok builtin := by
  have valid : (build "default" Builtin.document).toOption.isSome = true := by decide +kernel
  unfold builtin
  generalize build "default" Builtin.document = result at valid ⊢
  cases result with
  | ok rules => rfl
  | error fault => cases valid

end CodeAtlas.Rules
