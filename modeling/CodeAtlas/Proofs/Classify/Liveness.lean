import CodeAtlas.Proofs.Rules.Combination
import CodeAtlas.Proofs.Rules.WellFormed
import Mathlib.Data.List.Nodup

set_option autoImplicit false

/-! Which rules can ever be at work. One that is always met together with an earlier rule gives no unit its
purpose; of the built-in rules, each other one is shown at work. -/

namespace CodeAtlas.Rules

/-- Whatever meets the later rule meets the earlier one too, as far as their conditions tell. -/
def covers (early late : Rule) : Bool :=
  decide (late.combinator = .all) &&
    match early.combinator with
    | .all => early.conditions.all late.conditions.contains
    | .any => early.conditions.any late.conditions.contains

def shadowed (rules : List Rule) (late : Rule) : Bool :=
  (rules.takeWhile (·.name != late.name)).any (covers · late)

namespace Rule.WellFormed

variable {rule : Rule} {text : String} {condition : Condition}

theorem spelled (formed : rule.WellFormed) (member : condition ∈ rule.predicates) :
    ∃ text ∈ rule.conditions, Condition.parse text = .ok condition := by
  cases formed with
  | intro _ _ parsed => exact Text.mem_of_forall₂ parsed.flip member

theorem read (formed : rule.WellFormed) (member : text ∈ rule.conditions) :
    ∃ condition ∈ rule.predicates, Condition.parse text = .ok condition := by
  cases formed with
  | intro _ _ parsed => exact Text.mem_of_forall₂ parsed member

theorem predicates_ne_nil (formed : rule.WellFormed) : rule.predicates ≠ [] := by
  cases formed with
  | intro _ asks parsed =>
    intro nothing
    rw [nothing, List.forall₂_nil_right_iff] at parsed
    exact asks parsed

end Rule.WellFormed

theorem meets_of_covers {early late : Rule} (formed : early.WellFormed) (narrow : late.WellFormed)
    (covered : covers early late = true) {s : Sighting} (met : late.meets s = true) :
    early.meets s = true := by
  obtain ⟨all, conditions⟩ := Bool.and_eq_true_iff.mp covered
  rw [Rule.meets, of_decide_eq_true all, Combinator.holds_all] at met
  -- A text that both rules ask stands for one condition, which holds.
  have shared {text : String} {condition : Condition} (asked : late.conditions.contains text = true)
      (parsed : Condition.parse text = .ok condition) : condition.holds s = true := by
    obtain ⟨other, member, again⟩ := narrow.read (List.contains_iff_mem.mp asked)
    obtain rfl := Except.ok.inj (parsed.symm.trans again)
    exact met.2 condition member
  rw [Rule.meets]
  cases combined : early.combinator with
  | all =>
    rw [combined] at conditions
    rw [Combinator.holds_all]
    refine ⟨formed.predicates_ne_nil, ?_⟩
    intro condition member
    obtain ⟨text, asked, parsed⟩ := formed.spelled member
    exact shared (List.all_eq_true.mp conditions text asked) parsed
  | any =>
    rw [combined] at conditions
    rw [Combinator.holds_any]
    obtain ⟨text, asked, both⟩ := List.any_eq_true.mp conditions
    obtain ⟨condition, member, parsed⟩ := formed.read asked
    exact ⟨condition, member, shared both parsed⟩

end CodeAtlas.Rules

namespace CodeAtlas.Classify

open CodeAtlas.Rules CodeAtlas.Source CodeAtlas.Text

/-! ### Purposes -/

theorem mem_before {before after : List Rule} {early late : Rule}
    (inside : early ∈ (before ++ late :: after).takeWhile (·.name != late.name)) :
    early ∈ before := by
  induction before with
  | nil => simp at inside
  | cons first rest ih =>
    rw [List.cons_append, List.takeWhile_cons] at inside
    split at inside
    · cases List.mem_cons.mp inside with
      | inl here => exact here ▸ List.mem_cons_self
      | inr later => exact List.mem_cons_of_mem _ (ih later)
    · cases inside

theorem firstMet_shadowed {rules : List Rule} (formed : ∀ rule ∈ rules, rule.WellFormed)
    {late : Rule} (hidden : shadowed rules late = true) (s : Sighting) :
    firstMet rules s ≠ some late := by
  intro first
  obtain ⟨met, before, after, rfl, unmet⟩ := List.find?_eq_some_iff_append.mp first
  obtain ⟨early, prior, covered⟩ := List.any_eq_true.mp hidden
  have inside := mem_before prior
  have early_formed := formed early (List.mem_append_left _ inside)
  have late_formed := formed late (List.mem_append_right _ List.mem_cons_self)
  have early_met := meets_of_covers early_formed late_formed covered met
  have early_unmet := unmet early inside
  rw [early_met] at early_unmet
  cases early_unmet

theorem firstMet_named {rules : RuleSet} (apart : (rules.purposeRules.map (·.name)).Nodup)
    {rule : Rule} (member : rule ∈ rules.purposeRules) {u : RawUnit}
    (named : (purposeOf rules u).rule = some rule.name) :
    firstMet rules.purposeRules (unitSighting u) = some rule := by
  cases met : firstMet rules.purposeRules (unitSighting u) with
  | none =>
    rw [purposeOf_unmet met] at named
    cases named
  | some other =>
    rw [purposeOf_met met] at named
    have found : other ∈ rules.purposeRules := List.mem_of_find?_eq_some met
    rw [List.inj_on_of_nodup_map apart found member (Option.some.inj named)]

/-! ### Bundles -/

/-- The bundle rules that give a path their labels, each with its own sub-rules that do. -/
def bundleGivers (rules : RuleSet) (s : Sighting) : List Rule :=
  rules.bundleRules.flatMap fun rule =>
    if rule.meets s then rule :: rule.subRules.filter (·.meets s) else []

-- The rule for paths that no bundle rule gives a label.
def fallbackGivers (rules : RuleSet) (s : Sighting) : List Rule :=
  if (bundleGivers rules s).isEmpty then (rules.pathRule.filter (·.meets s)).toList else []

def labelsGiven (rules : RuleSet) (s : Sighting) : List String :=
  match bundleGivers rules s ++ fallbackGivers rules s with
  | [] => rules.defaultLabels
  | givers => givers.map (·.label)

theorem labels_bundleGivers (rules : RuleSet) (s : Sighting) :
    rules.bundleRules.flatMap (labelsOf s) = (bundleGivers rules s).map (·.label) := by
  rw [bundleGivers, List.map_flatMap]
  refine congrArg (rules.bundleRules.flatMap ·) (funext fun rule => ?_)
  rw [labelsOf]
  split
  · rfl
  · rfl

/-- Suggested are the labels of the rules that give some, and the default labels if there are none. -/
theorem suggestLabels_givers (rules : RuleSet) (path : String) :
    suggestLabels rules path = distinct (labelsGiven rules (pathSighting path)) := by
  rw [suggestLabels, labels_bundleGivers, labelsGiven]
  cases given : bundleGivers rules (pathSighting path) with
  | nil =>
    simp only [fallbackGivers, given, List.isEmpty_nil, if_true, fallbackLabels, List.map_nil,
      List.nil_append]
    cases rules.pathRule.filter (·.meets (pathSighting path)) with
    | none => rfl
    | some rule => rfl
  | cons rule others =>
    have nothing : fallbackGivers rules (pathSighting path) = [] := by
      rw [fallbackGivers, given]
      rfl
    rw [nothing, List.append_nil]
    rfl

theorem mem_bundleGivers {rules : RuleSet} {outer : Rule} (member : outer ∈ rules.bundleRules)
    {s : Sighting} (met : outer.meets s = true) :
    outer ∈ bundleGivers rules s ∧
      ∀ sub ∈ outer.subRules, sub.meets s = true → sub ∈ bundleGivers rules s := by
  constructor
  · refine List.mem_flatMap.mpr ⟨outer, member, ?_⟩
    rw [if_pos met]
    exact List.mem_cons_self
  · intro sub inside below
    refine List.mem_flatMap.mpr ⟨outer, member, ?_⟩
    rw [if_pos met]
    exact List.mem_cons_of_mem _ (List.mem_filter.mpr ⟨inside, below⟩)

theorem fallbackGivers_covered {rules : RuleSet} (formed : rules.WellFormed) {early late : Rule}
    (member : early ∈ rules.bundleRules) (last : rules.pathRule = some late)
    (covered : covers early late = true) (s : Sighting) : fallbackGivers rules s = [] := by
  rw [fallbackGivers]
  split
  · next nothing =>
    have unmet : late.meets s = false := by
      rw [Bool.eq_false_iff]
      intro met
      have early_met := meets_of_covers (formed.bundles early member) (formed.path late last) covered met
      have given := (mem_bundleGivers member early_met).1
      rw [List.isEmpty_iff.mp nothing] at given
      cases given
    simp [last, unmet]
  · rfl

/-! ### The built-in rules -/

def sampleUnit (name kind path : String) (imports : List String) : RawUnit :=
  ⟨name, kind, path, 1, 1, "", "", { imports }⟩

def sampleUnits : List RawUnit :=
  [sampleUnit "App" "react_component" "App.tsx" [],
   sampleUnit "useTheme" "arrow_function" "theme.ts" [],
   sampleUnit "login" "arrow_function" "services/session.ts" [],
   sampleUnit "show" "arrow_function" "components/panel.ts" [],
   sampleUnit "runCommand" "arrow_function" "desktop.ts" ["@tauri-apps/api"],
   sampleUnit "render" "arrow_function" "editor.ts" ["@tiptap/core", "prosemirror-state"],
   sampleUnit "apiEndpoint" "method" "routes.ts" [],
   sampleUnit "getOrFetch" "method" "list.ts" [],
   sampleUnit "createOrAdd" "method" "list.ts" [],
   sampleUnit "updateOrEdit" "method" "list.ts" [],
   sampleUnit "deleteOrRemove" "method" "list.ts" [],
   sampleUnit "validateAndCheck" "method" "list.ts" [],
   sampleUnit "parseAndFormat" "method" "list.ts" []]

def samplePaths : List String :=
  ["web/components/panel.tsx", "bin/api-server.ts", "docs/readme-docs.md"]

-- All that is read off the built-in rules, at once: to build them takes most of the time.
theorem builtin_samples :
    (builtin.purposeRules.map (·.name)).Nodup ∧
    (∀ rule ∈ builtin.purposeRules,
      if rule.name = "fileManagement" ∨ rule.name = "uiComponent" then
        shadowed builtin.purposeRules rule = true
      else ∃ u ∈ sampleUnits, (purposeOf builtin u).rule = some rule.name) ∧
    (∃ rule ∈ builtin.purposeRules, rule.name = "fileManagement") ∧
    (∀ rule ∈ builtin.bundleRules, rule.name ≠ "configuration" →
      ∃ path ∈ samplePaths, rule.meets (pathSighting path) = true) ∧
    (∀ rule ∈ builtin.bundleRules, ∀ sub ∈ rule.subRules,
      ∃ path ∈ samplePaths, rule.meets (pathSighting path) = true ∧
        sub.meets (pathSighting path) = true) ∧
    builtin.pathRule.any (fun late => builtin.bundleRules.any (covers · late)) = true := by
  decide +kernel

theorem builtin_shadowed {rule : Rule} (member : rule ∈ builtin.purposeRules)
    (dead : rule.name = "fileManagement" ∨ rule.name = "uiComponent") (u : RawUnit) :
    (purposeOf builtin u).rule ≠ some rule.name := by
  intro named
  obtain ⟨apart, purposes, -⟩ := builtin_samples
  have hidden := purposes rule member
  rw [if_pos dead] at hidden
  exact firstMet_shadowed builtin_formed.purposes hidden _ (firstMet_named apart member named)

/-- Each built-in rule is at work somewhere but for these: two rules on names stand behind rules on the same
folders and give no purpose, and the fallback for paths asks for more than a bundle rule does and
gives no label. What the rule on configuration does is left open. -/
theorem builtin_live :
    (∀ rule ∈ builtin.purposeRules,
      (∃ u, purposeOf builtin u = ⟨rule.label, rule.confidence, some rule.name⟩) ↔
        rule.name ≠ "fileManagement" ∧ rule.name ≠ "uiComponent") ∧
    (∀ path, suggestLabels builtin path = distinct (labelsGiven builtin (pathSighting path))) ∧
    (∀ rule ∈ builtin.bundleRules, rule.name ≠ "configuration" →
      ∃ path, rule ∈ bundleGivers builtin (pathSighting path)) ∧
    (∀ rule ∈ builtin.bundleRules, ∀ sub ∈ rule.subRules,
      ∃ path, sub ∈ bundleGivers builtin (pathSighting path)) ∧
    builtin.pathRule.isSome = true ∧
    ∀ path, fallbackGivers builtin (pathSighting path) = [] := by
  obtain ⟨apart, purposes, -, bundles, nested, last⟩ := builtin_samples
  refine ⟨?_, suggestLabels_givers builtin, ?_, ?_, Option.isSome_of_any last, ?_⟩
  · intro rule member
    constructor
    · rintro ⟨u, given⟩
      have named := congrArg PurposeMatch.rule given
      exact ⟨fun dead => builtin_shadowed member (.inl dead) u named,
        fun dead => builtin_shadowed member (.inr dead) u named⟩
    · rintro ⟨one, other⟩
      have shown := purposes rule member
      rw [if_neg (not_or.mpr ⟨one, other⟩)] at shown
      obtain ⟨u, -, named⟩ := shown
      exact ⟨u, purposeOf_met (firstMet_named apart member named)⟩
  · intro rule member other
    obtain ⟨path, -, met⟩ := bundles rule member other
    exact ⟨path, (mem_bundleGivers member met).1⟩
  · intro rule member sub inside
    obtain ⟨path, -, met, below⟩ := nested rule member sub inside
    exact ⟨path, (mem_bundleGivers member met).2 sub inside below⟩
  · intro path
    obtain ⟨late, found, covering⟩ := (Option.any_eq_true _ _).mp last
    obtain ⟨early, member, covered⟩ := List.any_eq_true.mp covering
    exact fallbackGivers_covered builtin_formed member found covered _

theorem builtin_dead : ∃ rule ∈ builtin.purposeRules, rule.name = "fileManagement" ∧
    ∀ u, purposeOf builtin u ≠ ⟨rule.label, rule.confidence, some rule.name⟩ := by
  obtain ⟨-, -, ⟨rule, member, named⟩, -⟩ := builtin_samples
  refine ⟨rule, member, named, fun u given => ?_⟩
  exact builtin_shadowed member (.inl named) u (congrArg PurposeMatch.rule given)

end CodeAtlas.Classify
