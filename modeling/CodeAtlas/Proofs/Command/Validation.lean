import CodeAtlas.Command.Run
import CodeAtlas.Proofs.Rules.Persistence

set_option autoImplicit false

/-! Validating a rule document from the command line, and loading it. -/

namespace CodeAtlas.Command

open CodeAtlas.Files CodeAtlas.Rules CodeAtlas.Text

/-! ### What is asked for -/

theorem splitEqual_append {start : String} (plain : '=' ∉ start.toList) (value : String) :
    Grammar.splitEqual (start ++ "=" ++ value) = some (start, ⟨value.toList, true⟩) := by
  have apart : ∀ c ∈ start.toList, (c != '=') = true := by
    intro c member
    simp only [bne_iff_ne]
    rintro rfl
    exact plain member
  simp [Grammar.splitEqual, String.toList_append, List.takeWhile_append_of_pos apart,
    List.dropWhile_append_of_pos apart]

theorem named_equal {g : Grammar} (plain : ∀ name ∈ g.optionNames, '=' ∉ name.toList) {arg : String}
    (equal : '=' ∈ arg.toList) : g.named arg = none := by
  rw [Grammar.named, List.find?_eq_none]
  intro o member
  simp only [List.contains_iff_mem]
  intro named
  exact plain arg (List.mem_flatMap.mpr ⟨o, member, named⟩) equal

def validateOption (path : String) : String :=
  "--validate=" ++ path

theorem validateOption_toList (path : String) :
    (validateOption path).toList = "--validate=".toList ++ path.toList :=
  String.toList_append

theorem hasStart_validateOption (path start : String)
    (short : start.toList.isPrefixOf "--validate=".toList = true) :
    hasStart (validateOption path) start = true := by
  rw [hasStart, validateOption_toList, List.isPrefixOf_iff_prefix]
  exact (List.isPrefixOf_iff_prefix.mp short).trans (List.prefix_append _ _)

theorem mem_validateOption (path : String) : '=' ∈ (validateOption path).toList := by
  rw [validateOption_toList]
  exact List.mem_append_left _ (by decide)

theorem validateOption_ne (path other : String) (plain : '=' ∉ other.toList) :
    (validateOption path == other) = false := by
  apply beq_false_of_ne
  rintro rfl
  exact plain (mem_validateOption path)

theorem splitEqual_validateOption (path : String) :
    Grammar.splitEqual (validateOption path) = some ("--validate", ⟨path.toList, true⟩) := by
  have parts : validateOption path = "--validate" ++ "=" ++ path := rfl
  rw [parts, splitEqual_append (by decide)]

-- The option is none of those in front of a command. With a space in it, it is an operand.
theorem markOf_main (path : String) :
    mainGrammar.markOf (validateOption path) = .ok .operand ∨
      mainGrammar.markOf (validateOption path) = .ok (.asked ⟨none, validateOption path, none⟩) := by
  have unnamed := named_equal (g := mainGrammar) (by decide) (mem_validateOption path)
  have dashed := hasStart_validateOption path "-" rfl
  have long : Grammar.isLong (validateOption path) = true := hasStart_validateOption path "--" rfl
  have unknown : mainGrammar.named "--validate" = none := by decide +kernel
  have unfit : mainGrammar.optionNames.filter (hasStart · "--validate") = [] := by decide +kernel
  have unmatched : mainGrammar.longMatches (validateOption path) = [] := by
    simp [Grammar.longMatches, splitEqual_validateOption, unfit]
  simp only [Grammar.markOf, dashed, validateOption_ne path "-" (by decide), unnamed,
    splitEqual_validateOption, long, unmatched, unknown, Option.filter]
  generalize (Grammar.isNegative (validateOption path) || (validateOption path).toList.contains ' ') =
    spaced
  cases spaced <;> simp

theorem markOf_rules (path : String) :
    rulesGrammar.markOf (validateOption path) =
      .ok (.asked (rulesGrammar.askFor "--validate" (some ⟨path.toList, true⟩))) := by
  have unnamed := named_equal (g := rulesGrammar) (by decide) (mem_validateOption path)
  have dashed := hasStart_validateOption path "-" rfl
  have known : (rulesGrammar.named "--validate").isSome = true := by decide +kernel
  simp [Grammar.markOf, dashed, validateOption_ne path "-" (by decide), unnamed,
    splitEqual_validateOption, known, Option.filter]

theorem parse_main (path : String) :
    mainGrammar.parse ["rules", validateOption path] =
      .ok ⟨[], [["rules", validateOption path]], []⟩ := by
  have command : mainGrammar.markOf "rules" = .ok .operand := by rfl
  have apart := validateOption_ne path "--" (by decide)
  obtain mark | mark := markOf_main path
  · have marked : mainGrammar.marks ["rules", validateOption path] =
        .ok [("rules", .operand), (validateOption path, .operand)] := by
      simp [Grammar.marks, apart, command, mark, bind, Except.bind, pure, Except.pure]
    rw [Grammar.parse, marked]
    rfl
  · have marked : mainGrammar.marks ["rules", validateOption path] =
        .ok [("rules", .operand), (validateOption path, .asked ⟨none, validateOption path, none⟩)] := by
      simp [Grammar.marks, apart, command, mark, bind, Except.bind, pure, Except.pure]
    rw [Grammar.parse, marked]
    rfl

theorem parse_rules (path : String) :
    rulesGrammar.parse [validateOption path] = .ok ⟨[("--validate", path)], [], []⟩ := by
  have apart := validateOption_ne path "--" (by decide)
  have marked : rulesGrammar.marks [validateOption path] = .ok [(validateOption path,
      .asked ⟨some (textOption ["--validate"]), "--validate", some ⟨path.toList, true⟩⟩)] := by
    simp only [Grammar.marks, apart, markOf_rules]
    rfl
  rw [Grammar.parse, marked]
  have valued : (⟨[("--validate", String.ofList path.toList)], [], []⟩ : Parsed) =
      ⟨[("--validate", path)], [], []⟩ := by rw [String.ofList_toList]
  exact congrArg Except.ok valued

-- Whatever the path is, it is read as one.
theorem invocation_validate (path : String) :
    invocation ["rules", validateOption path] = .ok ⟨"", .rules path false⟩ := by
  have request : requestOf ["rules", validateOption path] = .ok (.rules path false, []) := by
    rw [requestOf, read, parse_rules]
    rfl
  rw [invocation, parse_main]
  simp only [bind, Except.bind, Parsed.operand, List.getD_cons_zero, request]
  rfl

/-! ### What is answered -/

/-- A validation that ends, by the code that it ends with. -/
inductive Answers (offer : Except Fault RuleSet) (outcome : Outcome) : Prop
  | valid (rules : RuleSet) (offered : offer = .ok rules) (code : outcome.code = 0)
  | invalid (problem : RuleProblem) (refused : offer = .error (.rules problem))
      (code : outcome.code = 1)

theorem run_answers {s : Surroundings} {path : String} (given : path ≠ "") {outcome : Outcome}
    (ran : run s ⟨"", .rules path false⟩ = .ok outcome) :
    Answers (do (← readText s.workspace path).build) outcome := by
  have full : path.isEmpty = false := by simpa using given
  have causes := RuleBook.failsOnly_offered .refused
    (RuleBook.sound_of_causes (.ofPath path) s.workspace .unbounded (.text path))
  rw [RuleBook.offered, readSource] at causes
  simp only [run, runRequest, full, runValidate] at ran
  have second : (do (← readText s.workspace path).build) = Except.map (·.2) (do
      let origin ← readText s.workspace path
      pure (origin.description, ← origin.build)) := by
    cases readText s.workspace path with
    | error fault => rfl
    | ok origin => cases built : origin.build <;> simp [built, bind, Except.bind, Except.map, pure,
        Except.pure]
  rw [second] at causes ⊢
  generalize (do
      let origin ← readText s.workspace path
      pure (origin.description, ← origin.build) : Except Fault (String × RuleSet)) = checked
    at causes ran ⊢
  cases checked with
  | ok found =>
    cases ran
    exact .valid found.2 rfl rfl
  | error fault =>
    cases causes fault rfl with
    | refused problem =>
      cases ran
      exact .invalid problem rfl rfl
    | _ => cases ran

theorem Answers.code_iff {offer : Except Fault RuleSet} {outcome : Outcome}
    (answers : Answers offer outcome) : outcome.code = 0 ↔ ∃ rules, offer = .ok rules := by
  cases answers with
  | valid rules offered code => simp [offered, code]
  | invalid problem refused code => simp [refused, code]

theorem readText_inline {w : Workspace} {text : String} (inline : looksInline text = true)
    (rules : RuleSet) : (do (← readText w text).build) = .ok rules ↔
      ∃ document, Document.parse text.toList = .ok document ∧ build inlineName document = .ok rules := by
  rw [readText, if_pos inline]
  cases read : ofJson .malformed text with
  | error fault =>
    have unread : ∀ document, Document.parse text.toList ≠ .ok document := by
      intro document parsed
      simp [ofJson_ok.mpr parsed] at read
    simp [bind, Except.bind, unread]
  | ok document => simp [bind, Except.bind, pure, Except.pure, ofJson_ok.mp read, Origin.build]

/-- What loading puts in force for a path. -/
inductive Loaded (w : Workspace) (path : String) (rules : RuleSet) : Prop
  | offered (offered : RuleSet) (offers : Offers w (.ofText path) offered)
      (rules_eq : rules = { offered with revision := 1 })
  | builtin (nothing : ∀ offered, ¬ Offers w (.ofText path) offered)
      (rules_eq : rules = { Rules.builtin with revision := 1 })

theorem rules_ofPath (w : Workspace) (path : String) :
    (RuleBook.ofPath path).rules w = (RuleBook.ofPath path).load w := by
  simp [RuleBook.rules, RuleBook.ofPath]

theorem rules_loaded {w : Workspace} {path : String} (given : path ≠ "") {rules : RuleSet}
    (loaded : ((RuleBook.ofPath path).rules w).1 = .ok rules) : Loaded w path rules := by
  have backed : (RuleBook.ofPath path).file = some (.ofText path) := by
    simp [RuleBook.ofPath, given]
  have loads := RuleBook.load_loads (.ofPath path) w
  rw [rules_ofPath] at loaded
  generalize (RuleBook.ofPath path).load w = result at loads loaded
  cases loads with
  | unbacked rules unbacked => simp [backed] at unbacked
  | raised fault => cases loaded
  | replaced location stamp found here stamped read =>
    obtain rfl : location = .ofText path := by simpa [backed] using here.symm
    obtain rfl : { found with revision := 1 } = rules := by
      simpa [RuleBook.publish, RuleBook.ofPath] using loaded
    cases offer : (do (← readFile w (.ofText path)).build) with
    | ok offered =>
      rw [offer] at read
      cases read
      exact .offered found (offers_iff.mpr offer) rfl
    | error fault =>
      have nothing : ∀ offered, ¬ Offers w (.ofText path) offered := by
        intro offered offers
        rw [offers_iff.mp offers] at offer
        cases offer
      rw [offer] at read
      cases fault with
      | rules problem =>
        have same : Rules.builtin = found := Except.ok.inj read
        exact .builtin nothing (by rw [same])
      | _ => cases read

/-- A validation, beside the rules that are in force for the same path. -/
structure Agrees (w : Workspace) (path : String) (outcome : Outcome) (rules : RuleSet) : Prop where
  told : outcome.code = 0 ∨ outcome.code = 1
  loaded : Loaded w path rules
  agrees : looksInline path = false → (outcome.code = 0 ↔
    ∃ offered, Offers w (.ofText path) offered ∧ rules = { offered with revision := 1 })
  inline : looksInline path = true → (outcome.code = 0 ↔
    ∃ document offered, Document.parse path.toList = .ok document ∧
      build inlineName document = .ok offered)

theorem validate_agrees (s : Surroundings) (path : String) (given : path ≠ "") :
    invocation ["rules", "--validate=" ++ path] = .ok ⟨"", .rules path false⟩ ∧
      ∀ outcome rules, run s ⟨"", .rules path false⟩ = .ok outcome →
        ((RuleBook.ofPath path).rules s.workspace).1 = .ok rules →
        Agrees s.workspace path outcome rules := by
  refine ⟨invocation_validate path, fun outcome rules ran loaded => ?_⟩
  have answers := run_answers given ran
  have loaded := rules_loaded given loaded
  refine ⟨?_, loaded, fun named => ?_, fun inline => ?_⟩
  · cases answers with
    | valid _ _ code => exact .inl code
    | invalid _ _ code => exact .inr code
  · have file : readText s.workspace path = readFile s.workspace (.ofText path) := by
      simp [readText, named]
    rw [answers.code_iff, file]
    simp only [← offers_iff]
    constructor
    · rintro ⟨rules, offers⟩
      cases loaded with
      | offered offered offers rules_eq => exact ⟨offered, offers, rules_eq⟩
      | builtin nothing => exact absurd offers (nothing rules)
    · rintro ⟨offered, offers, -⟩
      exact ⟨offered, offers⟩
  · simp only [answers.code_iff, readText_inline inline]
    exact exists_comm

theorem rules_offered {w : Workspace} {path : String} (given : path ≠ "") {offered : RuleSet}
    (offers : Offers w (.ofText path) offered) :
    ((RuleBook.ofPath path).rules w).1 = .ok { offered with revision := 1 } := by
  have backed : (RuleBook.ofPath path).file = some (.ofText path) := by
    simp [RuleBook.ofPath, given]
  obtain ⟨stamp, stamped⟩ := offers.stamped
  rw [rules_ofPath, RuleBook.load_offered backed stamped offers]
  rfl

theorem run_offered (s : Surroundings) {path : String} (given : path ≠ "")
    (named : looksInline path = false) {offered : RuleSet}
    (offers : Offers s.workspace (.ofText path) offered) :
    ∃ outcome, run s ⟨"", .rules path false⟩ = .ok outcome ∧ outcome.code = 0 := by
  have full : path.isEmpty = false := by simpa using given
  obtain ⟨document, holds, built⟩ := offers
  have read : readText s.workspace path = .ok ⟨document, (Location.ofText path).text⟩ := by
    rw [readText, if_neg (by simp [named]), readFile_ok]
    exact ⟨rfl, holds⟩
  refine ⟨plain [validLine (Location.ofText path).text offered] 0, ?_, rfl⟩
  simp only [run, runRequest, full, runValidate, read, Origin.build, bind, Except.bind, built]
  rfl

/-- A rule document without rules. -/
def ruleDocument : Document :=
  .object (RuleBook.plainFields (.int 1))

-- A folder with nothing but this document in it.
def ruleFolder (name : String) : Workspace :=
  ⟨[([name], .file ⟨ruleDocument.renderIndented.toUTF8.toList, .fresh 0⟩)], 1, []⟩

theorem ruleFolder_offers {name : String}
    (here : (ruleFolder name).read (.ofText name) =
      .ok ruleDocument.renderIndented.toUTF8.toList)
    (accepted : (build (Location.ofText name).text ruleDocument).toOption.isSome = true) :
    ∃ offered, Offers (ruleFolder name) (.ofText name) offered := by
  cases built : build (Location.ofText name).text ruleDocument with
  | error fault => simp [built, Except.toOption] at accepted
  | ok offered =>
    exact ⟨offered, ruleDocument, ⟨_, ruleDocument.renderIndented, here,
      decode_written (Document.written_write ruleDocument _),
      rereads_of_isKept (by decide +kernel)⟩, built⟩

theorem validate_agrees_plain : ∃ s outcome rules,
    run s ⟨"", .rules "rules.json" false⟩ = .ok outcome ∧ outcome.code = 0 ∧
      ((RuleBook.ofPath "rules.json").rules s.workspace).1 = .ok rules ∧
      Agrees s.workspace "rules.json" outcome rules := by
  obtain ⟨offered, offers⟩ : ∃ offered, Offers (ruleFolder "rules.json") (.ofText "rules.json")
      offered := ruleFolder_offers rfl (by decide +kernel)
  let s : Surroundings := ⟨ruleFolder "rules.json", [], "", .empty⟩
  have given : "rules.json" ≠ "" := by decide
  have loaded := rules_offered given offers
  obtain ⟨outcome, ran, code⟩ := run_offered s given (by decide +kernel) offers
  exact ⟨s, outcome, _, ran, code, loaded, (validate_agrees s _ given).2 outcome _ ran loaded⟩

-- A file with a brace at the start of its name is loaded, but its name is validated for its content.
theorem validate_differs : ¬ ∀ (s : Surroundings) (path : String) (outcome : Outcome)
    (rules : RuleSet), path ≠ "" → run s ⟨"", .rules path false⟩ = .ok outcome →
      ((RuleBook.ofPath path).rules s.workspace).1 = .ok rules →
      (outcome.code = 0 ↔ ∃ offered, Offers s.workspace (.ofText path) offered ∧
        rules = { offered with revision := 1 }) := by
  intro always
  obtain ⟨offered, offers⟩ : ∃ offered, Offers (ruleFolder "\x7brules.json")
      (.ofText "\x7brules.json") offered := ruleFolder_offers rfl (by decide +kernel)
  let s : Surroundings := ⟨ruleFolder "\x7brules.json", [], "", .empty⟩
  have given : "\x7brules.json" ≠ "" := by decide
  have refused : (run s ⟨"", .rules "\x7brules.json" false⟩).toOption.map (·.code) = some 1 := by
    decide +kernel
  cases ran : run s ⟨"", .rules "\x7brules.json" false⟩ with
  | error fault => simp [ran, Except.toOption] at refused
  | ok outcome =>
    have code : outcome.code = 1 := by simpa [ran, Except.toOption] using refused
    have agreed := (always s _ outcome _ given ran (rules_offered given offers)).mpr
      ⟨offered, offers, rfl⟩
    simp [code] at agreed

end CodeAtlas.Command
