import CodeAtlas.Proofs.Atlas.History
import CodeAtlas.Proofs.Rules.Operations
import CodeAtlas.Proofs.Rules.WellFormed

set_option autoImplicit false

/-! The rules that a scan goes by. They were built from a document, or are the built-in ones, so that
all that is known of built rules holds of the units in the store. -/

namespace CodeAtlas

open CodeAtlas.Classify CodeAtlas.Files CodeAtlas.Rules

namespace Rules

/-- The rules in force, if there are any, are well formed. -/
def RuleBook.Formed (book : RuleBook) : Prop :=
  ∀ rules, book.active = some rules → rules.WellFormed

/-- What an operation answers is well formed if it is rules, and so are the rules that it leaves in
force. -/
structure GivesFormed (result : Except Fault RuleSet × RuleBook) : Prop where
  book : result.2.Formed
  rules : ∀ rules, result.1 = .ok rules → rules.WellFormed

theorem GivesFormed.publish {rules : RuleSet} (formed : rules.WellFormed) (book other : RuleBook) :
    GivesFormed (.ok (book.publish rules).1, (other.publish rules).2) := by
  have numbered (revision : Nat) : { rules with revision := revision }.WellFormed :=
    ⟨formed.purposes, formed.bundles, formed.path, formed.fallback, formed.fallbackConfident,
      formed.defaultConfident⟩
  refine ⟨fun active same => ?_, fun given same => ?_⟩
  · obtain rfl := Option.some.inj same
    exact numbered _
  · obtain rfl := Except.ok.inj same
    exact numbered _

theorem orBuiltin_formed {result : Except Fault RuleSet} {rules : RuleSet}
    (built : result = .ok rules → rules.WellFormed) (given : RuleBook.orBuiltin result = .ok rules) :
    rules.WellFormed := by
  unfold RuleBook.orBuiltin at given
  split at given
  · obtain rfl := Except.ok.inj given
    exact builtin_formed
  · exact built given

theorem Loads.formed {book : RuleBook} {w : Workspace} {result : Except Fault RuleSet × RuleBook}
    (loads : RuleBook.Loads book w result) (formed : book.Formed) : GivesFormed result := by
  cases loads with
  | unbacked rules unbacked builtin_eq =>
    exact .publish (builtin_eq ▸ builtin_formed) book book
  | replaced location stamp rules backed stamped read =>
    refine .publish (orBuiltin_formed (fun built => ?_) read) book (book.notes stamp)
    obtain ⟨origin, -, made⟩ := ok_of_bind built
    exact build_ok made
  | raised fault => exact ⟨formed, fun _ same => by cases same⟩

theorem rules_formed {book : RuleBook} (formed : book.Formed) (w : Workspace) :
    GivesFormed (book.rules w) := by
  unfold RuleBook.rules
  split
  next rules active =>
    refine ⟨formed, fun given same => ?_⟩
    obtain rfl := Except.ok.inj same
    exact formed rules active
  next => exact Loads.formed (RuleBook.load_loads book w) formed

end Rules

/-- Each of the units was classified by well-formed rules. -/
def Classified (units : List ClassifiedUnit) : Prop :=
  ∀ u ∈ units, ∃ rules raw, RuleSet.WellFormed rules ∧ u = classify rules raw

theorem classifyText_classified {rules : RuleSet} (formed : rules.WellFormed) (least : Int)
    (path text : String) : Classified (classifyText rules least path text) := by
  intro u member
  obtain ⟨raw, -, rfl⟩ := List.mem_map.mp member
  exact ⟨rules, raw, formed, rfl⟩

namespace Atlas

/-- The rules in force are well formed, and all units were classified by such rules. -/
structure Formed (a : Atlas) : Prop where
  book : a.book.Formed
  store : a.store.Holds fun _ units => Classified units

theorem empty_formed (path : String) (index : Index.VectorIndex) (cache : Option Embedding.Cache)
    (least : Int) : (empty (.ofPath path) index cache least).Formed :=
  ⟨fun _ same => (Option.some_ne_none _ same.symm).elim, Store.holds_empty⟩

theorem Formed.units {a : Atlas} (formed : a.Formed) : Classified a.store.all := by
  intro u member
  obtain ⟨entry, file, inside⟩ := List.mem_flatMap.mp member
  exact formed.store.each entry file u inside

section

variable {a : Atlas} (formed : a.Formed)

include formed

theorem processText_formed (w : Workspace) (path text : String) :
    (a.processText w path text).2.Formed ∧
      ∀ units, (a.processText w path text).1 = .ok units → Classified units := by
  have given := rules_formed formed.book w
  refine ⟨⟨given.book, formed.store⟩, fun units done => ?_⟩
  have mapped : (a.processText w path text).1 =
      (a.book.rules w).1.map fun rules => classifyText rules a.least path text := rfl
  rw [mapped] at done
  cases found : (a.book.rules w).1 with
  | error fault => simp [found, Except.map] at done
  | ok rules =>
    rw [found] at done
    obtain rfl := Except.ok.inj done
    exact classifyText_classified (given.rules rules found) a.least path text

theorem processFile_formed (w : Workspace) (path : String) :
    (a.processFile w path).2.Formed ∧
      ∀ units, (a.processFile w path).1 = .ok units → Classified units := by
  rw [processFile]
  split
  next => exact processText_formed formed w path _
  next => exact ⟨formed, fun _ done => by cases done⟩

theorem commit_formed {units : List ClassifiedUnit} (classified : Classified units) (path : String)
    (generation : Int) : (a.commit path units generation).2.Formed := by
  rw [commit]
  split
  · exact formed
  · exact ⟨formed.book, formed.store.replace path units classified⟩

theorem scanFile_formed (w : Workspace) (generation : Int) (s : ScanStats) (path : String) :
    (scanFile w generation a s path).2.Formed := by
  obtain ⟨after, classified⟩ := processFile_formed formed w path
  refine scanFile_keeps after (fun units done => ?_) s
  exact commit_formed after (classified units done) path generation

theorem scan_formed (w : Workspace) (paths : List String) : (a.scan w paths).2.Formed := by
  have counted : a.nextGeneration.Formed := ⟨formed.book, formed.store⟩
  have keeps : ∀ path ∈ Text.distinct paths, ∀ b s, Formed b →
      Formed (scanFile w a.nextGeneration.generation b s path).2 :=
    fun path _ b s known => scanFile_formed known w _ s path
  exact scanEach_keeps keeps counted _

end

end Atlas

end CodeAtlas
