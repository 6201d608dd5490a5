import CodeAtlas.Proofs.Rules.Backing
import Mathlib.Algebra.Group.Int.Defs

set_option autoImplicit false

/-! What a rule book writes to its backing file when it takes a document: the rules that it puts in
force come of the file again. -/

namespace CodeAtlas.Rules

open CodeAtlas.Files

/-! ### Built rules -/

/-- What holds of a value if there is one. -/
def Builds {α : Type} (holds : α → Prop) (result : Built α) : Prop :=
  ∀ value, result = .ok value → holds value

theorem Builds.bind {α β : Type} {holds : β → Prop} {result : Built α} {next : α → Built β}
    (later : ∀ value, result = .ok value → Builds holds (next value)) :
    Builds holds (result >>= next) := by
  cases result with
  | error fault =>
    intro value built
    cases built
  | ok value => exact later value rfl

theorem checkWritable_ok {document : Document} {done : Unit}
    (passed : checkWritable document = .ok done) : document.isWritable = true := by
  unfold checkWritable at passed
  split at passed
  · next writable => exact writable
  · cases passed

-- A rule set keeps the document that it is built from. The last check is whether it can be written.
theorem build_keeps (source : String) (document : Document) :
    Builds (fun rules => rules.document = document ∧ document.isWritable = true)
      (build source document) := by
  unfold build
  repeat refine Builds.bind fun _ passed => ?_
  intro rules built
  cases built
  exact ⟨rfl, checkWritable_ok passed⟩

-- Where a document comes from only makes a difference to the name of the source.
theorem build_source (source other : String) (document : Document) :
    build source document =
      (fun rules : RuleSet => { rules with source := source }) <$> build other document := by
  simp only [build, map_bind, map_pure]

theorem build_named {source : String} {document : Document} {rules : RuleSet} (name : String)
    (built : build source document = .ok rules) :
    build name document = .ok { rules with source := name } := by
  rw [build_source name source, built]
  rfl

theorem isKept_of_built {source : String} {document : Document} {rules : RuleSet}
    (built : build source document = .ok rules) (keyed : document.isKeyed = true)
    (stable : document.isStable = true) : document.isKept = true :=
  Document.isKept_of (build_keeps source document rules built).2 keyed stable

theorem toDocument_of_built {source : String} {document : Document} {rules : RuleSet}
    (built : build source document = .ok rules) (keyed : document.isKeyed = true)
    (stable : document.isStable = true) : rules.toDocument = .ok document := by
  rw [RuleSet.toDocument, RuleSet.documentText, (build_keeps source document rules built).1,
    Document.render, String.toList_ofList,
    Document.parse_write (isKept_of_built built keyed stable)]

/-! ### The backing file -/

namespace RuleBook

variable {book : RuleBook} {w later : Workspace} {location : Location} {rules : RuleSet}

/-- The book after it has taken rules and noted the time of the file. -/
theorem revise_saved {document : Document} (backed : book.file = some location)
    (built : Rules.build location.text document = .ok rules)
    (written : w.write location document.renderIndented.toUTF8.toList none = .ok later) :
    book.revise w (.ok document) = (.ok (book.publish rules).1,
      ((book.notes (some (.fresh w.writes))).publish rules).2, later) := by
  have stamped : later.stamp? location = .ok (some (.fresh w.writes)) :=
    Workspace.stamp?_file (Workspace.write_nodeAt written)
  have saved := (save_ok backed).mpr written
  obtain ⟨file, active, revision, seen⟩ := book
  cases backed
  simp only [revise, sourceName, built, saved, fileStamp, stamped, bind, Except.bind, pure,
    Except.pure]
  rfl

theorem reload_offered (backed : book.file = some location) {stamp : Option Stamp}
    (stamped : w.stamp? location = .ok stamp) (offers : Offers w location rules) :
    book.reload w = (.ok true, ((book.notes stamp).publish rules).2) := by
  obtain ⟨file, active, revision, seen⟩ := book
  cases backed
  simp only [reload, stamped, offers_iff.mp offers]
  rfl

theorem load_offered (backed : book.file = some location) {stamp : Option Stamp}
    (stamped : w.stamp? location = .ok stamp) (offers : Offers w location rules) :
    book.load w = (.ok (book.publish rules).1, ((book.notes stamp).publish rules).2) := by
  obtain ⟨file, active, revision, seen⟩ := book
  cases backed
  simp only [load, stamped, offers_iff.mp offers]
  rfl

theorem check_seen (backed : book.file = some location) {stamp : Stamp}
    (stamped : w.stamp? location = .ok (some stamp)) (seen : (book.seen == some stamp) = true) :
    book.check w = (.ok false, book) := by
  rw [check, fileStamp, backed]
  simp only [stamped, seen, if_true]

theorem check_offered (backed : book.file = some location) {stamp : Stamp}
    (stamped : w.stamp? location = .ok (some stamp)) (unseen : (book.seen == some stamp) = false)
    (offers : Offers w location rules) :
    book.check w = (.ok true, ((book.notes (some stamp)).publish rules).2) := by
  rw [check, fileStamp, backed]
  simp only [stamped, unseen]
  exact reload_offered backed stamped offers

/-- The rules are in force as the next revision, and nothing else about them is new. -/
structure Takes (book : RuleBook) (rules : RuleSet) (after : RuleBook) : Prop where
  active : after.active = some { rules with revision := book.revision + 1 }
  counted : after.revision = book.revision + 1

/-- The rules of a document that is written to the backing file are the rules that come of the file
again: for the same book, for a new book at the same path, and from the rule set itself. -/
theorem update_persists {path source : String} {book : RuleBook} {w : Workspace}
    {fields : List (String × Document)} {rules : RuleSet}
    (backed : book.file = some (.ofText path)) (named : path.isEmpty = false)
    (writable : ∀ bytes, ∃ later, w.write (.ofText path) bytes none = .ok later)
    (built : Rules.build source (.object fields) = .ok rules)
    (keyed : (Document.object fields).isKeyed = true)
    (stable : (Document.object fields).isStable = true) :
    let returned : RuleSet :=
      { rules with source := (Location.ofText path).text, revision := book.revision + 1 }
    ∃ after later, book.update w (.object fields) = (.ok returned, after, later) ∧
      book.Takes returned after ∧
      (after.reload later).1 = .ok true ∧ after.Takes returned (after.reload later).2 ∧
      ((ofPath path).load later).1 = .ok { returned with revision := 1 } ∧
      (ofPath path).Takes returned ((ofPath path).load later).2 ∧
      after.check later = (.ok false, after) ∧
      rules.toDocument = .ok (.object fields) ∧
      ∀ (other : RuleBook) (v : Workspace),
        other.adopt v rules = other.update v (.object fields) := by
  let kept : RuleSet := { rules with source := (Location.ofText path).text }
  have again : Rules.build (Location.ofText path).text (.object fields) = .ok kept :=
    build_named (Location.ofText path).text built
  have rereads : Rereads (.object fields) := rereads_of_isKept (isKept_of_built built keyed stable)
  have document := toDocument_of_built built keyed stable
  obtain ⟨later, written⟩ := writable (Document.object fields).renderIndented.toUTF8.toList
  have stamped : later.stamp? (.ofText path) = .ok (some (.fresh w.writes)) :=
    Workspace.stamp?_file (Workspace.write_nodeAt written)
  have offers : Offers later (.ofText path) kept :=
    ⟨.object fields, holds_saved written rereads, again⟩
  let after := ((book.notes (some (.fresh w.writes))).publish kept).2
  have still : after.file = some (.ofText path) := backed
  have fresh : (ofPath path).file = some (.ofText path) := by
    rw [ofPath, named]
    rfl
  refine ⟨after, later, revise_saved backed again written, ⟨rfl, rfl⟩, ?_, ?_, ?_, ?_, ?_, document, ?_⟩
  · rw [reload_offered still stamped offers]
  · rw [reload_offered still stamped offers]
    exact ⟨rfl, rfl⟩
  · rw [load_offered fresh stamped offers]
    rfl
  · rw [load_offered fresh stamped offers]
    exact ⟨rfl, rfl⟩
  · have same : (Stamp.fresh w.writes == .fresh w.writes) = true := beq_self_eq_true w.writes
    exact check_seen still stamped same
  · intro other v
    rw [adopt, document]
    rfl

/-- A rule document with a rule inside a rule, a large number and escaped characters. -/
def layeredFields : List (String × Document) :=
  [("version", .text "2.0 \"é😀\"\n"),
   ("purposeHeuristics", .object
     [("patterns", .object
       [("Hook", .object
         [("conditions", .list [.text "name.startsWith('use')"]),
          ("purpose", .text "Hook"),
          ("confidence", .float 0.75),
          ("subPatterns", .object
            [("Async", .object
              [("conditions", .text "name.endsWith('Async')"),
               ("purpose", .text "Async hook"),
               ("confidence", .int 1)])])])]),
      ("fallback", .object [("purpose", .text "Utility function")])]),
   ("bundleHeuristics", .object [("patterns", .object []), ("fallback", .object [])]),
   ("semanticTypeMapping", .object
     [("clusters", .object
       [("views", .object
         [("types", .list [.text "Hook"]), ("clusterId", .int (10 ^ 40))])])])]

theorem update_persists_layered :
    (Document.object layeredFields).isKeyed = true ∧ (Document.object layeredFields).isStable = true ∧
    ∃ rules after later, Rules.build inlineName (.object layeredFields) = .ok rules ∧
      (ofPath "rules.json").update .empty (.object layeredFields) =
        (.ok { rules with source := (Location.ofText "rules.json").text, revision := 1 }, after,
          later) ∧
      (after.reload later).1 = .ok true ∧
      (after.reload later).2.active =
        some { rules with source := (Location.ofText "rules.json").text, revision := 2 } ∧
      after.check later = (.ok false, after) := by
  have keyed : (Document.object layeredFields).isKeyed = true := by decide +kernel
  have stable : (Document.object layeredFields).isStable = true := by decide +kernel
  have accepted : (Rules.build inlineName (.object layeredFields)).toOption.isSome = true := by
    decide +kernel
  have spot : Workspace.empty.spotOf (.ofText "rules.json") = .ok ["rules.json"] := by
    decide +kernel
  have writable (bytes : List UInt8) :
      ∃ later, Workspace.empty.write (.ofText "rules.json") bytes none = .ok later := by
    rw [Workspace.write, spot]
    exact ⟨_, rfl⟩
  have backed : (ofPath "rules.json").file = some (.ofText "rules.json") := rfl
  cases built : Rules.build inlineName (.object layeredFields) with
  | error fault =>
    rw [built] at accepted
    cases accepted
  | ok rules =>
    obtain ⟨after, later, updated, takes, reloaded, taken, -, -, checked, -⟩ :=
      update_persists backed rfl writable built keyed stable
    refine ⟨keyed, stable, rules, after, later, rfl, updated, reloaded, ?_, checked⟩
    rw [taken.active, takes.counted]
    rfl

end RuleBook

end CodeAtlas.Rules
