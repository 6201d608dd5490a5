import CodeAtlas.Document.Cast
import CodeAtlas.Rules.Builtin
import CodeAtlas.Rules.Source

set_option autoImplicit false

/-! The rule book: the rule set in force, its backing file and its revisions. -/

namespace CodeAtlas.Rules

open CodeAtlas.Files

/-- `revision` counts the rule sets put in force so far. `seen` is when the backing file was written
that was looked at last. -/
structure RuleBook where
  file : Option Location
  active : Option RuleSet
  revision : Nat
  seen : Option Stamp

-- The document of a rule set, read back from its text.
def RuleSet.toDocument (rules : RuleSet) : Except Fault Document :=
  match Document.parse rules.documentText.toList with
  | .ok document => .ok document
  | .error _ => .error .badValue

namespace RuleBook

-- A book without a rule set. An empty path stands for no backing file.
def ofPath (path : String) : RuleBook :=
  ⟨if path.isEmpty then none else some (.ofText path), none, 0, none⟩

def publish (book : RuleBook) (rules : RuleSet) : RuleSet × RuleBook :=
  let numbered := { rules with revision := book.revision + 1 }
  (numbered, { book with active := some numbered, revision := book.revision + 1 })

def fileStamp (book : RuleBook) (w : Workspace) : Except Fault (Option Stamp) :=
  match book.file with
  | none => .ok none
  | some location => w.stamp? location

def builtinRules (stack : Stack := .unbounded) : Except Fault RuleSet := do
  stack.enter (.copy Builtin.document)
  stack.enter (.build Builtin.document)
  pure builtin

def orBuiltin (result : Except Fault RuleSet) (stack : Stack := .unbounded) :
    Except Fault RuleSet :=
  match result with
  | .error (.rules _) => builtinRules stack
  | result => result

def loadFrom (book : RuleBook) (w : Workspace) (source : Document) (stack : Stack := .unbounded) :
    Except Fault RuleSet × RuleBook :=
  match orBuiltin (do (← readSource w source stack).build stack) stack with
  | .ok rules =>
    let (published, book) := book.publish rules
    (.ok published, book)
  | .error fault => (.error fault, book)

def load (book : RuleBook) (w : Workspace) (stack : Stack := .unbounded) :
    Except Fault RuleSet × RuleBook :=
  match book.file with
  | none =>
    match builtinRules stack with
    | .ok rules =>
      let (published, book) := book.publish rules
      (.ok published, book)
    | .error fault => (.error fault, book)
  | some location =>
    let loaded := do
      let rules ← orBuiltin (do (← readFile w location stack).build stack) stack
      pure (rules, ← w.stamp? location)
    match loaded with
    | .ok (rules, stamp) =>
      let (published, book) := { book with seen := stamp }.publish rules
      (.ok published, book)
    | .error fault => (.error fault, book)

def rules (book : RuleBook) (w : Workspace) : Except Fault RuleSet × RuleBook :=
  match book.active with
  | some rules => (.ok rules, book)
  | none => book.load w

-- Reads the backing file again. An invalid document changes nothing.
def reload (book : RuleBook) (w : Workspace) : Except Fault Bool × RuleBook :=
  match book.file with
  | none => (.ok false, book)
  | some location =>
    match w.stamp? location with
    | .error fault => (.error fault, book)
    | .ok stamp =>
      let book := { book with seen := stamp }
      match (do (← readFile w location).build : Except Fault RuleSet) with
      | .ok rules => (.ok true, (book.publish rules).2)
      | .error (.rules _) => (.ok false, book)
      | .error fault => (.error fault, book)

def check (book : RuleBook) (w : Workspace) : Except Fault Bool × RuleBook :=
  match book.fileStamp w with
  | .error fault => (.error fault, book)
  | .ok none => (.ok false, book)
  | .ok (some stamp) => if book.seen == some stamp then (.ok false, book) else book.reload w

def pairOf : Document → Except Fault (String × Document)
  | .list [.list _, _] => .error .wrongType
  | .list [.object _, _] => .error .wrongType
  | .list [name, value] => .ok (name.toText, value)
  | .list _ => .error .badValue
  | .object [(name, _), (value, _)] => .ok (name, .text value)
  | .object _ => .error .badValue
  | .text s =>
    match s.toList with
    | [name, value] => .ok (String.singleton name, .text (String.singleton value))
    | _ => .error .badValue
  | _ => .error .wrongType

def fieldsGiven : Document → Except Fault (List (String × Document))
  | .object fields => .ok fields
  | .list items => do pure (Keyed.ofList (← items.mapM pairOf))
  | .text s => if s.isEmpty then .ok [] else .error .badValue
  | _ => .error .wrongType

def sourceName (book : RuleBook) : String :=
  match book.file with
  | some location => location.text
  | none => inlineName

def save (book : RuleBook) (w : Workspace) (document : Document) : Except Fault Workspace :=
  match book.file with
  | none => .ok w
  | some location =>
    match w.write location document.renderIndented.toUTF8.toList none with
    | .error (.file problem path) =>
      .error (.rules (.unwritable location.text (problemAt problem path)))
    | result => result

-- Checks a document, writes it to the backing file and puts it in force. A document that is
-- refused, or cannot be written, changes nothing.
def revise (book : RuleBook) (w : Workspace) (given : Except Fault Document) :
    Except Fault RuleSet × RuleBook × Workspace :=
  let saved := do
    let document ← given
    let rules ← Rules.build book.sourceName document
    let w ← book.save w document
    pure (rules, ← book.fileStamp w, w)
  match saved with
  | .error fault => (.error fault, book, w)
  | .ok (rules, stamp, w) =>
    let book := match book.file with
      | none => book
      | some _ => { book with seen := stamp }
    let (published, book) := book.publish rules
    (.ok published, book, w)

def update (book : RuleBook) (w : Workspace) (given : Document) :
    Except Fault RuleSet × RuleBook × Workspace :=
  book.revise w (do pure (.object (← fieldsGiven given)))

-- Puts the document of rules in force that were built before.
def adopt (book : RuleBook) (w : Workspace) (rules : RuleSet) :
    Except Fault RuleSet × RuleBook × Workspace :=
  book.revise w rules.toDocument

end RuleBook

end CodeAtlas.Rules
