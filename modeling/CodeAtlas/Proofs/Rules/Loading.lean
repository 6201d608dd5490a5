import CodeAtlas.Proofs.Document.Reading
import CodeAtlas.Proofs.Rules.Build
import CodeAtlas.Rules.Book

set_option autoImplicit false

/-! Loading of rules: what is put in force, and which sources can make it fail. -/

namespace CodeAtlas.Rules

open CodeAtlas.Files

/-! ### Sources -/

/-- What rules are loaded from: the backing file of the book, or a text or an object that is given. -/
inductive Source
  | backing
  | text (value : String)
  | object (fields : List (String × Document))

/-- A refusal, which the built-in rules make up for. -/
inductive Refusal : Fault → Prop
  | refused (problem : RuleProblem) : Refusal (.rules problem)

/-- The causes for which no rule set may come of a source. -/
inductive Cause : Fault → Prop
  | refused (problem : RuleProblem) : Cause (.rules problem)
  | tooLarge : Cause .tooLarge
  | badValue : Cause .badValue
  | nameTooLong (path : String) : Cause (.file .nameTooLong path)
  | denied (path : String) : Cause (.file .denied path)
  | tooDeep : Cause .tooDeep

section

variable (allowed : Fault → Prop) (stack : Stack)

/-- The stack has room for a task, or may be used up by it. -/
def Stack.Suits (task : Task) : Prop :=
  stack.holds task = false → allowed .tooDeep

/-- A document that a rule set is built of but for causes that are allowed. -/
structure Buildable (document : Document) : Prop where
  tame : Tame allowed document
  written : document.isWritable = false → allowed .badValue
  room : stack.Suits allowed (.build document)

/-- JSON text that a rule set comes of but for causes that are allowed. -/
structure Legible (text : String) : Prop where
  room : stack.Suits allowed (.parse text)
  digits : Document.parse text.toList = .error .tooManyDigits → allowed .badValue
  tame : ∀ document, Document.parse text.toList = .ok document →
    Tame allowed document ∧ stack.Suits allowed (.build document)

structure Filed (w : Workspace) (location : Location) : Prop where
  room : stack.Suits allowed (.find location)
  reachable : ∀ problem path, w.nodeAt location = .error (.file problem path) →
    problem.isAbsence = false → allowed (.file problem path)
  legible : ∀ bytes text, w.read location = .ok bytes → decode bytes = .ok text →
    Legible allowed stack text

/-- What a source holds is had but for causes that are allowed. -/
def Source.Readable (book : RuleBook) (w : Workspace) : Source → Prop
  | .backing => ∀ location, book.file = some location →
    (location.isNameable = false → allowed .badValue) ∧ Filed allowed stack w location
  | .text value =>
    if looksInline value then Legible allowed stack value
    else Filed allowed stack w (.ofText value)
  | .object fields =>
    stack.Suits allowed (.copy (.object fields)) ∧ Buildable allowed stack (.object fields)

/-- A source that rules are loaded from but for causes that are allowed. The built-in rules take some
of the stack too. -/
structure Source.Sound (book : RuleBook) (w : Workspace) (source : Source) : Prop where
  readable : source.Readable allowed stack book w
  copied : stack.Suits allowed (.copy Builtin.document)
  built : stack.Suits allowed (.build Builtin.document)

end

/-! ### Room on the call stack -/

section

variable {allowed : Fault → Prop} {stack : Stack}

theorem enter_ok {task : Task} (room : stack.holds task = true) : stack.enter task = .ok () := by
  rw [Stack.enter, room]
  rfl

theorem enter_full {task : Task} (full : stack.holds task = false) :
    stack.enter task = .error .tooDeep := by
  rw [Stack.enter, full]
  rfl

@[simp] theorem enter_unbounded (task : Task) : Stack.unbounded.enter task = .ok () := rfl

theorem failsOnly_enter {task : Task} (suits : stack.Suits allowed task) :
    FailsOnly allowed (stack.enter task) := by
  cases room : stack.holds task with
  | true =>
    rw [enter_ok room]
    exact failsOnly_ok ()
  | false =>
    rw [enter_full room]
    exact failsOnly_error (suits room)

/-! ### Reading -/

/-- A reading that fails only for causes that are allowed, and of a document that can be built. -/
structure Yields (allowed : Fault → Prop) (stack : Stack) (result : Except Fault Origin) : Prop where
  fails : FailsOnly allowed result
  buildable : ∀ origin, result = .ok origin → Buildable allowed stack origin.document

theorem yields_error {fault : Fault} (cause : allowed fault) :
    Yields allowed stack (.error fault) where
  fails := failsOnly_error cause
  buildable := by
    intro origin given
    cases given

theorem yields_ok {origin : Origin} (buildable : Buildable allowed stack origin.document) :
    Yields allowed stack (.ok origin) where
  fails := failsOnly_ok origin
  buildable := by
    intro other given
    cases given
    exact buildable

theorem Yields.enter {task : Task} {result : Except Fault Origin} (suits : stack.Suits allowed task)
    (yields : Yields allowed stack result) :
    Yields allowed stack (do stack.enter task; result) := by
  cases room : stack.holds task with
  | false =>
    rw [enter_full room]
    exact yields_error (suits room)
  | true =>
    rw [enter_ok room]
    exact yields

theorem Yields.build {result : Except Fault Origin} (yields : Yields allowed stack result)
    (refusable : ∀ problem, allowed (.rules problem)) :
    FailsOnly allowed (do (← result).build stack) := by
  apply yields.fails.bind
  intro origin given
  have buildable := yields.buildable origin given
  apply (failsOnly_enter buildable.room).bind
  intro _ _
  exact failsOnly_build refusable origin.description buildable.tame buildable.written

theorem yields_ofJson (malformed : String → RuleProblem) (description : String) {text : String}
    (refusable : ∀ problem, allowed (.rules problem)) (legible : Legible allowed stack text) :
    Yields allowed stack (do pure ⟨← ofJson malformed text stack, description⟩) := by
  rw [ofJson, bind_assoc]
  apply Yields.enter legible.room
  dsimp only
  cases parsed : Document.parse text.toList with
  | ok document =>
    have buildable : Buildable allowed stack document := by
      obtain ⟨tame, room⟩ := legible.tame document parsed
      refine ⟨tame, ?_, room⟩
      intro long
      rw [Document.parse_writable parsed] at long
      cases long
    exact yields_ok buildable
  | error failure =>
    cases failure with
    | tooManyDigits => exact yields_error (legible.digits parsed)
    | malformed problem index => exact yields_error (refusable _)

theorem exists?_ok {w : Workspace} {location : Location} (found : w.exists? location = .ok true) :
    ∃ node, w.nodeAt location = .ok node := by
  unfold Workspace.exists? at found
  split at found
  · next node here => exact ⟨node, here⟩
  · split at found <;> cases found
  · cases found

theorem exists?_absent {w : Workspace} {location : Location} {problem : FileProblem} {path : String}
    (found : w.exists? location = .ok false)
    (failed : w.nodeAt location = .error (.file problem path)) : problem.isAbsence = true := by
  rw [Workspace.exists?, failed] at found
  dsimp only at found
  split at found
  · assumption
  · cases found

theorem failsOnly_exists? {w : Workspace} {location : Location}
    (reachable : ∀ problem path, w.nodeAt location = .error (.file problem path) →
      problem.isAbsence = false → allowed (.file problem path)) :
    FailsOnly allowed (w.exists? location) := by
  unfold Workspace.exists?
  split
  · exact failsOnly_ok true
  · next problem path failed =>
    split
    · exact failsOnly_ok false
    · next blocked => exact failsOnly_error (reachable problem path failed (by simpa using blocked))
  · exact failsOnly_ok false

-- A folder that cannot be looked into leaves it open what there is.
example : Workspace.exists? ⟨[(["rules"], .folder)], 0, [(["rules"], .closed)]⟩
    (.ofText "rules/own.json") = .error (.file .denied "rules/own.json") := by
  decide +kernel

theorem read_error_of_nodeAt {w : Workspace} {location : Location} {node : Node} {fault : Fault}
    (here : w.nodeAt location = .ok node) (failed : w.read location = .error fault) :
    ∃ problem path, fault = .file problem path := by
  rw [Workspace.read, here] at failed
  simp only [bind, Except.bind] at failed
  split at failed
  · cases failed
    exact ⟨_, _, rfl⟩
  · cases node with
    | folder =>
      cases failed
      exact ⟨_, _, rfl⟩
    | file stored => cases failed

section

variable {w : Workspace} {location : Location}

theorem readFile_full (full : stack.holds (.find location) = false) :
    readFile w location stack = .error .tooDeep := by
  rw [readFile, enter_full full]
  rfl

theorem readFile_unsure {fault : Fault} (room : stack.holds (.find location) = true)
    (unsure : w.exists? location = .error fault) : readFile w location stack = .error fault := by
  rw [readFile, enter_ok room, unsure]
  rfl

theorem readFile_absent (room : stack.holds (.find location) = true)
    (found : w.exists? location = .ok false) :
    readFile w location stack = .error (.rules (.notFound location.text)) := by
  rw [readFile, enter_ok room, found]
  rfl

theorem readFile_unread {problem : FileProblem} {path : String}
    (room : stack.holds (.find location) = true) (found : w.exists? location = .ok true)
    (failed : w.read location = .error (.file problem path)) :
    readFile w location stack =
      .error (.rules (.unreadable location.text (problemAt problem path))) := by
  rw [readFile, enter_ok room, found, failed]
  rfl

theorem readFile_read {bytes : List UInt8} (room : stack.holds (.find location) = true)
    (found : w.exists? location = .ok true) (read : w.read location = .ok bytes) :
    readFile w location stack = match decode bytes with
      | .ok text => do pure ⟨← ofJson (.unreadable location.text) text stack, location.text⟩
      | .error failure => .error (.rules (.unreadable location.text failure.message)) := by
  rw [readFile, enter_ok room, found, read]
  rfl

theorem yields_readFile (refusable : ∀ problem, allowed (.rules problem))
    (filed : Filed allowed stack w location) : Yields allowed stack (readFile w location stack) := by
  cases room : stack.holds (.find location) with
  | false =>
    rw [readFile_full room]
    exact yields_error (filed.room room)
  | true =>
    cases found : w.exists? location with
    | error fault =>
      rw [readFile_unsure room found]
      exact yields_error (failsOnly_exists? filed.reachable fault found)
    | ok present =>
      cases present with
      | false =>
        rw [readFile_absent room found]
        exact yields_error (refusable _)
      | true =>
        cases read : w.read location with
        | error fault =>
          obtain ⟨node, here⟩ := exists?_ok found
          obtain ⟨problem, path, rfl⟩ := read_error_of_nodeAt here read
          rw [readFile_unread room found read]
          exact yields_error (refusable _)
        | ok bytes =>
          rw [readFile_read room found read]
          cases decoded : decode bytes with
          | error failure => exact yields_error (refusable _)
          | ok text => exact yields_ofJson _ _ refusable (filed.legible bytes text read decoded)

/-- Where nothing is found, no document is read. -/
theorem readFile_missing {fault : Fault} (missing : w.nodeAt location = .error fault)
    (origin : Origin) : readFile w location stack ≠ .ok origin := by
  cases room : stack.holds (.find location) with
  | false =>
    rw [readFile_full room]
    intro read
    cases read
  | true =>
    cases found : w.exists? location with
    | error other =>
      rw [readFile_unsure room found]
      intro read
      cases read
    | ok present =>
      cases present with
      | false =>
        rw [readFile_absent room found]
        intro read
        cases read
      | true =>
        obtain ⟨node, here⟩ := exists?_ok found
        rw [missing] at here
        cases here

end

theorem yields_readText {w : Workspace} {text : String}
    (refusable : ∀ problem, allowed (.rules problem))
    (sound : if looksInline text then Legible allowed stack text
      else Filed allowed stack w (.ofText text)) :
    Yields allowed stack (readText w text stack) := by
  rw [readText]
  split at sound
  · next inline =>
    rw [if_pos inline]
    exact yields_ofJson _ _ refusable sound
  · next path =>
    rw [if_neg path]
    exact yields_readFile refusable sound

end

/-! ### What stands in the way of a location -/

/-- Why a way along these names is not followed to its end, apart from nothing being there. -/
inductive Barrier (w : Workspace) (names : List String) : FileProblem → Prop
  | long (name : String) (member : name ∈ names) (beyond : segmentLimit < name.utf8ByteSize) :
    Barrier w names .nameTooLong
  | closed (spot : Spot) (shut : w.isClosed spot = true) : Barrier w names .denied

theorem Barrier.cons {w : Workspace} {names : List String} {problem : FileProblem} (name : String)
    (barrier : Barrier w names problem) : Barrier w (name :: names) problem := by
  cases barrier with
  | long other member beyond => exact .long other (List.mem_cons_of_mem name member) beyond
  | closed spot shut => exact .closed spot shut

theorem walk_error {w : Workspace} {names : List String} {spot : Spot} {problem : FileProblem}
    (failed : w.walk spot names = .error problem) :
    problem.isAbsence = true ∨ Barrier w names problem := by
  induction names generalizing spot with
  | nil => cases failed
  | cons name rest ih =>
    unfold Workspace.walk at failed
    split at failed
    · cases failed
      exact .inl rfl
    · cases failed
      exact .inl rfl
    · split at failed
      · next shut =>
        cases failed
        exact .inr (.closed spot shut)
      · split at failed
        · next beyond =>
          cases failed
          exact .inr (.long name List.mem_cons_self beyond)
        · exact (ih failed).imp_right (Barrier.cons name)

/-- A location that is not reached cannot be named, has nothing, is too long or lies in a closed
folder. -/
theorem nodeAt_error {w : Workspace} {location : Location} {fault : Fault}
    (failed : w.nodeAt location = .error fault) :
    (fault = .badValue ∧ location.isNameable = false) ∨
    ∃ problem, fault = .file problem location.text ∧
      (problem.isAbsence = true ∨
        (problem = .nameTooLong ∧ locationLimit < location.text.utf8ByteSize) ∨
        Barrier w location.segments problem) := by
  rw [Workspace.nodeAt] at failed
  cases spot : w.spotOf location with
  | ok place =>
    simp only [spot, bind, Except.bind] at failed
    split at failed
    · cases failed
    · cases failed
      exact .inr ⟨_, rfl, .inl rfl⟩
  | error other =>
    simp only [spot, bind, Except.bind] at failed
    cases failed
    rw [Workspace.spotOf] at spot
    split at spot
    · next unnameable =>
      cases spot
      exact .inl ⟨rfl, by simpa using unnameable⟩
    · split at spot
      · next beyond =>
        cases spot
        exact .inr ⟨_, rfl, .inr (.inl ⟨rfl, beyond⟩)⟩
      · cases walked : w.walk (startOf location) location.segments with
        | ok place =>
          rw [walked] at spot
          cases spot
        | error problem =>
          rw [walked] at spot
          cases spot
          exact .inr ⟨problem, rfl, (walk_error walked).imp_right .inr⟩

theorem stamp?_error {w : Workspace} {location : Location} {fault : Fault}
    (failed : w.stamp? location = .error fault) :
    fault = .badValue ∧ location.isNameable = false := by
  unfold Workspace.stamp? at failed
  split at failed
  · cases failed
  · cases failed
  · cases failed
  · next other found apart =>
    cases failed
    obtain unnamed | ⟨problem, rfl, -⟩ := nodeAt_error apart
    · exact unnamed
    · exact absurd rfl (found problem location.text)

theorem nodeAt_unnameable (w : Workspace) {location : Location}
    (unnameable : location.isNameable = false) : w.nodeAt location = .error .badValue := by
  rw [Workspace.nodeAt, Workspace.spotOf, unnameable]
  rfl

/-! ### Loading -/

namespace RuleBook

/-- The rule set that a source holds. A book without a backing file has the built-in rules for it. -/
def offered (book : RuleBook) (w : Workspace) (stack : Stack) : Source → Except Fault RuleSet
  | .backing =>
    match book.file with
    | none => builtinRules stack
    | some location => do (← readFile w location stack).build stack
  | .text value => do (← readSource w (.text value) stack).build stack
  | .object fields => do (← readSource w (.object fields) stack).build stack

def activate (book : RuleBook) (w : Workspace) (stack : Stack) :
    Source → Except Fault RuleSet × RuleBook
  | .backing => book.load w stack
  | .text value => book.loadFrom w (.text value) stack
  | .object fields => book.loadFrom w (.object fields) stack

/-- One new snapshot is in force: these rules, as the next revision. -/
structure Publishes (book : RuleBook) (rules : RuleSet)
    (result : Except Fault RuleSet × RuleBook) : Prop where
  returned : result.1 = .ok { rules with revision := book.revision + 1 }
  active : result.2.active = some { rules with revision := book.revision + 1 }
  counted : result.2.revision = book.revision + 1
  file : result.2.file = book.file

variable {allowed : Fault → Prop} {stack : Stack}

theorem builtinRules_cases (stack : Stack) :
    builtinRules stack = .ok builtin ∨ builtinRules stack = .error .tooDeep := by
  rw [builtinRules]
  cases copied : stack.holds (.copy Builtin.document) with
  | false =>
    rw [enter_full copied]
    exact .inr rfl
  | true =>
    rw [enter_ok copied]
    cases built : stack.holds (.build Builtin.document) with
    | false =>
      rw [enter_full built]
      exact .inr rfl
    | true =>
      rw [enter_ok built]
      exact .inl rfl

theorem failsOnly_builtinRules (copied : stack.Suits allowed (.copy Builtin.document))
    (built : stack.Suits allowed (.build Builtin.document)) :
    FailsOnly allowed (builtinRules stack) := by
  rw [builtinRules]
  apply (failsOnly_enter copied).bind
  intro _ _
  apply (failsOnly_enter built).bind
  intro _ _
  exact failsOnly_ok builtin

theorem failsOnly_offered {book : RuleBook} {w : Workspace} {source : Source}
    (refusable : ∀ problem, allowed (.rules problem)) (sound : source.Sound allowed stack book w) :
    FailsOnly allowed (book.offered w stack source) := by
  obtain ⟨readable, copied, built⟩ := sound
  cases source with
  | backing =>
    rw [offered]
    cases here : book.file with
    | none => exact failsOnly_builtinRules copied built
    | some location => exact (yields_readFile refusable (readable location here).2).build refusable
  | text value => exact (yields_readText refusable readable).build refusable
  | object fields => exact ((yields_ok readable.2).enter readable.1).build refusable

/-- What is done with the rules that a source holds, or in their place. -/
def settle (book : RuleBook) (seen : Option Stamp) (stack : Stack) (offer : Except Fault RuleSet) :
    Except Fault RuleSet × RuleBook :=
  match orBuiltin offer stack with
  | .ok rules =>
    let (published, book) := { book with seen := seen }.publish rules
    (.ok published, book)
  | .error fault => (.error fault, book)

theorem settle_ok (book : RuleBook) (seen : Option Stamp) (stack : Stack) (rules : RuleSet) :
    Publishes book rules (book.settle seen stack (.ok rules)) :=
  ⟨rfl, rfl, rfl, rfl⟩

theorem settle_refused (book : RuleBook) (seen : Option Stamp) (problem : RuleProblem)
    (room : builtinRules stack = .ok builtin) :
    Publishes book builtin (book.settle seen stack (.error (.rules problem))) := by
  rw [settle, orBuiltin, room]
  exact ⟨rfl, rfl, rfl, rfl⟩

theorem settle_error (book : RuleBook) (seen : Option Stamp) {fault : Fault}
    (other : ¬ Refusal fault) : book.settle seen stack (.error fault) = (.error fault, book) := by
  cases fault with
  | rules problem => exact absurd (.refused problem) other
  | _ => rfl

/-- Loading follows what the source holds, but for a backing file that cannot be named. -/
inductive Loading (book : RuleBook) (w : Workspace) (stack : Stack) (source : Source) : Prop
  | settled (seen : Option Stamp)
      (done : book.activate w stack source = book.settle seen stack (book.offered w stack source))
  | unnamed (location : Location) (backing : source = .backing) (here : book.file = some location)
      (unnameable : location.isNameable = false)
      (done : book.activate w stack source = (.error .badValue, book))

theorem loading (book : RuleBook) (w : Workspace) (stack : Stack) (source : Source) :
    Loading book w stack source := by
  cases source with
  | text value => exact .settled book.seen rfl
  | object fields => exact .settled book.seen rfl
  | backing =>
    cases here : book.file with
    | none =>
      apply Loading.settled book.seen
      simp only [activate, offered, load, here]
      obtain room | full := builtinRules_cases stack
      · rw [room]
        rfl
      · rw [full]
        rfl
    | some location =>
      cases offer : orBuiltin (do (← readFile w location stack).build stack) stack with
      | error fault =>
        apply Loading.settled book.seen
        simp only [activate, load, here, settle, offered, offer]
        rfl
      | ok rules =>
        cases stamped : w.stamp? location with
        | ok stamp =>
          apply Loading.settled stamp
          simp only [activate, load, here, stamped, settle, offered, offer]
          rfl
        | error fault =>
          obtain ⟨rfl, unnameable⟩ := stamp?_error stamped
          apply Loading.unnamed location rfl here unnameable
          simp only [activate, load, here, stamped, offer]
          rfl

theorem legible_of_causes (stack : Stack) (text : String) : Legible Cause stack text where
  room _ := .tooDeep
  digits _ := .badValue
  tame document _ := ⟨tame_of_causes .tooLarge .badValue document, fun _ => .tooDeep⟩

theorem filed_of_causes (w : Workspace) (stack : Stack) (location : Location) :
    Filed Cause stack w location where
  room _ := .tooDeep
  reachable := by
    intro problem path failed blocked
    obtain ⟨unknown, -⟩ | ⟨other, same, barred⟩ := nodeAt_error failed
    · cases unknown
    · cases same
      obtain absent | ⟨rfl, -⟩ | barrier := barred
      · rw [absent] at blocked
        cases blocked
      · exact .nameTooLong _
      · cases barrier with
        | long => exact .nameTooLong _
        | closed => exact .denied _
  legible _ text _ _ := legible_of_causes stack text

theorem sound_of_causes (book : RuleBook) (w : Workspace) (stack : Stack) (source : Source) :
    source.Sound Cause stack book w where
  readable := by
    cases source with
    | backing =>
      intro location _
      exact ⟨fun _ => .badValue, filed_of_causes w stack location⟩
    | text value =>
      rw [Source.Readable]
      split
      · exact legible_of_causes stack value
      · exact filed_of_causes w stack _
    | object fields =>
      exact ⟨fun _ => .tooDeep, tame_of_causes .tooLarge .badValue _, fun _ => .badValue,
        fun _ => .tooDeep⟩
  copied _ := .tooDeep
  built _ := .tooDeep

section

variable {book : RuleBook} {w : Workspace} {source : Source}

theorem publishes_offered {rules : RuleSet} (offer : book.offered w stack source = .ok rules) :
    Publishes book rules (book.activate w stack source) := by
  cases loading book w stack source with
  | settled seen done =>
    rw [done, offer]
    exact settle_ok book seen stack rules
  | unnamed location backing here unnameable done =>
    subst backing
    simp only [offered, here] at offer
    cases read : readFile w location stack with
    | ok origin => exact absurd read (readFile_missing (nodeAt_unnameable w unnameable) origin)
    | error fault =>
      rw [read] at offer
      cases offer

theorem publishes_builtin {problem : RuleProblem}
    (offer : book.offered w stack source = .error (.rules problem))
    (room : builtinRules stack = .ok builtin)
    (nameable : source = .backing → ∀ location, book.file = some location →
      location.isNameable = true) :
    Publishes book builtin (book.activate w stack source) := by
  cases loading book w stack source with
  | settled seen done =>
    rw [done, offer]
    exact settle_refused book seen problem room
  | unnamed location backing here unnameable done =>
    rw [nameable backing location here] at unnameable
    cases unnameable

theorem settle_fails {seen : Option Stamp} {offer : Except Fault RuleSet} {fault : Fault}
    (causes : FailsOnly Cause offer) (failed : (book.settle seen stack offer).1 = .error fault) :
    (book.settle seen stack offer).2 = book ∧ Cause fault ∧ ¬ Refusal fault := by
  cases offer with
  | ok rules =>
    rw [(settle_ok book seen stack rules).returned] at failed
    cases failed
  | error other =>
    by_cases refusal : Refusal other
    · obtain ⟨problem⟩ := refusal
      obtain room | full := builtinRules_cases stack
      · rw [(settle_refused book seen problem room).returned] at failed
        cases failed
      · rw [settle, orBuiltin, full] at failed ⊢
        cases failed
        refine ⟨rfl, .tooDeep, ?_⟩
        intro refusal
        cases refusal
    · rw [settle_error book seen refusal] at failed ⊢
      cases failed
      exact ⟨rfl, causes _ rfl, refusal⟩

theorem activate_error {fault : Fault} (failed : (book.activate w stack source).1 = .error fault) :
    (book.activate w stack source).2 = book ∧ Cause fault ∧ ¬ Refusal fault := by
  cases loading book w stack source with
  | unnamed location backing here unnameable done =>
    rw [done] at failed ⊢
    cases failed
    refine ⟨rfl, .badValue, ?_⟩
    intro refusal
    cases refusal
  | settled seen done =>
    rw [done] at failed ⊢
    exact settle_fails (failsOnly_offered .refused (sound_of_causes book w stack source)) failed

theorem activate_sound (sound : source.Sound Refusal stack book w) :
    (∃ rules, book.offered w stack source = .ok rules ∧
      Publishes book rules (book.activate w stack source)) ∨
    ∃ problem, book.offered w stack source = .error (.rules problem) ∧
      Publishes book builtin (book.activate w stack source) := by
  cases offer : book.offered w stack source with
  | ok rules => exact .inl ⟨rules, rfl, publishes_offered offer⟩
  | error fault =>
    obtain ⟨problem⟩ := failsOnly_offered .refused sound fault offer
    refine .inr ⟨problem, rfl, publishes_builtin offer ?_ ?_⟩
    · obtain room | full := builtinRules_cases stack
      · exact room
      · have refusal := failsOnly_builtinRules sound.copied sound.built _ full
        cases refusal
    · rintro rfl location here
      by_contra unnameable
      have refusal := (sound.readable location here).1 (by simpa using unnameable)
      cases refusal

end

/-- Loading puts the rules in force that its source holds, and the built-in ones where the source is
refused. It fails only where a number is too large, a value cannot be read, a name is too long, a folder
on the way is closed or the call stack is used up, and then changes nothing. -/
theorem activate_publishes (book : RuleBook) (w : Workspace) (stack : Stack) (source : Source) :
    build "default" Builtin.document = .ok builtin ∧
    (∀ rules, book.offered w stack source = .ok rules →
      Publishes book rules (book.activate w stack source)) ∧
    (∀ problem, book.offered w stack source = .error (.rules problem) →
      builtinRules stack = .ok builtin →
      (source = .backing → ∀ location, book.file = some location → location.isNameable = true) →
        Publishes book builtin (book.activate w stack source)) ∧
    (source.Sound Refusal stack book w →
      (∃ rules, book.offered w stack source = .ok rules ∧
        Publishes book rules (book.activate w stack source)) ∨
      ∃ problem, book.offered w stack source = .error (.rules problem) ∧
        Publishes book builtin (book.activate w stack source)) ∧
    ∀ fault, (book.activate w stack source).1 = .error fault →
      (book.activate w stack source).2 = book ∧ Cause fault ∧ ¬ Refusal fault := by
  exact ⟨build_builtin, fun _ => publishes_offered, fun _ => publishes_builtin, activate_sound,
    fun _ => activate_error⟩

/-- A rule document without rules. -/
def plainFields (confidence : Document) : List (String × Document) :=
  [("purposeHeuristics", .object
    [("patterns", .object []),
     ("fallback", .object [("purpose", .text "Utility function"), ("confidence", confidence)])]),
   ("bundleHeuristics", .object [("patterns", .object []), ("fallback", .object [])]),
   ("semanticTypeMapping", .object [("clusters", .object [])])]

theorem activate_publishes_absent :
    (ofPath "").offered .empty .unbounded (.text "rules.json") =
      .error (.rules (.notFound "rules.json")) ∧
    Publishes (ofPath "") builtin ((ofPath "").activate .empty .unbounded (.text "rules.json")) := by
  have path : looksInline "rules.json" = false := by decide +kernel
  have absent : Workspace.empty.exists? (.ofText "rules.json") = .ok false := by decide +kernel
  have unread : Workspace.empty.read (.ofText "rules.json") =
      .error (.file .missing "rules.json") := by decide +kernel
  have name : (Location.ofText "rules.json").text = "rules.json" := by decide +kernel
  have refused : (ofPath "").offered .empty .unbounded (.text "rules.json") =
      .error (.rules (.notFound "rules.json")) := by
    have room : Stack.unbounded.holds (.find (.ofText "rules.json")) = true := rfl
    simp only [offered, readSource, readText, path, readFile_absent room absent, name]
    rfl
  have sound : (Source.text "rules.json").Sound Refusal .unbounded (ofPath "") .empty := by
    constructor
    · rw [Source.Readable, path]
      constructor
      · intro full
        cases full
      · intro problem place failed blocked
        rw [exists?_absent absent failed] at blocked
        cases blocked
      · intro bytes text read
        rw [unread] at read
        cases read
    · intro full
      cases full
    · intro full
      cases full
  obtain ⟨-, -, -, loads, -⟩ :=
    activate_publishes (ofPath "") .empty .unbounded (.text "rules.json")
  obtain ⟨rules, offer, -⟩ | ⟨problem, -, published⟩ := loads sound
  · rw [refused] at offer
    cases offer
  · exact ⟨refused, published⟩

-- A whole number beyond the range of floating-point numbers is no confidence, and is not refused.
theorem activate_raises : ¬ ∀ (book : RuleBook) (w : Workspace) (source : Source),
    ∃ rules, Publishes book rules (book.activate w .unbounded source) := by
  intro always
  obtain ⟨rules, published⟩ := always (ofPath "") .empty (.object (plainFields (.int (10 ^ 400))))
  have failed : ((ofPath "").activate .empty .unbounded
      (.object (plainFields (.int (10 ^ 400))))).1.toOption.isSome = false := by decide +kernel
  rw [published.returned] at failed
  cases failed

end RuleBook

end CodeAtlas.Rules
