import CodeAtlas.Proofs.Rules.Operations

set_option autoImplicit false

/-! Revisions of the rules: each request either puts the next one in force or changes nothing. -/

namespace CodeAtlas.Rules

open CodeAtlas.Files

/-! ### Requests -/

/-- What a rule book is asked for. Null stands for the backing file as the source. -/
inductive Request
  | rules
  | load (source : Document)
  | reload
  | check
  | update (given : Document)
  | adopt (rules : RuleSet)

/-- A rule set, or whether there is a new one. -/
inductive Answer
  | rules (rules : RuleSet)
  | changed (changed : Bool)

namespace RuleBook

def loadGiven (book : RuleBook) (w : Workspace) : Document → Except Fault RuleSet × RuleBook
  | .null => book.load w
  | source => book.loadFrom w source

def ask (book : RuleBook) (w : Workspace) :
    Request → Except Fault Answer × RuleBook × Workspace
  | .rules =>
    let (found, after) := book.rules w
    (found.map .rules, after, w)
  | .load source =>
    let (loaded, after) := book.loadGiven w source
    (loaded.map .rules, after, w)
  | .reload =>
    let (changed, after) := book.reload w
    (changed.map .changed, after, w)
  | .check =>
    let (changed, after) := book.check w
    (changed.map .changed, after, w)
  | .update given =>
    let (updated, after, later) := book.update w given
    (updated.map .rules, after, later)
  | .adopt rules =>
    let (updated, after, later) := book.adopt w rules
    (updated.map .rules, after, later)

/-- Whether an answer says that a snapshot was put in force. Rules that were in force before are
handed out as they are. -/
def publishes (book : RuleBook) : Request → Except Fault Answer → Bool
  | _, .error _ => false
  | _, .ok (.changed changed) => changed
  | .rules, .ok (.rules _) => book.active.isNone
  | _, .ok (.rules _) => true

/-- What becomes of a request: the next snapshot is in force and is the one returned, or all stays but
for the time that the backing file was looked at. -/
inductive Serves (book : RuleBook) (w : Workspace) (request : Request) :
    Except Fault Answer × RuleBook × Workspace → Prop
  | published (rules : RuleSet) (seen : Option Stamp) (answer : Except Fault Answer)
      (later : Workspace) (counts : book.publishes request answer = true)
      (returned : ∀ given, answer = .ok (.rules given) → given = (book.publish rules).1) :
      Serves book w request (answer, ((book.notes seen).publish rules).2, later)
  | kept (seen : Option Stamp) (answer : Except Fault Answer)
      (counts : book.publishes request answer = false) :
      Serves book w request (answer, book.notes seen, w)

variable {book : RuleBook} {w : Workspace}

theorem publishes_error (request : Request) (fault : Fault) :
    book.publishes request (.error fault) = false := by
  cases request <;> rfl

theorem publishes_changed (request : Request) (changed : Bool) :
    book.publishes request (.ok (.changed changed)) = changed := by
  cases request <;> rfl

/-- Rules that are returned are those that were put in force. -/
theorem Serves.returning {request : Request} (rules : RuleSet) (seen : Option Stamp)
    (later : Workspace) (counts : ∀ given, book.publishes request (.ok (.rules given)) = true) :
    Serves book w request
      (.ok (.rules (book.publish rules).1), ((book.notes seen).publish rules).2, later) := by
  apply Serves.published rules seen _ later (counts _)
  intro given same
  cases same
  rfl

theorem Serves.raising (request : Request) (seen : Option Stamp) (fault : Fault) :
    Serves book w request (.error fault, book.notes seen, w) :=
  .kept seen _ (publishes_error request fault)

theorem Serves.denying (request : Request) (seen : Option Stamp) :
    Serves book w request (.ok (.changed false), book.notes seen, w) :=
  .kept seen _ (publishes_changed request false)

theorem Loads.serves {request : Request} {result : Except Fault RuleSet × RuleBook}
    (loads : Loads book w result)
    (counts : ∀ given, book.publishes request (.ok (.rules given)) = true) :
    Serves book w request (result.1.map .rules, result.2, w) := by
  cases loads with
  | unbacked rules unbacked builtin_eq => exact .returning rules book.seen w counts
  | replaced location stamp rules backed stamped read => exact .returning rules stamp w counts
  | raised fault => exact .raising request book.seen fault

theorem loadFrom_serves (source : Document) :
    Serves book w (.load source)
      ((book.loadFrom w source).1.map .rules, (book.loadFrom w source).2, w) := by
  rw [loadFrom]
  cases orBuiltin (do (← readSource w source).build) with
  | error fault => exact .raising _ book.seen fault
  | ok rules => exact .returning rules book.seen w fun _ => rfl

theorem Reloads.serves {request : Request} {result : Except Fault Bool × RuleBook}
    (reloads : Reloads book w result) :
    Serves book w request (result.1.map .changed, result.2, w) := by
  cases reloads with
  | unbacked unbacked => exact .denying request book.seen
  | unnamed fault => exact .raising request book.seen fault
  | refused location stamp problem backed stamped read => exact .denying request stamp
  | raised location stamp fault backed stamped read => exact .raising request stamp fault
  | replaced location stamp rules backed stamped read =>
    apply Serves.published rules stamp _ w (publishes_changed request true)
    intro given same
    cases same

theorem Checks.serves {result : Except Fault Bool × RuleBook} (checks : Checks book w result) :
    Serves book w .check (result.1.map .changed, result.2, w) := by
  cases checks with
  | raised fault => exact .raising .check book.seen fault
  | absent absent => exact .denying .check book.seen
  | same stamp stamped seen => exact .denying .check book.seen
  | other stamp stamped unseen => exact (reload_reloads book w).serves

theorem Revises.serves {request : Request} {given : Except Fault Document}
    {result : Except Fault RuleSet × RuleBook × Workspace} (revises : Revises book w given result)
    (counts : ∀ given, book.publishes request (.ok (.rules given)) = true) :
    Serves book w request (result.1.map .rules, result.2) := by
  cases revises with
  | raised fault => exact .raising request book.seen fault
  | unbacked document rules document_eq unbacked built => exact .returning rules book.seen w counts
  | saved document rules location later stamp document_eq backed built written stamped =>
    exact .returning rules stamp later counts

theorem ask_serves (book : RuleBook) (w : Workspace) (request : Request) :
    Serves book w request (book.ask w request) := by
  cases request with
  | rules =>
    rw [ask, RuleBook.rules]
    cases active : book.active with
    | none => exact (load_loads book w).serves fun rules => by rw [publishes, active]; rfl
    | some rules =>
      exact .kept book.seen (.ok (.rules rules)) (by rw [publishes, active]; rfl)
  | load source =>
    cases source with
    | null => exact (load_loads book w).serves fun _ => rfl
    | _ => exact loadFrom_serves _
  | reload => exact (reload_reloads book w).serves
  | check => exact (check_checks book w).serves
  | update given => exact (revise_revises book w _).serves fun _ => rfl
  | adopt rules => exact (revise_revises book w _).serves fun _ => rfl

end RuleBook

/-! ### Runs -/

/-- A rule book at its files, and the snapshots that were put in force so far. -/
structure Desk where
  book : RuleBook
  files : Workspace
  published : List RuleSet

/-- A request, or what others do to the backing file. -/
inductive Event
  | request (request : Request)
  | write (bytes : List UInt8) (time : Option Float)
  | delete

namespace Desk

def start (path : String) (files : Workspace) : Desk :=
  ⟨.ofPath path, files, []⟩

-- Where the counter moved, there is a new snapshot.
def record (desk : Desk) (book : RuleBook) (files : Workspace) : Desk where
  book := book
  files := files
  published :=
    if book.revision = desk.book.revision then desk.published
    else desk.published ++ book.active.toList

def ask (desk : Desk) (request : Request) : Except Fault Answer × Desk :=
  let (answer, book, files) := desk.book.ask desk.files request
  (answer, desk.record book files)

-- A write that fails changes nothing.
def act (desk : Desk) : Event → Desk
  | .request request => (desk.ask request).2
  | .write bytes time =>
    match desk.book.file with
    | none => desk
    | some location =>
      match desk.files.place location bytes time with
      | .ok files => { desk with files }
      | .error _ => desk
  | .delete =>
    match desk.book.file with
    | none => desk
    | some location => { desk with files := desk.files.delete location }

def run (desk : Desk) (events : List Event) : Desk :=
  events.foldl act desk

/-- The snapshots have the revisions 1, 2, 3 and so on, and the last one is in force. -/
structure Ordered (desk : Desk) : Prop where
  numbered : desk.published.map (·.revision) = List.range' 1 desk.published.length
  counted : desk.book.revision = desk.published.length
  active : desk.book.active = desk.published.getLast?

/-- One more snapshot is in force, and is what the answer holds if it holds rules. -/
def Published (desk later : Desk) (answer : Except Fault Answer) : Prop :=
  ∃ rules, rules.revision = desk.published.length + 1 ∧
    later.published = desk.published ++ [rules] ∧ later.book.active = some rules ∧
      later.book.revision = desk.book.revision + 1 ∧
        ∀ returned, answer = .ok (.rules returned) → returned = rules

structure Kept (desk later : Desk) : Prop where
  published : later.published = desk.published
  active : later.book.active = desk.book.active
  revision : later.book.revision = desk.book.revision
  files : later.files = desk.files

theorem start_ordered (path : String) (files : Workspace) : (start path files).Ordered :=
  ⟨rfl, rfl, rfl⟩

theorem Ordered.ask {desk : Desk} (ordered : desk.Ordered) (request : Request) :
    if desk.book.publishes request (desk.ask request).1 then
      desk.Published (desk.ask request).2 (desk.ask request).1
    else desk.Kept (desk.ask request).2 := by
  have serves := desk.book.ask_serves desk.files request
  rw [Desk.ask]
  generalize desk.book.ask desk.files request = result at serves
  cases serves with
  | published rules seen answer later counts returned =>
    rw [if_pos counts]
    refine ⟨(desk.book.publish rules).1, ?_, ?_, rfl, rfl, returned⟩
    · rw [RuleBook.publish, ordered.counted]
    · simp [record, RuleBook.publish, RuleBook.notes]
  | kept seen answer counts =>
    rw [if_neg (by simp [counts])]
    exact ⟨by simp [record, RuleBook.notes], rfl, rfl, rfl⟩

theorem Published.ordered {desk later : Desk} {answer : Except Fault Answer}
    (published : desk.Published later answer) (ordered : desk.Ordered) : later.Ordered := by
  obtain ⟨rules, number, snapshots, active, revision, -⟩ := published
  constructor
  · rw [snapshots, List.map_append, ordered.numbered, List.map_singleton, number, List.length_append,
      List.length_singleton, List.range'_1_concat, Nat.add_comm 1]
  · rw [revision, ordered.counted, snapshots, List.length_append, List.length_singleton]
  · rw [active, snapshots, List.getLast?_concat]

theorem Ordered.newest {desk : Desk} (ordered : desk.Ordered) {rules : RuleSet}
    (active : desk.book.active = some rules) : rules.revision = desk.published.length := by
  have last : (desk.published.map (·.revision)).getLast? = some rules.revision := by
    rw [List.getLast?_map, ← ordered.active, active]
    rfl
  rw [ordered.numbered, List.getLast?_range'] at last
  split at last
  · cases last
  · rw [← Option.some.inj last]
    omega

theorem Kept.ordered {desk later : Desk} (kept : desk.Kept later) (ordered : desk.Ordered) :
    later.Ordered := by
  constructor
  · rw [kept.published, ordered.numbered]
  · rw [kept.revision, kept.published, ordered.counted]
  · rw [kept.active, kept.published, ordered.active]

theorem Ordered.act {desk : Desk} (ordered : desk.Ordered) (event : Event) :
    (desk.act event).Ordered := by
  cases event with
  | request request =>
    have asked := ordered.ask request
    split at asked
    · exact asked.ordered ordered
    · exact asked.ordered ordered
  | write bytes time =>
    rw [Desk.act]
    split
    · exact ordered
    · split
      · exact ⟨ordered.numbered, ordered.counted, ordered.active⟩
      · exact ordered
  | delete =>
    rw [Desk.act]
    split
    · exact ordered
    · exact ⟨ordered.numbered, ordered.counted, ordered.active⟩

theorem Ordered.run {desk : Desk} (ordered : desk.Ordered) (events : List Event) :
    (desk.run events).Ordered := by
  induction events generalizing desk with
  | nil => exact ordered
  | cons event rest ih => exact ih (ordered.act event)

/-- However requests and changes of the backing file follow each other, the snapshots are numbered in
order and the last one is in force. An answer that says so puts exactly one more in force; any other
one leaves the snapshot, the counter and the files as they are. -/
theorem published_in_order (path : String) (files : Workspace) (events : List Event) :
    let desk := (start path files).run events
    desk.Ordered ∧
      (∀ rules, desk.book.active = some rules → rules.revision = desk.published.length) ∧
      ∀ request,
        if desk.book.publishes request (desk.ask request).1 then
          desk.Published (desk.ask request).2 (desk.ask request).1
        else desk.Kept (desk.ask request).2 := by
  intro desk
  have ordered : desk.Ordered := (start_ordered path files).run events
  exact ⟨ordered, fun _ => ordered.newest, ordered.ask⟩

/-- An empty document is refused between two requests that put rules in force. -/
theorem published_in_order_twice :
    let desk := (start "" .empty).run [.request .rules, .request (.update (.object [])),
      .request (.update (.object (RuleBook.plainFields (.int 1))))]
    desk.published.length = 2 ∧ desk.Ordered := by
  intro desk
  exact ⟨by decide +kernel, (published_in_order "" .empty _).1⟩

end Desk

end CodeAtlas.Rules
