import CodeAtlas.Proofs.Rules.Persistence
import CodeAtlas.Proofs.Rules.Revision

set_option autoImplicit false

/-! Watching of the backing file: a check that answers leaves the rules of the file in force, if the file
holds any. The times of writing tell when to read it. -/

namespace CodeAtlas.Rules

open CodeAtlas.Files

/-- A time equals itself. -/
def IsTime (stamp : Stamp) : Prop :=
  (stamp == stamp) = true

/-! ### The book and its file -/

namespace RuleBook

/-- When the backing file was last written, where there is anything at its location. -/
def lastStamp (book : RuleBook) (w : Workspace) : Option Stamp :=
  match book.fileStamp w with
  | .ok stamp => stamp
  | .error _ => none

/-- If the book has looked at the backing file as it is now, the rules of the file are in force. The
times are those that the file has had. -/
structure Synced (times : List Stamp) (location : Location) (book : RuleBook) (w : Workspace) :
    Prop where
  backed : book.file = some location
  known : ∀ stamp, w.stamp? location = .ok (some stamp) → stamp ∈ times
  timed : ∀ stamp, w.stamp? location = .ok (some stamp) → IsTime stamp
  seen : ∀ stamp, book.seen = some stamp → stamp ∈ times
  current : ∀ stamp rules, w.stamp? location = .ok (some stamp) →
    (book.seen == some stamp) = true → Offers w location rules →
      ∃ revision, book.active = some { rules with revision := revision }

variable {times more : List Stamp} {location : Location} {book after : RuleBook}
variable {w later : Workspace}

theorem lastStamp_eq (backed : book.file = some location) {stamp : Option Stamp}
    (stamped : w.stamp? location = .ok stamp) : book.lastStamp w = stamp := by
  rw [lastStamp, fileStamp, backed]
  simp only [stamped]

theorem Synced.mono (synced : Synced times location book w) (grows : times ⊆ more) :
    Synced more location book w where
  backed := synced.backed
  known stamp stamped := grows (synced.known stamp stamped)
  timed := synced.timed
  seen stamp same := grows (synced.seen stamp same)
  current := synced.current

/-- A book that has just looked at its file is in step with it if it took what the file offers. -/
theorem Synced.looked (synced : Synced times location book w) {stamp : Option Stamp}
    (stamped : w.stamp? location = .ok stamp) (backed : after.file = some location)
    (noted : after.seen = stamp)
    (taken : ∀ rules, Offers w location rules →
      ∃ revision, after.active = some { rules with revision := revision }) :
    Synced times location after w where
  backed := backed
  known := synced.known
  timed := synced.timed
  seen other same := by
    rw [noted] at same
    exact synced.known other (same ▸ stamped)
  current _ rules _ _ offers := taken rules offers

-- A file that is refused, or cannot be read, offers nothing.
theorem Synced.unoffered (synced : Synced times location book w) {stamp : Option Stamp}
    {fault : Fault} (stamped : w.stamp? location = .ok stamp)
    (read : (do (← readFile w location).build) = .error fault) :
    Synced times location (book.notes stamp) w := by
  refine synced.looked stamped synced.backed rfl ?_
  intro rules offers
  rw [offers_iff.mp offers] at read
  cases read

theorem Loads.synced {result : Except Fault RuleSet × RuleBook} (loads : Loads book w result)
    (synced : Synced times location book w) : Synced times location result.2 w := by
  cases loads with
  | unbacked rules unbacked builtin_eq =>
    rw [synced.backed] at unbacked
    cases unbacked
  | raised fault => exact synced
  | replaced other stamp rules backed stamped read =>
    cases synced.backed.symm.trans backed
    refine synced.looked stamped synced.backed rfl ?_
    intro offered offers
    rw [offers_iff.mp offers] at read
    cases read
    exact ⟨_, rfl⟩

theorem Reloads.synced {result : Except Fault Bool × RuleBook} (reloads : Reloads book w result)
    (synced : Synced times location book w) : Synced times location result.2 w := by
  cases reloads with
  | unbacked unbacked => exact synced
  | unnamed fault => exact synced
  | replaced other stamp rules backed stamped read =>
    cases synced.backed.symm.trans backed
    refine synced.looked stamped synced.backed rfl ?_
    intro offered offers
    rw [(offers_iff.mpr read).unique offers]
    exact ⟨_, rfl⟩
  | refused other stamp problem backed stamped read =>
    cases synced.backed.symm.trans backed
    exact synced.unoffered stamped read
  | raised other stamp fault backed stamped read =>
    cases synced.backed.symm.trans backed
    exact synced.unoffered stamped read

theorem Checks.synced {result : Except Fault Bool × RuleBook} (checks : Checks book w result)
    (synced : Synced times location book w) : Synced times location result.2 w := by
  cases checks with
  | other stamp stamped unseen => exact (reload_reloads book w).synced synced
  | _ => exact synced

theorem Revises.synced {given : Except Fault Document}
    {result : Except Fault RuleSet × RuleBook × Workspace} (revises : Revises book w given result)
    (persists : ∀ document, given = .ok document → Persists document)
    (synced : Synced times location book w) :
    Synced (times ++ (result.2.1.lastStamp result.2.2).toList) location result.2.1 result.2.2 := by
  cases revises with
  | raised fault => exact synced.mono (List.subset_append_left _ _)
  | unbacked document rules document_eq unbacked built =>
    rw [synced.backed] at unbacked
    cases unbacked
  | saved document rules other later stamp document_eq backed built written stamped =>
    cases synced.backed.symm.trans backed
    have now : later.stamp? location = .ok (some (.fresh w.writes)) :=
      Workspace.stamp?_file (Workspace.write_nodeAt written)
    cases stamped.symm.trans now
    have offered : Offers later location rules :=
      ⟨document, holds_saved written (persists document document_eq _ rules built), built⟩
    have last : (((book.notes (some (.fresh w.writes))).publish rules).2).lastStamp later =
        some (.fresh w.writes) := lastStamp_eq backed now
    constructor
    · exact backed
    · intro stamp here
      cases now.symm.trans here
      simp [last]
    · intro stamp here
      cases now.symm.trans here
      exact beq_self_eq_true w.writes
    · intro stamp same
      cases same
      simp [last]
    · intro stamp rules' _ _ offers
      rw [offered.unique offers]
      exact ⟨_, rfl⟩

/-- Rules are loaded from the backing file only, and what is written there is read back. -/
def Watchable : Request → Prop
  | .load source => source = .null
  | .update given => ∀ fields, fieldsGiven given = .ok fields → Persists (.object fields)
  | .adopt rules => ∀ document, rules.toDocument = .ok document → Persists document
  | _ => True

theorem Synced.ask (synced : Synced times location book w) {request : Request}
    (watchable : Watchable request) :
    Synced (times ++ ((book.ask w request).2.1.lastStamp (book.ask w request).2.2).toList) location
      (book.ask w request).2.1 (book.ask w request).2.2 := by
  have grows (more : List Stamp) : times ⊆ times ++ more := List.subset_append_left times more
  cases request with
  | rules =>
    rw [RuleBook.ask, RuleBook.rules]
    cases book.active with
    | none => exact ((load_loads book w).synced synced).mono (grows _)
    | some rules => exact synced.mono (grows _)
  | load source =>
    cases watchable
    exact ((load_loads book w).synced synced).mono (grows _)
  | reload => exact ((reload_reloads book w).synced synced).mono (grows _)
  | check => exact ((check_checks book w).synced synced).mono (grows _)
  | update given =>
    apply (revise_revises book w _).synced _ synced
    intro document given_eq
    cases fields : fieldsGiven given with
    | error fault =>
      rw [fields] at given_eq
      cases given_eq
    | ok pairs =>
      rw [fields] at given_eq
      cases given_eq
      exact watchable pairs fields
  | adopt rules => exact (revise_revises book w _).synced watchable synced

theorem fileStamp_backed (backed : book.file = some location) :
    book.fileStamp w = w.stamp? location := by
  rw [fileStamp, backed]

/-- The book has looked at its file as it is now, or there is none. -/
def Looked (location : Location) (book : RuleBook) (w : Workspace) : Prop :=
  w.stamp? location = .ok none ∨
    ∃ stamp, w.stamp? location = .ok (some stamp) ∧ (book.seen == some stamp) = true

theorem Reloads.looked {result : Except Fault Bool × RuleBook} (reloads : Reloads book w result)
    (synced : Synced times location book w) {changed : Bool} (answered : result.1 = .ok changed) :
    Looked location result.2 w := by
  have noted {stamp : Option Stamp} (stamped : w.stamp? location = .ok stamp) :
      Looked location (book.notes stamp) w := by
    cases stamp with
    | none => exact .inl stamped
    | some stamp => exact .inr ⟨stamp, stamped, synced.timed stamp stamped⟩
  cases reloads with
  | unbacked unbacked =>
    rw [synced.backed] at unbacked
    cases unbacked
  | unnamed fault => cases answered
  | replaced other stamp rules backed stamped read =>
    cases synced.backed.symm.trans backed
    exact noted stamped
  | refused other stamp problem backed stamped read =>
    cases synced.backed.symm.trans backed
    exact noted stamped
  | raised other stamp fault backed stamped read => cases answered

theorem Checks.looked {result : Except Fault Bool × RuleBook} (checks : Checks book w result)
    (synced : Synced times location book w) {changed : Bool} (answered : result.1 = .ok changed) :
    Looked location result.2 w := by
  cases checks with
  | raised fault => cases answered
  | absent absent =>
    rw [fileStamp_backed synced.backed] at absent
    exact .inl absent
  | same stamp stamped seen =>
    rw [fileStamp_backed synced.backed] at stamped
    exact .inr ⟨stamp, stamped, seen⟩
  | other stamp stamped unseen => exact (reload_reloads book w).looked synced answered

theorem Reloads.kept {result : Except Fault Bool × RuleBook} (reloads : Reloads book w result)
    (backed : book.file = some location) (nothing : ∀ rules, ¬ Offers w location rules) :
    result.2.active = book.active := by
  cases reloads with
  | replaced other stamp rules here stamped read =>
    cases backed.symm.trans here
    exact absurd (offers_iff.mpr read) (nothing rules)
  | _ => rfl

theorem Checks.kept {result : Except Fault Bool × RuleBook} (checks : Checks book w result)
    (backed : book.file = some location) (nothing : ∀ rules, ¬ Offers w location rules) :
    result.2.active = book.active := by
  cases checks with
  | other stamp stamped unseen => exact (reload_reloads book w).kept backed nothing
  | _ => rfl

theorem Looked.taken (looked : Looked location book w) (synced : Synced times location book w)
    {rules : RuleSet} (offers : Offers w location rules) :
    ∃ revision, book.active = some { rules with revision := revision } := by
  obtain absent | ⟨stamp, stamped, seen⟩ := looked
  · obtain ⟨stamp, stamped⟩ := offers.stamped
    rw [absent] at stamped
    cases stamped
  · exact synced.current stamp rules stamped seen offers

theorem Looked.check (looked : Looked location book w) (backed : book.file = some location) :
    book.check w = (.ok false, book) := by
  obtain absent | ⟨stamp, stamped, seen⟩ := looked
  · rw [RuleBook.check, fileStamp_backed backed]
    simp only [absent]
  · exact check_seen backed stamped seen

end RuleBook

/-! ### Runs -/

namespace Desk

/-- A write by others takes place at a time that the file never had. -/
def Fair (times : List Stamp) (desk : Desk) : Event → Prop
  | .request request => RuleBook.Watchable request
  | .write bytes time => ∀ location files stamp, desk.book.file = some location →
    desk.files.place location bytes time = .ok files → files.stamp? location = .ok (some stamp) →
      IsTime stamp ∧ ∀ old ∈ times, (old == stamp) = false
  | .delete => True

def timesAfter (times : List Stamp) (desk : Desk) : List Stamp :=
  times ++ (desk.book.lastStamp desk.files).toList

/-- Each event of a run is fair to the times that the file has had before. -/
def Watched (times : List Stamp) (desk : Desk) : List Event → Prop
  | [] => True
  | event :: rest =>
    desk.Fair times event ∧ Watched (timesAfter times (desk.act event)) (desk.act event) rest

def Synced (times : List Stamp) (location : Location) (desk : Desk) : Prop :=
  desk.book.Synced times location desk.files

variable {times : List Stamp} {location : Location} {desk : Desk}

theorem mem_timesAfter (backed : desk.book.file = some location) {stamp : Stamp}
    (stamped : desk.files.stamp? location = .ok (some stamp)) :
    stamp ∈ timesAfter times desk := by
  rw [timesAfter, RuleBook.lastStamp_eq backed stamped]
  simp

theorem Synced.write (synced : desk.Synced times location) {files : Workspace}
    (fresh : ∀ stamp, files.stamp? location = .ok (some stamp) →
      IsTime stamp ∧ ∀ old ∈ times, (old == stamp) = false) :
    Synced (timesAfter times { desk with files }) location { desk with files } where
  backed := synced.backed
  known stamp stamped := mem_timesAfter (by exact synced.backed) stamped
  timed stamp stamped := (fresh stamp stamped).1
  seen stamp same := List.mem_append_left _ (synced.seen stamp same)
  current stamp rules stamped seen offers := by
    cases looked : desk.book.seen with
    | none =>
      rw [looked] at seen
      cases seen
    | some old =>
      have apart := (fresh stamp stamped).2 old (synced.seen old looked)
      rw [looked] at seen
      exact absurd (apart.symm.trans seen) Bool.false_ne_true

theorem stamp?_deleted {w : Workspace} {stamp : Stamp}
    (stamped : (w.delete location).stamp? location = .ok (some stamp)) : IsTime stamp := by
  unfold Workspace.stamp? at stamped
  split at stamped
  · next stored here => exact absurd here (w.delete_nodeAt location stored)
  · cases stamped
    have zero : ((0 : Float) == 0) = true := by decide +kernel
    exact zero
  · cases stamped
  · cases stamped

theorem Synced.delete (synced : desk.Synced times location) :
    Synced (timesAfter times { desk with files := desk.files.delete location }) location
      { desk with files := desk.files.delete location } where
  backed := synced.backed
  known stamp stamped := mem_timesAfter (by exact synced.backed) stamped
  timed stamp stamped := stamp?_deleted stamped
  seen stamp same := List.mem_append_left _ (synced.seen stamp same)
  current stamp rules _ _ offers := by
    obtain ⟨document, ⟨bytes, text, read, -, -⟩, -⟩ := offers
    obtain ⟨stored, here, -⟩ := read_ok read
    exact absurd here (desk.files.delete_nodeAt location stored)

theorem Synced.act (synced : desk.Synced times location) {event : Event}
    (fair : desk.Fair times event) :
    (desk.act event).Synced (timesAfter times (desk.act event)) location := by
  have unchanged : desk.Synced (timesAfter times desk) location :=
    RuleBook.Synced.mono synced (List.subset_append_left _ _)
  have backed := synced.backed
  cases event with
  | request request => exact RuleBook.Synced.ask synced fair
  | write bytes time =>
    rw [Desk.act, backed]
    dsimp only
    cases placed : desk.files.place location bytes time with
    | error fault => exact unchanged
    | ok files => exact synced.write fun stamp => fair location files stamp backed placed
  | delete =>
    rw [Desk.act, backed]
    exact synced.delete

theorem start_synced {path : String} {files : Workspace} (named : path.isEmpty = false)
    (timed : ∀ stamp, files.stamp? (.ofText path) = .ok (some stamp) → IsTime stamp) :
    (start path files).Synced (timesAfter [] (start path files)) (.ofText path) := by
  have backed : (start path files).book.file = some (.ofText path) := by
    rw [start, RuleBook.ofPath, named]
    rfl
  refine ⟨backed, fun stamp => mem_timesAfter backed, timed, ?_, ?_⟩
  · intro stamp seen
    cases seen
  · intro stamp rules _ seen
    cases seen

theorem Synced.run (synced : desk.Synced times location) {events : List Event}
    (watched : desk.Watched times events) : ∃ more, (desk.run events).Synced more location := by
  induction events generalizing desk times with
  | nil => exact ⟨times, synced⟩
  | cons event rest ih => exact ih (synced.act watched.1) watched.2

theorem check_answered {changed : Bool} (answered : (desk.ask .check).1 = .ok (.changed changed)) :
    (desk.book.check desk.files).1 = .ok changed := by
  have mapped : (desk.ask .check).1 = (desk.book.check desk.files).1.map .changed := rfl
  rw [mapped] at answered
  cases checked : (desk.book.check desk.files).1 with
  | error fault =>
    rw [checked] at answered
    cases answered
  | ok found =>
    rw [checked] at answered
    cases answered
    rfl

/-- Whatever has happened to the backing file before, once a check has answered, the rules of the file
are in force, or those before if the file holds none, and there is nothing more to be noticed. -/
theorem check_converges {path : String} {files : Workspace} {events : List Event} {changed : Bool}
    (named : path.isEmpty = false)
    (timed : ∀ stamp, files.stamp? (.ofText path) = .ok (some stamp) → IsTime stamp)
    (watched : (start path files).Watched (timesAfter [] (start path files)) events)
    (answered : (((start path files).run events).ask .check).1 = .ok (.changed changed)) :
    let desk := (start path files).run events
    let later := (desk.ask .check).2
    (∀ rules, Offers later.files (.ofText path) rules →
      ∃ revision, later.book.active = some { rules with revision := revision }) ∧
    ((∀ rules, ¬ Offers later.files (.ofText path) rules) →
      later.book.active = desk.book.active) ∧
    (later.ask .check).1 = .ok (.changed false) := by
  intro desk later
  obtain ⟨times, synced⟩ := (start_synced named timed).run watched
  have checks := desk.book.check_checks desk.files
  have after := checks.synced synced
  have looked := checks.looked synced (check_answered answered)
  have again : later.book.check later.files = (.ok false, later.book) := looked.check after.backed
  refine ⟨fun rules => looked.taken after, checks.kept synced.backed, ?_⟩
  rw [Desk.ask, RuleBook.ask, again]
  rfl

theorem fair_write {bytes : List UInt8} {time : Float} (timed : IsTime (.given time))
    (fresh : ∀ old ∈ times, (old == .given time) = false) :
    desk.Fair times (.write bytes (some time)) := by
  intro location files stamp _ placed stamped
  have now : files.stamp? location = .ok (some (.given time)) :=
    Workspace.stamp?_file (Workspace.write_nodeAt placed)
  cases now.symm.trans stamped
  exact ⟨timed, fresh⟩

theorem act_write {files : Workspace} {bytes : List UInt8} {time : Option Float}
    (backed : desk.book.file = some location)
    (placed : desk.files.place location bytes time = .ok files) :
    desk.act (.write bytes time) = { desk with files } := by
  rw [act, backed]
  dsimp only
  rw [placed]

/-- The file is malformed at first, and then taken over by the book. -/
def takingOver : List Event :=
  [.write [123] (some 1), .request .check, .request (.update (.object RuleBook.layeredFields))]

/-- The bytes of a rule document without rules. -/
def plainBytes : List UInt8 :=
  (Document.object (RuleBook.plainFields (.int 1))).renderIndented.toUTF8.toList

theorem watched_takingOver :
    (start "rules.json" .empty).Watched (timesAfter [] (start "rules.json" .empty))
      (takingOver ++ [.write plainBytes (some 2)]) := by
  have kept : (Document.object RuleBook.layeredFields).isKept = true := by decide +kernel
  have first : ∀ old ∈ timesAfter [] (start "rules.json" .empty), (old == .given 1) = false := by
    decide +kernel
  refine ⟨fair_write rfl first, trivial, ?_, fair_write rfl ?_, trivial⟩
  · intro fields given source rules built
    cases given
    exact rereads_of_isKept kept
  · decide +kernel

theorem check_converges_rewritten :
    ∃ rules, build "rules.json" (.object (RuleBook.plainFields (.int 1))) = .ok rules ∧
      let desk := (start "rules.json" .empty).run (takingOver ++ [.write plainBytes (some 2)])
      let later := (desk.ask .check).2
      (desk.ask .check).1 = .ok (.changed true) ∧
      (∃ revision, later.book.active = some { rules with revision := revision }) ∧
      (later.ask .check).1 = .ok (.changed false) := by
  have accepted : (build "rules.json" (.object (RuleBook.plainFields (.int 1)))).toOption.isSome =
      true := by decide +kernel
  have kept : (Document.object (RuleBook.plainFields (.int 1))).isKept = true := by decide +kernel
  have absent : ∀ stamp, Workspace.empty.stamp? (.ofText "rules.json") ≠ .ok (some stamp) := by
    have untimed : (Workspace.empty.stamp? (.ofText "rules.json")).toOption.join.isNone = true := by
      decide +kernel
    intro stamp here
    rw [here] at untimed
    cases untimed
  have text : (Location.ofText "rules.json").text = "rules.json" := by decide +kernel
  let taken := (start "rules.json" .empty).run takingOver
  have backed : taken.book.file = some (.ofText "rules.json") := by decide +kernel
  have unseen : (taken.book.seen == some (.given 2)) = false := by decide +kernel
  have placeable : (taken.files.place (.ofText "rules.json") plainBytes (some 2)).toOption.isSome =
      true := by decide +kernel
  cases built : build "rules.json" (.object (RuleBook.plainFields (.int 1))) with
  | error fault =>
    rw [built] at accepted
    cases accepted
  | ok rules =>
    cases placed : taken.files.place (.ofText "rules.json") plainBytes (some 2) with
    | error fault =>
      rw [placed] at placeable
      cases placeable
    | ok files =>
      have written : (start "rules.json" .empty).run (takingOver ++ [.write plainBytes (some 2)]) =
          { taken with files } := by
        rw [run, List.foldl_append]
        exact act_write backed placed
      have stamped : files.stamp? (.ofText "rules.json") = .ok (some (.given 2)) :=
        Workspace.stamp?_file (Workspace.write_nodeAt placed)
      have offers : Offers files (.ofText "rules.json") rules :=
        ⟨_, holds_saved placed (rereads_of_isKept kept), text ▸ built⟩
      have answered : (((start "rules.json" .empty).run
          (takingOver ++ [.write plainBytes (some 2)])).ask .check).1 = .ok (.changed true) := by
        rw [written, Desk.ask, RuleBook.ask, RuleBook.check_offered backed stamped unseen offers]
        rfl
      obtain ⟨converges, -, settled⟩ :=
        check_converges rfl (fun stamp here => absurd here (absent stamp)) watched_takingOver answered
      refine ⟨rules, rfl, answered, converges rules ?_, settled⟩
      rw [written]
      exact offers

end Desk

end CodeAtlas.Rules
