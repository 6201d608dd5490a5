import CodeAtlas.Proofs.Rules.Loading

set_option autoImplicit false

/-! What each operation of a rule book does: the answers that it may give, and the book and the files
behind each of them. -/

namespace CodeAtlas.Rules

open CodeAtlas.Files

namespace RuleBook

def notes (book : RuleBook) (stamp : Option Stamp) : RuleBook :=
  { book with seen := stamp }

/-- Loading from the backing file. -/
inductive Loads (book : RuleBook) (w : Workspace) : Except Fault RuleSet × RuleBook → Prop
  | unbacked (rules : RuleSet) (unbacked : book.file = none) (builtin_eq : rules = builtin) :
      Loads book w (.ok (book.publish rules).1, (book.publish rules).2)
  | replaced (location : Location) (stamp : Option Stamp) (rules : RuleSet)
      (backed : book.file = some location) (stamped : w.stamp? location = .ok stamp)
      (read : orBuiltin (do (← readFile w location).build) = .ok rules) :
      Loads book w (.ok (book.publish rules).1, ((book.notes stamp).publish rules).2)
  | raised (fault : Fault) : Loads book w (.error fault, book)

theorem load_loads (book : RuleBook) (w : Workspace) : Loads book w (book.load w) := by
  unfold load
  split
  · next unbacked => exact .unbacked builtin unbacked rfl
  · next location backed =>
    cases read : orBuiltin (do (← readFile w location).build) with
    | error fault => exact .raised fault
    | ok rules =>
      cases stamped : w.stamp? location with
      | error fault => exact .raised fault
      | ok stamp => exact .replaced location stamp rules backed stamped read

/-- Reading the backing file again. -/
inductive Reloads (book : RuleBook) (w : Workspace) : Except Fault Bool × RuleBook → Prop
  | unbacked (unbacked : book.file = none) : Reloads book w (.ok false, book)
  | unnamed (fault : Fault) : Reloads book w (.error fault, book)
  | replaced (location : Location) (stamp : Option Stamp) (rules : RuleSet)
      (backed : book.file = some location) (stamped : w.stamp? location = .ok stamp)
      (read : (do (← readFile w location).build) = .ok rules) :
      Reloads book w (.ok true, ((book.notes stamp).publish rules).2)
  | refused (location : Location) (stamp : Option Stamp) (problem : RuleProblem)
      (backed : book.file = some location) (stamped : w.stamp? location = .ok stamp)
      (read : (do (← readFile w location).build) = .error (.rules problem)) :
      Reloads book w (.ok false, book.notes stamp)
  | raised (location : Location) (stamp : Option Stamp) (fault : Fault)
      (backed : book.file = some location) (stamped : w.stamp? location = .ok stamp)
      (read : (do (← readFile w location).build) = .error fault) :
      Reloads book w (.error fault, book.notes stamp)

theorem reload_reloads (book : RuleBook) (w : Workspace) : Reloads book w (book.reload w) := by
  unfold reload
  split
  · next unbacked => exact .unbacked unbacked
  · next location backed =>
    split
    · next fault _ => exact .unnamed fault
    · next stamp stamped =>
      dsimp only
      split
      · next rules read => exact .replaced location stamp rules backed stamped read
      · next problem read => exact .refused location stamp problem backed stamped read
      · next fault _ read => exact .raised location stamp fault backed stamped read

/-- Looking whether the backing file was written since it was looked at last. -/
inductive Checks (book : RuleBook) (w : Workspace) : Except Fault Bool × RuleBook → Prop
  | raised (fault : Fault) : Checks book w (.error fault, book)
  | absent (absent : book.fileStamp w = .ok none) : Checks book w (.ok false, book)
  | same (stamp : Stamp) (stamped : book.fileStamp w = .ok (some stamp))
      (seen : (book.seen == some stamp) = true) : Checks book w (.ok false, book)
  | other (stamp : Stamp) (stamped : book.fileStamp w = .ok (some stamp))
      (unseen : (book.seen == some stamp) = false) : Checks book w (book.reload w)

theorem check_checks (book : RuleBook) (w : Workspace) : Checks book w (book.check w) := by
  unfold check
  split
  · next fault _ => exact .raised fault
  · next absent => exact .absent absent
  · next stamp stamped =>
    split
    · next seen => exact .same stamp stamped seen
    · next unseen => exact .other stamp stamped (by simpa using unseen)

/-- Putting a document in force, which is written to the backing file before. -/
inductive Revises (book : RuleBook) (w : Workspace) (given : Except Fault Document) :
    Except Fault RuleSet × RuleBook × Workspace → Prop
  | raised (fault : Fault) : Revises book w given (.error fault, book, w)
  | unbacked (document : Document) (rules : RuleSet) (document_eq : given = .ok document)
      (unbacked : book.file = none) (built : Rules.build inlineName document = .ok rules) :
      Revises book w given (.ok (book.publish rules).1, (book.publish rules).2, w)
  | saved (document : Document) (rules : RuleSet) (location : Location) (later : Workspace)
      (stamp : Option Stamp) (document_eq : given = .ok document)
      (backed : book.file = some location)
      (built : Rules.build location.text document = .ok rules)
      (written : w.write location document.renderIndented.toUTF8.toList none = .ok later)
      (stamped : later.stamp? location = .ok stamp) :
      Revises book w given (.ok (book.publish rules).1, ((book.notes stamp).publish rules).2, later)

theorem save_ok {book : RuleBook} {w later : Workspace} {document : Document} {location : Location}
    (backed : book.file = some location) :
    book.save w document = .ok later ↔
      w.write location document.renderIndented.toUTF8.toList none = .ok later := by
  rw [save, backed]
  dsimp only
  cases w.write location document.renderIndented.toUTF8.toList none with
  | ok written => rfl
  | error fault => cases fault <;> simp

theorem revise_revises (book : RuleBook) (w : Workspace) (given : Except Fault Document) :
    Revises book w given (book.revise w given) := by
  rw [revise]
  cases given with
  | error fault => exact .raised fault
  | ok document =>
    cases built : Rules.build book.sourceName document with
    | error fault =>
      simp only [built, bind, Except.bind]
      exact .raised fault
    | ok rules =>
      cases saved : book.save w document with
      | error fault =>
        simp only [built, saved, bind, Except.bind]
        exact .raised fault
      | ok later =>
        cases stamped : book.fileStamp later with
        | error fault =>
          simp only [built, saved, stamped, bind, Except.bind]
          exact .raised fault
        | ok stamp =>
          simp only [built, saved, stamped, bind, Except.bind, pure, Except.pure]
          split
          · next unbacked =>
            rw [save, unbacked] at saved
            rw [sourceName, unbacked] at built
            cases saved
            exact .unbacked document rules rfl unbacked built
          · next location backed =>
            rw [fileStamp, backed] at stamped
            rw [sourceName, backed] at built
            exact .saved document rules location later stamp rfl backed built
              ((save_ok backed).mp saved) stamped

end RuleBook

end CodeAtlas.Rules
