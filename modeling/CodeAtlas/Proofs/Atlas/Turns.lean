import CodeAtlas.Proofs.Atlas.Overlap
import CodeAtlas.Proofs.Rules.Operations

set_option autoImplicit false

/-! A scan amid others: its files are done in any order, and between two of them other scans may commit
files, or the atlas may be cleared. -/

namespace CodeAtlas

open CodeAtlas.Classify CodeAtlas.Files CodeAtlas.Rules

-- Rules that were loaded once are found again, and what failed fails again.
theorem Rules.RuleBook.rules_again (book : RuleBook) (w : Workspace) :
    (book.rules w).2.rules w = book.rules w := by
  cases active : book.active with
  | some rules => simp [RuleBook.rules, active]
  | none =>
    have same : book.rules w = book.load w := by simp [RuleBook.rules, active]
    have loads := RuleBook.load_loads book w
    rw [same]
    generalize book.load w = loaded at loads same
    cases loads with
    | raised fault => exact same
    | _ => rfl

def Fault.ofFile : Fault → Bool
  | .file .. => true
  | _ => false

namespace Atlas

/-- The units of a file, or why they cannot be had. -/
def unitsIn (a : Atlas) (w : Workspace) (path : String) : Except Fault (List ClassifiedUnit) :=
  (a.processFile w path).1

theorem unitsIn_eq (a : Atlas) (w : Workspace) (path : String) :
    a.unitsIn w path = match w.read (.ofText path) with
      | .ok bytes => (a.processText w path (decodeAny bytes)).1
      | .error fault => .error fault := by
  rw [unitsIn, processFile]
  cases w.read (.ofText path) <;> rfl

theorem processText_eq (a : Atlas) (w : Workspace) (path text : String) :
    a.processText w path text =
      ((a.book.rules w).1.map fun rules => classifyText rules a.least path text,
        { a with book := (a.book.rules w).2 }) := rfl

/-- Both read files by the same rules. -/
structure ReadsAlike (w : Workspace) (a b : Atlas) : Prop where
  least_eq : b.least = a.least
  rules_eq : b.book.rules w = a.book.rules w

theorem ReadsAlike.refl (w : Workspace) (a : Atlas) : ReadsAlike w a a :=
  ⟨rfl, rfl⟩

theorem ReadsAlike.trans {w : Workspace} {a b c : Atlas} (first : ReadsAlike w a b)
    (second : ReadsAlike w b c) : ReadsAlike w a c :=
  ⟨second.least_eq.trans first.least_eq, second.rules_eq.trans first.rules_eq⟩

theorem ReadsAlike.unitsIn_eq {w : Workspace} {a b : Atlas} (alike : ReadsAlike w a b)
    (path : String) : b.unitsIn w path = a.unitsIn w path := by
  simp only [Atlas.unitsIn_eq, processText_eq, alike.least_eq, alike.rules_eq]

theorem processFile_readsAlike (a : Atlas) (w : Workspace) (path : String) :
    ReadsAlike w a (a.processFile w path).2 := by
  rw [processFile]
  split
  · exact ⟨rfl, RuleBook.rules_again a.book w⟩
  · exact .refl w a

theorem take_readsAlike (w : Workspace) (a : Atlas) (c : Commit) : ReadsAlike w a (a.take c).2 := by
  rw [take, commit]
  split <;> exact ⟨rfl, rfl⟩

-- Only the generation decides on a commit.
theorem take_eq (a : Atlas) (c : Commit) :
    a.take c = if c.generation < a.generationOf c.path then (false, a)
      else (true, { a with
        generations := Keyed.put c.path c.generation a.generations
        store := a.store.replace c.path c.units }) := rfl

end Atlas

/-- What happens while a scan is on: one of its files is done, another scan commits a file, or the atlas
is cleared. -/
inductive Turn
  | done (path : String)
  | rival (c : Commit)
  | clear

namespace Turn

def done? : Turn → Option String
  | .done path => some path
  | _ => none

-- A clearing concerns all files.
def concerns (path : String) : Turn → Bool
  | .done other => other == path
  | .rival c => c.path == path
  | .clear => true

end Turn

/-- A scan that is on, or has been ended by a fault. `log` has the files that it has read, as commits,
and whether they were stored. -/
structure Scanning where
  atlas : Atlas
  outcome : Except Fault ScanStats
  log : List (Commit × Bool)

namespace Scanning

def start (a : Atlas) (paths : List String) : Scanning :=
  ⟨a, .ok (.start (Text.distinct paths).length), []⟩

-- The files that were stored.
def taken (s : Scanning) : List Commit :=
  (s.log.filter (·.2)).map (·.1)

-- The files that a newer scan had committed before.
def stale (s : Scanning) : List Commit :=
  (s.log.filter (!·.2)).map (·.1)

-- The commit of a file and the answer to it, if the file could be read.
def committed (w : Workspace) (generation : Int) (a : Atlas) (path : String) :
    List (Commit × Bool) :=
  match a.unitsIn w path with
  | .ok units => [(⟨path, units, generation⟩, (a.take ⟨path, units, generation⟩).1)]
  | .error _ => []

def finish (w : Workspace) (generation : Int) (s : Scanning) (path : String) : Scanning :=
  match s.outcome with
  | .error _ => s
  | .ok stats =>
    let (outcome, a) := Atlas.scanFile w generation s.atlas stats path
    ⟨a, outcome, s.log ++ committed w generation s.atlas path⟩

def turn (w : Workspace) (generation : Int) (s : Scanning) : Turn → Scanning
  | .done path => s.finish w generation path
  | .rival c => { s with atlas := (s.atlas.take c).2 }
  | .clear => { s with atlas := s.atlas.clear }

def run (w : Workspace) (generation : Int) (s : Scanning) (turns : List Turn) : Scanning :=
  turns.foldl (turn w generation) s

/-- What becomes of a scan when one of its files is done. -/
inductive Finishes (w : Workspace) (generation : Int) (s : Scanning) (path : String) :
    Scanning → Prop
  | ended (fault : Fault) (ended : s.outcome = .error fault) : Finishes w generation s path s
  | stored (stats : ScanStats) (b : Atlas) (units : List ClassifiedUnit)
      (going : s.outcome = .ok stats) (found : s.atlas.unitsIn w path = .ok units)
      (newest : ¬ generation < s.atlas.generationOf path)
      (alike : s.atlas.ReadsAlike w b) (same : s.atlas.Unscanned b) :
      Finishes w generation s path
        ⟨{ b with
            generations := Keyed.put path generation b.generations
            store := b.store.replace path units },
          .ok (stats.addFile units), s.log ++ [(⟨path, units, generation⟩, true)]⟩
  | stale (stats : ScanStats) (b : Atlas) (units : List ClassifiedUnit)
      (going : s.outcome = .ok stats) (found : s.atlas.unitsIn w path = .ok units)
      (older : generation < s.atlas.generationOf path)
      (alike : s.atlas.ReadsAlike w b) (same : s.atlas.Unscanned b) :
      Finishes w generation s path
        ⟨b, .ok stats, s.log ++ [(⟨path, units, generation⟩, false)]⟩
  | unread (stats : ScanStats) (b : Atlas) (problem : FileProblem) (place : String)
      (going : s.outcome = .ok stats)
      (found : s.atlas.unitsIn w path = .error (.file problem place))
      (alike : s.atlas.ReadsAlike w b) (same : s.atlas.Unscanned b) :
      Finishes w generation s path
        ⟨b, .ok (stats.addError (Atlas.readError path problem place)), s.log⟩
  | raised (stats : ScanStats) (b : Atlas) (fault : Fault) (going : s.outcome = .ok stats)
      (found : s.atlas.unitsIn w path = .error fault) (other : fault.ofFile = false)
      (alike : s.atlas.ReadsAlike w b) (same : s.atlas.Unscanned b) :
      Finishes w generation s path ⟨b, .error fault, s.log⟩

theorem finish_finishes (w : Workspace) (generation : Int) (s : Scanning) (path : String) :
    Finishes w generation s path (s.finish w generation path) := by
  cases going : s.outcome with
  | error fault =>
    simp only [finish, going]
    exact .ended fault going
  | ok stats =>
    cases processed : s.atlas.processFile w path with
    | mk result b =>
      have found : s.atlas.unitsIn w path = result := by rw [Atlas.unitsIn, processed]
      have alike : s.atlas.ReadsAlike w b := by
        simpa [processed] using Atlas.processFile_readsAlike s.atlas w path
      have same : s.atlas.Unscanned b := by
        simpa [processed] using Session.processFile_unscanned s.atlas w path
      have numbered : b.generationOf path = s.atlas.generationOf path := by
        simp only [Atlas.generationOf, same.generations_eq]
      cases result with
      | ok units =>
        by_cases older : generation < s.atlas.generationOf path
        · simp only [finish, going, Atlas.scanFile, processed, committed, found, Atlas.take_eq,
            Atlas.commit, numbered, older, if_true]
          exact .stale stats b units going found older alike same
        · simp only [finish, going, Atlas.scanFile, processed, committed, found, Atlas.take_eq,
            Atlas.commit, numbered, older, if_false]
          exact .stored stats b units going found older alike same
      | error fault =>
        cases fault with
        | file problem place =>
          simp only [finish, going, Atlas.scanFile, processed, committed, found, List.append_nil]
          exact .unread stats b problem place going found alike same
        | _ =>
          simp only [finish, going, Atlas.scanFile, processed, committed, found, List.append_nil]
          exact .raised stats b _ going found rfl alike same

theorem finish_outcome {w : Workspace} {generation : Int} {s : Scanning} {stats : ScanStats}
    (going : s.outcome = .ok stats) (path : String) :
    Atlas.scanFile w generation s.atlas stats path =
      ((s.finish w generation path).outcome, (s.finish w generation path).atlas) := by
  simp [finish, going]

theorem run_ended {w : Workspace} {generation : Int} {s : Scanning} {fault : Fault}
    (ended : s.outcome = .error fault) (order : List String) :
    s.run w generation (order.map .done) = s := by
  induction order with
  | nil => rfl
  | cons path rest ih => simpa [run, turn, finish, ended] using ih

theorem run_done (w : Workspace) (generation : Int) (order : List String) {s : Scanning}
    {stats : ScanStats} (going : s.outcome = .ok stats) :
    Atlas.scanEach w generation order s.atlas stats =
      ((s.run w generation (order.map .done)).outcome,
        (s.run w generation (order.map .done)).atlas) := by
  induction order generalizing s stats with
  | nil => simp [Atlas.scanEach, run, going]
  | cons path rest ih =>
    have next : s.run w generation ((path :: rest).map .done) =
        (s.finish w generation path).run w generation (rest.map .done) := rfl
    rw [Atlas.scanEach, finish_outcome going path, next]
    cases left : (s.finish w generation path).outcome with
    | ok later => exact ih left
    | error fault => simp [run_ended left, left]

end Scanning

/-- A scan of some files, and what happens while it is on. -/
def Atlas.scanAmid (a : Atlas) (w : Workspace) (paths : List String) (turns : List Turn) : Scanning :=
  (Scanning.start a.nextGeneration paths).run w a.nextGeneration.generation turns

-- A scan that nothing comes between takes its files in the order in which they are done.
theorem Atlas.scanEach_amid (a : Atlas) (w : Workspace) {paths order : List String}
    (done : order.Perm (Text.distinct paths)) :
    scanEach w a.nextGeneration.generation order a.nextGeneration (.start order.length) =
      ((a.scanAmid w paths (order.map .done)).outcome,
        (a.scanAmid w paths (order.map .done)).atlas) := by
  have going : (Scanning.start a.nextGeneration paths).outcome =
      .ok (.start (Text.distinct paths).length) := rfl
  rw [done.length_eq]
  exact Scanning.run_done w _ order going

end CodeAtlas
