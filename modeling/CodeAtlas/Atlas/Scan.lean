import CodeAtlas.Atlas.Basic

set_option autoImplicit false

/-! Scans of files. -/

namespace CodeAtlas

open CodeAtlas.Classify CodeAtlas.Files

/-- What a scan has done. Each error is about one file. -/
structure ScanStats where
  scanned : Nat
  indexed : Nat
  units : Nat
  byKind : List (String × Nat)
  byPurpose : List (String × Nat)
  errors : List String
  deriving DecidableEq, Repr

namespace ScanStats

def start (scanned : Nat) : ScanStats :=
  ⟨scanned, 0, 0, [], [], []⟩

def countIn (key : String) (counts : List (String × Nat)) : List (String × Nat) :=
  Keyed.put key ((Keyed.lookup key counts).getD 0 + 1) counts

def addUnit (s : ScanStats) (u : ClassifiedUnit) : ScanStats :=
  { s with byKind := countIn u.raw.kind s.byKind, byPurpose := countIn u.purpose s.byPurpose }

def addFile (s : ScanStats) (units : List ClassifiedUnit) : ScanStats :=
  units.foldl addUnit { s with indexed := s.indexed + 1, units := s.units + units.length }

def addError (s : ScanStats) (error : String) : ScanStats :=
  { s with errors := s.errors ++ [error] }

end ScanStats

namespace Atlas

def processFile (a : Atlas) (w : Workspace) (path : String) :
    Except Fault (List ClassifiedUnit) × Atlas :=
  match w.read (.ofText path) with
  | .ok bytes => a.processText w path (decodeAny bytes)
  | .error fault => (.error fault, a)

def readError (path : String) (problem : FileProblem) (place : String) : String :=
  s!"Error reading {path}: {problemAt problem place}"

-- One file of a scan. A file that cannot be read is an error of the scan. Any other fault ends it.
def scanFile (w : Workspace) (generation : Int) (a : Atlas) (s : ScanStats) (path : String) :
    Except Fault ScanStats × Atlas :=
  match a.processFile w path with
  | (.ok units, a) =>
    match a.commit path units generation with
    | (true, a) => (.ok (s.addFile units), a)
    | (false, a) => (.ok s, a)
  | (.error (.file problem place), a) => (.ok (s.addError (readError path problem place)), a)
  | (.error fault, a) => (.error fault, a)

def scanEach (w : Workspace) (generation : Int) :
    List String → Atlas → ScanStats → Except Fault ScanStats × Atlas
  | [], a, s => (.ok s, a)
  | path :: paths, a, s =>
    match scanFile w generation a s path with
    | (.ok s, a) => scanEach w generation paths a s
    | (.error fault, a) => (.error fault, a)

def scan (a : Atlas) (w : Workspace) (paths : List String) : Except Fault ScanStats × Atlas :=
  let paths := Text.distinct paths
  let a := a.nextGeneration
  scanEach w a.generation paths a (.start paths.length)

end Atlas

end CodeAtlas
