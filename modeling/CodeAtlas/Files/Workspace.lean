import CodeAtlas.Document.Display
import CodeAtlas.Fault
import CodeAtlas.Files.Decode
import CodeAtlas.Files.Location
import CodeAtlas.Keyed

set_option autoImplicit false

/-! A working folder with its files, and when each was last written. -/

namespace CodeAtlas.Files

/-- A time of writing: one that was set, or a time of its own for each other write. -/
inductive Stamp
  | given (seconds : Float)
  | fresh (count : Nat)

instance : BEq Stamp where
  beq
    | .given a, .given b => a == b
    | .fresh a, .fresh b => a == b
    | _, _ => false

structure StoredFile where
  bytes : List UInt8
  stamp : Stamp

inductive Node
  | folder
  | file (stored : StoredFile)

-- Where a node is: its segments from the working folder, behind two dots for each step out of it,
-- or from the root.
abbrev Spot := List String

/-- What is not allowed at a spot: to write there, or to read there either. A closed folder cannot be
looked into. -/
inductive Lock
  | readOnly
  | closed
  deriving DecidableEq, Repr

/-- `writes` counts the writes so far. -/
structure Workspace where
  nodes : List (Spot × Node)
  writes : Nat
  locks : List (Spot × Lock)

def segmentLimit : Nat := 255

def locationLimit : Nat := 4095

def rootSpot : Spot := ["/"]

def isAround (spot : Spot) : Bool :=
  spot.all (· == "..")

-- One segment further. Two dots lead out of a folder, but not out of the root.
def enter (spot : Spot) (name : String) : Spot :=
  if name != ".." then spot ++ [name]
  else if spot == rootSpot then rootSpot
  else if isAround spot then spot ++ [".."]
  else spot.dropLast

def startOf (location : Location) : Spot :=
  if location.root.isEmpty then [] else rootSpot

namespace Workspace

def empty : Workspace :=
  ⟨[], 0, []⟩

def node? (w : Workspace) (spot : Spot) : Option Node :=
  if isAround spot || spot == rootSpot then some .folder else Keyed.lookup spot w.nodes

def isClosed (w : Workspace) (spot : Spot) : Bool :=
  Keyed.lookup spot w.locks == some .closed

def isLocked (w : Workspace) (spot : Spot) : Bool :=
  (Keyed.lookup spot w.locks).isSome

def walk (w : Workspace) (spot : Spot) : List String → Except FileProblem Spot
  | [] => .ok spot
  | name :: rest =>
    match w.node? spot with
    | none => .error .missing
    | some (.file _) => .error .notDirectory
    | some .folder =>
      if w.isClosed spot then .error .denied
      else if segmentLimit < name.utf8ByteSize then .error .nameTooLong
      else walk w (enter spot name) rest

def spotOf (w : Workspace) (location : Location) : Except Fault Spot :=
  if !location.isNameable then .error .badValue
  else if locationLimit < location.text.utf8ByteSize then
    .error (.file .nameTooLong location.text)
  else
    (w.walk (startOf location) location.segments).mapError fun problem =>
      .file problem location.text

def nodeAt (w : Workspace) (location : Location) : Except Fault Node := do
  match w.node? (← w.spotOf location) with
  | some node => pure node
  | none => .error (.file .missing location.text)

-- Whether there is anything. A location that cannot be named has nothing.
def exists? (w : Workspace) (location : Location) : Except Fault Bool :=
  match w.nodeAt location with
  | .ok _ => .ok true
  | .error (.file problem path) =>
    if problem.isAbsence then .ok false else .error (.file problem path)
  | .error _ => .ok false

def isClosedAt (w : Workspace) (location : Location) : Bool :=
  (w.spotOf location).toOption.any w.isClosed

def read (w : Workspace) (location : Location) : Except Fault (List UInt8) := do
  let node ← w.nodeAt location
  if w.isClosedAt location then .error (.file .denied location.text)
  else
    match node with
    | .file stored => pure stored.bytes
    | .folder => .error (.file .isDirectory location.text)

-- When a file was last written. A folder counts as written at time zero.
def stamp? (w : Workspace) (location : Location) : Except Fault (Option Stamp) :=
  match w.nodeAt location with
  | .ok (.file stored) => .ok (some stored.stamp)
  | .ok .folder => .ok (some (.given 0))
  | .error (.file ..) => .ok none
  | .error fault => .error fault

-- A new file is an entry of its folder, so neither may be locked.
def forbids (w : Workspace) (spot : Spot) : Bool :=
  w.isLocked spot || ((w.node? spot).isNone && w.isLocked spot.dropLast)

def write (w : Workspace) (location : Location) (bytes : List UInt8) (time : Option Float) :
    Except Fault Workspace := do
  let spot ← w.spotOf location
  let stamp := (time.map Stamp.given).getD (.fresh w.writes)
  match w.node? spot with
  | some .folder => .error (.file .isDirectory location.text)
  | _ =>
    if w.forbids spot then .error (.file .denied location.text)
    else
      pure { w with
        nodes := Keyed.put spot (.file ⟨bytes, stamp⟩) w.nodes
        writes := w.writes + 1 }

def addFolder (w : Workspace) (spot : Spot) : Workspace :=
  match w.node? spot with
  | some _ => w
  | none =>
    if w.forbids spot then w else { w with nodes := Keyed.put spot .folder w.nodes }

-- Folders for all segments, where there is nothing yet and nothing forbids them.
def addFolders (w : Workspace) (spot : Spot) : List String → Workspace
  | [] => w
  | name :: rest => addFolders (w.addFolder (enter spot name)) (enter spot name) rest

def makeFolder (w : Workspace) (location : Location) : Except Fault Workspace := do
  let made := w.addFolders (startOf location) location.segments
  match made.nodeAt location with
  | .ok .folder => pure made
  | .ok (.file _) => .error (.file .exists location.text)
  | .error (.file .missing path) => .error (.file .denied path)
  | .error fault => .error fault

def place (w : Workspace) (location : Location) (bytes : List UInt8) (time : Option Float) :
    Except Fault Workspace :=
  (w.addFolders (startOf location) location.segments.dropLast).write location bytes time

def delete (w : Workspace) (location : Location) : Workspace :=
  match w.spotOf location with
  | .ok spot => { w with nodes := Keyed.erase spot w.nodes, locks := Keyed.erase spot w.locks }
  | .error _ => w

end Workspace

def problemAt (problem : FileProblem) (path : String) : String :=
  s!"{problem.message}: {(Document.text path).display}"

end CodeAtlas.Files
