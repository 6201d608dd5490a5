import CodeAtlas.Document.Parser
import CodeAtlas.Files.Workspace
import CodeAtlas.Rules.Build

set_option autoImplicit false

/-! Where rule documents come from: an object, JSON text or a file. -/

namespace CodeAtlas.Rules

open CodeAtlas.Files CodeAtlas.Text

/-- A document and a word on where it is from. -/
structure Origin where
  document : Document
  description : String

/-- Work that takes the more of the call stack the deeper it goes into what is given. -/
inductive Task
  | find (location : Location)
  | parse (text : String)
  | copy (document : Document)
  | build (document : Document)

/-- A call stack, as the tasks that it has room for. How much room a task takes is left open. -/
structure Stack where
  holds : Task → Bool

namespace Stack

def unbounded : Stack :=
  ⟨fun _ => true⟩

def enter (stack : Stack) (task : Task) : Except Fault Unit :=
  if stack.holds task then .ok () else .error .tooDeep

end Stack

def inlineName : String := "inline"

def looksInline (text : String) : Bool :=
  (trimLeft text.toList).head? == some '\x7b'

def ofJson (malformed : String → RuleProblem) (text : String) (stack : Stack := .unbounded) :
    Except Fault Document := do
  stack.enter (.parse text)
  let chars := text.toList
  match Document.parse chars with
  | .ok document => .ok document
  | .error .tooManyDigits => .error .badValue
  | .error failure => .error (.rules (malformed (failure.message chars)))

def readFile (w : Workspace) (location : Location) (stack : Stack := .unbounded) :
    Except Fault Origin := do
  stack.enter (.find location)
  let path := location.text
  if !(← w.exists? location) then throw (.rules (.notFound path))
  match w.read location with
  | .ok bytes =>
    match decode bytes with
    | .ok text => pure ⟨← ofJson (.unreadable path) text stack, path⟩
    | .error failure => throw (.rules (.unreadable path failure.message))
  | .error (.file problem place) => throw (.rules (.unreadable path (problemAt problem place)))
  | .error fault => throw fault

-- A text that begins with a brace is a document itself, any other one is a path.
def readText (w : Workspace) (text : String) (stack : Stack := .unbounded) :
    Except Fault Origin := do
  if looksInline text then pure ⟨← ofJson .malformed text stack, inlineName⟩
  else readFile w (.ofText text) stack

def readSource (w : Workspace) (source : Document) (stack : Stack := .unbounded) :
    Except Fault Origin :=
  match source with
  | .object fields => do
    stack.enter (.copy (.object fields))
    pure ⟨.object fields, inlineName⟩
  | .text text => readText w text stack
  | _ => .error .wrongType

def Origin.build (origin : Origin) (stack : Stack := .unbounded) : Except Fault RuleSet := do
  stack.enter (.build origin.document)
  Rules.build origin.description origin.document

end CodeAtlas.Rules
