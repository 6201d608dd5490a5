import CodeAtlas.Document.Parser

set_option autoImplicit false

/-! What can go wrong, by cause. -/

namespace CodeAtlas

/-- Why a file cannot be used. -/
inductive FileProblem
  | missing
  | notDirectory
  | isDirectory
  | nameTooLong
  | exists
  | denied
  deriving DecidableEq, Repr

def FileProblem.message : FileProblem → String
  | .missing => "[Errno 2] No such file or directory"
  | .notDirectory => "[Errno 20] Not a directory"
  | .isDirectory => "[Errno 21] Is a directory"
  | .nameTooLong => "[Errno 36] File name too long"
  | .exists => "[Errno 17] File exists"
  | .denied => "[Errno 13] Permission denied"

-- These say that there is nothing at a location. The others leave it open.
def FileProblem.isAbsence : FileProblem → Bool
  | .missing | .notDirectory => true
  | .isDirectory | .nameTooLong | .exists | .denied => false

/-- Why a document is no rule document. `place` says which part of it is meant. -/
inductive RuleProblem
  | notObject (place : String)
  | missingGroup (name : String)
  | badStructure (group : String)
  | badConditions (place : String)
  | badMatch (place : String)
  | blankText (place : String)
  | confidenceType (place : String)
  | confidenceRange (place : String)
  | badLabels
  | badCluster (name : String)
  | malformed (message : String)
  | notFound (path : String)
  | unreadable (path message : String)
  | unwritable (path message : String)
  deriving DecidableEq, Repr

def RuleProblem.message : RuleProblem → String
  | .notObject place => s!"{place} must be an object"
  | .missingGroup name => s!"Missing required field: {name}"
  | .badStructure group => s!"Invalid {group} structure"
  | .badConditions place => s!"{place}.conditions must be a non-empty list of strings"
  | .badMatch place => s!"{place}.match must be 'all' or 'any'"
  | .blankText place => s!"{place} must be a non-empty string"
  | .confidenceType place => s!"{place}.confidence must be a number"
  | .confidenceRange place => s!"{place}.confidence must be within [0, 1]"
  | .badLabels => "bundleHeuristics.fallback.defaultFallback.bundles must be a list of strings"
  | .badCluster name => s!"Invalid cluster definition: {name}"
  | .malformed message => s!"Invalid JSON: {message}"
  | .notFound path => s!"Rule config not found at {path}"
  | .unreadable path message => s!"Cannot read {path}: {message}"
  | .unwritable path message => s!"Cannot write {path}: {message}"

/-- Why there is no embedding. -/
inductive BackendProblem
  | unknown (name : String) (known : List String)
  | noKey
  | notInstalled
  deriving DecidableEq, Repr

def BackendProblem.message : BackendProblem → String
  | .unknown name known =>
    let choice := String.intercalate ", " known
    s!"Unknown embedding backend: {name} (choose from {choice})"
  | .noKey => "OpenAI API key required for embedding service"
  | .notInstalled => "sentence-transformers is not installed (pip install 'codeindex[local]')"

/-- A failed operation. The first two have a message for the user; the others say what a value was
not fit for. `tooDeep` is a call stack that is used up. -/
inductive Fault
  | rules (problem : RuleProblem)
  | backend (problem : BackendProblem)
  | missingField (name : String)
  | wrongType
  | badValue
  | tooLarge
  | noSuchOperation
  | dividedByZero
  | embeddingFailed
  | tooDeep
  | file (problem : FileProblem) (path : String)
  deriving DecidableEq, Repr

def Fault.message? : Fault → Option String
  | .rules problem => some problem.message
  | .backend problem => some problem.message
  | .missingField name => some s!"'{name}'"
  | _ => none

end CodeAtlas
