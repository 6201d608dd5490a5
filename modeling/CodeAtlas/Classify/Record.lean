import CodeAtlas.Classify.Basic
import CodeAtlas.Document.Cast

set_option autoImplicit false

/-! Classified units as documents. A record is what a document says of a unit, whose fields need not
be texts. -/

namespace CodeAtlas.Classify

structure UnitRecord where
  name : Document
  kind : Document
  path : Document
  startLine : Int
  endLine : Int
  code : Document
  signature : Document
  imports : List Document
  types : List Document
  calls : List Document
  purpose : Document
  confidence : Float
  domains : List Document
  patterns : List Document
  score : Int
  level : Document
  tags : List Document

def textList (texts : List String) : List Document :=
  texts.map .text

namespace UnitRecord

def id (r : UnitRecord) : String :=
  Source.unitId r.name.toText r.path.toText r.startLine

def toFields (r : UnitRecord) : List (String × Document) :=
  [("id", .text r.id), ("name", r.name), ("kind", r.kind), ("filePath", r.path),
   ("startLine", .int r.startLine), ("endLine", .int r.endLine), ("code", r.code),
   ("signature", r.signature),
   ("context", .object
    [("imports", .list r.imports), ("types", .list r.types), ("calledFunctions", .list r.calls)]),
   ("purpose", r.purpose), ("purposeConfidence", .float r.confidence),
   ("domains", .list r.domains), ("patterns", .list r.patterns),
   ("complexity", .object [("score", .int r.score), ("level", r.level)]),
   ("tags", .list r.tags)]

def toDocument (r : UnitRecord) : Document :=
  .object r.toFields

def listField (name : String) (value : Document) : Except Fault (List Document) := do
  (← value.memberOr name (.list [])).castList

def setField (name : String) (value : Document) : Except Fault (List Document) := do
  (← value.memberOr name (.list [])).castSet

-- A record from its document. Fields are read in a fixed order, which decides between faults.
def read (value : Document) : Except Fault UnitRecord := do
  let context ← value.memberObject "context"
  let complexity ← value.memberObject "complexity"
  let name ← value.required "name"
  let kind ← value.required "kind"
  let path ← value.required "filePath"
  let startLine ← (← value.required "startLine").castInt
  let endLine ← (← value.required "endLine").castInt
  let code ← value.memberOr "code" (.text "")
  let signature ← value.memberOr "signature" (.text "")
  let imports ← listField "imports" context
  let types ← listField "types" context
  let calls ← listField "calledFunctions" context
  let purpose ← value.required "purpose"
  let confidence ← (← value.memberOr "purposeConfidence" (.float 0)).castFloat
  let domains ← setField "domains" value
  let patterns ← setField "patterns" value
  let score ← (← complexity.memberOr "score" (.int 1)).castInt
  let level ← complexity.memberOr "level" (.text "low")
  let tags ← setField "tags" value
  pure
    { name, kind, path, startLine, endLine, code, signature, imports, types, calls, purpose
      confidence, domains, patterns, score, level, tags }

end UnitRecord

def ClassifiedUnit.record (u : ClassifiedUnit) : UnitRecord :=
  { name := .text u.raw.name
    kind := .text u.raw.kind
    path := .text u.raw.path
    startLine := u.raw.startLine
    endLine := u.raw.endLine
    code := .text u.raw.code
    signature := .text u.raw.signature
    imports := textList u.raw.context.imports
    types := textList u.raw.context.types
    calls := textList u.raw.context.calls
    purpose := .text u.purpose
    confidence := u.confidence
    domains := textList u.domains
    patterns := textList u.patterns
    score := u.complexity.score
    level := .text u.complexity.level.label
    tags := textList u.tags }

def ClassifiedUnit.toDocument (u : ClassifiedUnit) : Document :=
  u.record.toDocument

end CodeAtlas.Classify
