import CodeAtlas.Classify.Record

set_option autoImplicit false

/-! What the index keeps of a unit: its identity, the text it is found by and what is shown of it. -/

namespace CodeAtlas.Classify

open CodeAtlas.Text

def recordId (position : Int) (name path line : String) : String :=
  if name.isEmpty || path.isEmpty then s!"chunk-{position}" else s!"{name}:{path}:{line}"

def labelled (label : String) (texts : List String) : List String :=
  if texts.isEmpty then [] else [label ++ ": " ++ join ", " texts]

def textsOf (text : String) : List String :=
  if text.isEmpty then [] else [text]

-- Parts of the search text. A part about nothing is left out.
def searchParts (code purpose : String) (domains patterns files : List String) : List String :=
  textsOf code ++ labelled "Type" (textsOf purpose) ++ labelled "Domain" domains ++
  labelled "Patterns" patterns ++ labelled "Purpose" (textsOf purpose) ++
  labelled "Files" (files.map Source.baseName)

def joinParts (parts : List String) : String :=
  join " | " parts

def ClassifiedUnit.searchText (u : ClassifiedUnit) : String :=
  joinParts (searchParts u.raw.code u.purpose u.domains u.patterns (textsOf u.raw.path))

def presentText (value : Document) : String :=
  if value.isPresent then value.toText else ""

def allTexts (values : List Document) : Except Fault (List String) :=
  match values.mapM Document.text? with
  | some texts => .ok texts
  | none => .error .wrongType

-- The text of a value that may be absent but has to be a text otherwise.
def textOr (fault : Fault) (value : Document) : Except Fault String :=
  match value with
  | .text s => .ok s
  | _ => if value.isPresent then .error fault else .ok ""

namespace UnitRecord

def searchText (r : UnitRecord) : Except Fault String := do
  let domains ← allTexts r.domains
  let patterns ← allTexts r.patterns
  let path ← textOr .noSuchOperation r.path
  let code ← textOr .wrongType r.code
  pure (joinParts (searchParts code (presentText r.purpose) domains patterns (textsOf path)))

def orEmptyText (value : Document) : Document :=
  if value.isPresent then value else .text ""

def files (r : UnitRecord) : List Document :=
  if r.path.isPresent then [r.path] else []

def metadata (r : UnitRecord) : Document :=
  .object
    [("content", orEmptyText r.code), ("name", r.name), ("filePath", r.path),
     ("startLine", .int r.startLine), ("kind", r.kind), ("purpose", r.purpose),
     ("domains", .list r.domains), ("patterns", .list r.patterns), ("files", .list r.files),
     ("complexity", .int r.score)]

end UnitRecord

def ClassifiedUnit.metadata (u : ClassifiedUnit) : Document :=
  u.record.metadata

/-- A unit as the index takes it. -/
structure Entry where
  name : String
  path : String
  line : String
  searchText : Except Fault String
  metadata : Document

def Entry.idAt (e : Entry) (position : Int) : String :=
  recordId position e.name e.path e.line

def ClassifiedUnit.entry (u : ClassifiedUnit) : Entry :=
  { name := u.raw.name
    path := u.raw.path
    line := s!"{u.raw.startLine}"
    searchText := .ok u.searchText
    metadata := u.metadata }

def UnitRecord.entry (r : UnitRecord) : Entry :=
  { name := presentText r.name
    path := presentText r.path
    line := s!"{r.startLine}"
    searchText := r.searchText
    metadata := r.metadata }

end CodeAtlas.Classify
