import CodeAtlas.Index.Basic

set_option autoImplicit false

/-! Storing what already has an embedding. The backend is not asked. -/

namespace CodeAtlas.Index

open CodeAtlas.Classify

-- An embedding with no entries along its first axis counts as none.
def usable (vector : Embedding) : Except Fault (Option Embedding) :=
  match vector.shape with
  | [] => .error .wrongType
  | 0 :: _ => .ok none
  | _ => .ok (some vector)

def givenVector : Document → Except Fault (Option Embedding)
  | .null => .ok none
  | .list items => do usable (← Embedding.ofDocument (.list items))
  | .text s => if s.isEmpty then .ok none else (Embedding.ofDocument (.text s)).map some
  | .object fields => if fields.isEmpty then .ok none else .error .wrongType
  | _ => .error .wrongType

/-- A unit with its embedding, or a document that describes both. -/
inductive Precomputed
  | unit (entry : Entry) (vector : Except Fault (Option Embedding))
  | described (value : Document)

def fieldOr (name : String) (default value : Document) : Document :=
  (value.field? name).getD default

-- The identity that a document gives itself, or that of the unit it describes.
def describedId (position : Nat) (value : Document) : String :=
  let own := fieldOr "id" .null value
  if own.isPresent then own.toText
  else
    let line := fieldOr "startLine" .null value
    recordId position (presentText (fieldOr "name" .null value))
      (presentText (fieldOr "filePath" .null value)) (if line.isNull then "" else line.toText)

def describedMetadata (value : Document) : Except Fault Document := do
  let own := fieldOr "metadata" .null value
  if own.isPresent then pure own
  else
    let path := fieldOr "filePath" .null value
    let domains ← (fieldOr "domains" (.list []) value).castList
    let patterns ← (fieldOr "patterns" (.list []) value).castList
    pure (.object
      [("content", fieldOr "code" (.text "") value), ("name", fieldOr "name" .null value),
       ("filePath", path), ("purpose", fieldOr "purpose" (.text "") value),
       ("domains", .list domains), ("patterns", .list patterns),
       ("files", .list (if path.isPresent then [path] else []))])

-- The record of an item, unless it has no embedding.
def Precomputed.record (position : Nat) :
    Precomputed → Except Fault (Option (String × Stored))
  | .unit entry vector => do
    pure ((← vector).map fun v => (entry.idAt position, ⟨v, entry.metadata⟩))
  | .described (.object fields) => do
    let value := Document.object fields
    let metadata ← describedMetadata value
    let vector ← givenVector (fieldOr "embedding" .null value)
    pure (vector.map fun v => (describedId position value, ⟨v, metadata⟩))
  | .described _ => .error .noSuchOperation

namespace VectorIndex

-- Item after item. A fault ends it, and what was stored before stays.
def addPrecomputedFrom : Nat → Nat → List Precomputed → VectorIndex →
    Except Fault Nat × VectorIndex
  | _, stored, [], ix => (.ok stored, ix)
  | position, stored, item :: items, ix =>
    match item.record position with
    | .ok (some (id, record)) =>
      addPrecomputedFrom (position + 1) (stored + 1) items (ix.put id record)
    | .ok none => addPrecomputedFrom (position + 1) stored items ix
    | .error fault => (.error fault, ix)

def addPrecomputed (ix : VectorIndex) (items : List Precomputed) :
    Except Fault Nat × VectorIndex :=
  addPrecomputedFrom 0 0 items ix

end VectorIndex

end CodeAtlas.Index
