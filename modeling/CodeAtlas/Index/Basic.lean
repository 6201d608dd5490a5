import CodeAtlas.Classify.Entry
import CodeAtlas.Embedding.Backend

set_option autoImplicit false

/-! The index of units: an embedding and metadata for each identity, in the order of first storing.
-/

namespace CodeAtlas.Index

open CodeAtlas.Classify CodeAtlas.Embedding

structure Stored where
  vector : Embedding
  metadata : Document

/-- `embedded` counts the texts that the backend has taken so far. -/
structure VectorIndex where
  backend : Backend
  batchSize : Int
  records : List (String × Stored)
  ready : Bool
  embedded : Nat

namespace VectorIndex

def empty (backend : Backend) (batchSize : Int) : VectorIndex :=
  ⟨backend, batchSize, [], false, 0⟩

def size (ix : VectorIndex) : Nat :=
  ix.records.length

def vector? (ix : VectorIndex) (id : String) : Option Embedding :=
  (Keyed.lookup id ix.records).map (·.vector)

def put (ix : VectorIndex) (id : String) (stored : Stored) : VectorIndex :=
  { ix with records := Keyed.put id stored ix.records }

def clear (ix : VectorIndex) : VectorIndex :=
  { ix with records := [] }

def prepare (ix : VectorIndex) : Except Fault VectorIndex :=
  if ix.ready then .ok ix
  else ix.backend.initialize?.map fun _ => { ix with ready := true }

def ask (ix : VectorIndex) (texts : List String) : Except Fault (List Embedding) × Nat :=
  match ix.backend.embed texts with
  | .error .embeddingFailed => (.error .embeddingFailed, 0)
  | result => (result, texts.length)

def askOne (ix : VectorIndex) (text : String) : Except Fault Embedding × Nat :=
  match ix.ask [text] with
  | (.ok (vector :: _), taken) => (.ok vector, taken)
  | (.ok [], taken) => (.error .embeddingFailed, taken)
  | (.error fault, taken) => (.error fault, taken)

-- An embedding for each text where there is one. If the batch fails, each text is tried alone.
def embedBatch (ix : VectorIndex) (texts : List String) : List (Option Embedding) × Nat :=
  match ix.ask texts with
  | (.ok vectors, taken) => (vectors.map some, taken)
  | (.error _, taken) =>
    let answers := texts.map ix.askOne
    (answers.map fun answer => answer.1.toOption, taken + (answers.map (·.2)).foldr (· + ·) 0)

-- The entries of a batch with their identities, the first of which stands at `position`.
def withIds (position : Nat) (batch : List Entry) : List (String × Entry) :=
  batch.mapIdx fun i entry => (entry.idAt (position + i), entry)

def storeEach : List ((String × Entry) × Option Embedding) → VectorIndex → VectorIndex
  | [], ix => ix
  | ((id, entry), some vector) :: rest, ix => storeEach rest (ix.put id ⟨vector, entry.metadata⟩)
  | (_, none) :: rest, ix => storeEach rest ix

def addBatch (ix : VectorIndex) (position : Nat) (batch : List Entry) :
    Except Fault (Nat × VectorIndex) := do
  let texts ← batch.mapM (·.searchText)
  let (vectors, taken) := ix.embedBatch texts
  let stored := storeEach ((withIds position batch).zip vectors) ix
  pure ((vectors.filter (·.isSome)).length, { stored with embedded := stored.embedded + taken })

-- Batch after batch. A fault ends it, and what was stored before stays.
def addBatches (size : Nat) : Nat → Nat → Nat → List Entry → VectorIndex →
    Except Fault Nat × VectorIndex
  | 0, stored, _, _, ix => (.ok stored, ix)
  | _, stored, _, [], ix => (.ok stored, ix)
  | fuel + 1, stored, position, entries, ix =>
    match ix.addBatch position (entries.take size) with
    | .ok (more, ix) =>
      addBatches size fuel (stored + more) (position + size) (entries.drop size) ix
    | .error fault => (.error fault, ix)

-- Embed and store entries. No batch is of size zero, and there is none of a negative size.
def add (ix : VectorIndex) (entries : List Entry) : Except Fault Nat × VectorIndex :=
  match ix.prepare with
  | .error fault => (.error fault, ix)
  | .ok ix =>
    if ix.batchSize == 0 then (.error .badValue, ix)
    else if ix.batchSize < 0 then (.ok 0, ix)
    else addBatches ix.batchSize.toNat entries.length 0 0 entries ix

end VectorIndex

end CodeAtlas.Index
