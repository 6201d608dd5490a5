import CodeAtlas.Embedding.Backend
import CodeAtlas.Keyed

set_option autoImplicit false

/-! Embeddings kept from run to run, under keys made of model and text. -/

namespace CodeAtlas.Embedding

/-- What is kept under a key: an embedding, or something that cannot be read. -/
inductive Kept
  | vector (vector : Embedding)
  | unreadable

structure Cache where
  entries : List (String × Kept)

namespace Cache

def empty : Cache :=
  ⟨[]⟩

def size (cache : Cache) : Nat :=
  cache.entries.length

def put (cache : Cache) (key : String) (kept : Kept) : Cache :=
  ⟨Keyed.put key kept cache.entries⟩

-- An entry that cannot be read is dropped.
def get (cache : Cache) (key : String) : Option Embedding × Cache :=
  match Keyed.lookup key cache.entries with
  | some (.vector vector) => (some vector, cache)
  | some .unreadable => (none, ⟨Keyed.erase key cache.entries⟩)
  | none => (none, cache)

end Cache

end CodeAtlas.Embedding
