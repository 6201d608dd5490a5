import CodeAtlas.Digest.Sha256
import CodeAtlas.Embedding.Hashing

set_option autoImplicit false

/-! Backends: what turns texts into embeddings. -/

namespace CodeAtlas.Embedding

/-- A backend embeds a batch of texts as a whole or not at all. `obstacle` is why it cannot be used.
-/
structure Backend where
  model : String
  dimensions : Int
  obstacle : Option BackendProblem
  embed : List String → Except Fault (List Embedding)

namespace Backend

def initialize? (backend : Backend) : Except Fault Unit :=
  match backend.obstacle with
  | none => .ok ()
  | some problem => .error (.backend problem)

def hashing (dimensions : Int) : Backend :=
  { model := s!"hashing-{dimensions}"
    dimensions
    obstacle := none
    embed := fun texts => texts.mapM (hashed dimensions) }

def service (model key : String) : Backend :=
  { model
    dimensions := 1536
    obstacle := if key.isEmpty then some .noKey else none
    embed := fun _ => .error .embeddingFailed }

-- A model on the same machine. It is not installed.
def onDevice (model : String) : Backend :=
  { model
    dimensions := 384
    obstacle := some .notInstalled
    embed := fun _ => .error .embeddingFailed }

def names : List String :=
  ["hashing", "openai", "sentence-transformers"]

def orDefault (default name : String) : String :=
  if name.isEmpty then default else name

-- The backend of a name. An empty model means the usual one.
def named (name model key : String) : Except Fault Backend :=
  match name with
  | "hashing" => .ok (hashing 384)
  | "openai" => .ok (service (orDefault "text-embedding-3-small" model) key)
  | "sentence-transformers" =>
    .ok (onDevice (orDefault "sentence-transformers/all-MiniLM-L6-v2" model))
  | _ => .error (.backend (.unknown name names))

end Backend

def cacheKey (model text : String) : String :=
  Digest.Sha256.leading (Digest.bytesOf (model ++ "\n" ++ text))

end CodeAtlas.Embedding
