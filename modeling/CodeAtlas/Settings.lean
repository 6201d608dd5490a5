import CodeAtlas.Keyed
import CodeAtlas.Number.Read
import CodeAtlas.Source.Extract
import CodeAtlas.Text.Lower

set_option autoImplicit false

/-! Settings, taken from the environment. -/

namespace CodeAtlas

open CodeAtlas.Number CodeAtlas.Text

abbrev Environment := List (String × String)

/-- An empty text stands for no model, key or cache. -/
structure Settings where
  rulesPath : String
  backend : String
  model : String
  key : String
  cacheFolder : String
  batchSize : Int
  workers : Int
  least : Int
  pollSeconds : Float

namespace Settings

def defaultRulesPath : String := "./heuristics-config.json"

def valueOf (env : Environment) (name : String) : Option String :=
  Keyed.lookup name env

-- A whole number of at least `least`. What is no number does not count.
def intOf (env : Environment) (name : String) (default least : Int) : Int :=
  match (valueOf env name).bind fun raw => readInt raw.toList with
  | some n => max n least
  | none => default

def leastPoll : Float := 0.1

-- A number of seconds, no shorter than a tenth. What is no number does not count.
def secondsOf (env : Environment) (name : String) (default : Float) : Float :=
  match (valueOf env name).bind fun raw => readFloat raw.toList with
  | some x => if x < leastPoll then leastPoll else x
  | none => default

def ofEnvironment (env : Environment) : Settings :=
  { rulesPath := (valueOf env "CODEINDEX_RULES_PATH").getD defaultRulesPath
    backend := lower (strip ((valueOf env "CODEINDEX_EMBEDDING_BACKEND").getD "hashing"))
    model := (valueOf env "CODEINDEX_EMBEDDING_MODEL").getD ""
    key := (valueOf env "OPENAI_API_KEY").getD ""
    cacheFolder := (valueOf env "CODEINDEX_CACHE_DIR").getD ".embeddings_cache"
    batchSize := intOf env "CODEINDEX_BATCH_SIZE" 32 1
    workers := intOf env "CODEINDEX_WORKERS" 4 1
    least := intOf env "CODEINDEX_MIN_BODY_SIZE" Source.defaultLeast 0
    pollSeconds := secondsOf env "CODEINDEX_CONFIG_POLL_SECONDS" 2 }

end Settings

end CodeAtlas
