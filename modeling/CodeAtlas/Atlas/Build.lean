import CodeAtlas.Atlas.Basic
import CodeAtlas.Index.Precomputed

set_option autoImplicit false

/-! The index built anew from the store, with embeddings taken from the cache where it has them. -/

namespace CodeAtlas

open CodeAtlas.Classify CodeAtlas.Embedding CodeAtlas.Index

/-- The units of a store, apart by whether the cache has their embedding. `keys` are for those that
it lacks, by identity. -/
structure Restored where
  cached : List (ClassifiedUnit × Embedding)
  missing : List ClassifiedUnit
  keys : List (String × String)
  cache : Cache

def unitKey (model : String) (u : ClassifiedUnit) : String :=
  cacheKey model u.searchText

def restore (model : String) (r : Restored) (u : ClassifiedUnit) : Restored :=
  let key := unitKey model u
  match r.cache.get key with
  | (some vector, cache) => { r with cached := r.cached ++ [(u, vector)], cache := cache }
  | (none, cache) =>
    { r with missing := r.missing ++ [u], keys := Keyed.put u.id key r.keys, cache := cache }

def restoreAll (model : String) (cache : Cache) (units : List ClassifiedUnit) : Restored :=
  units.foldl (restore model) ⟨[], [], [], cache⟩

def keep (index : VectorIndex) (keys : List (String × String)) (cache : Cache)
    (u : ClassifiedUnit) : Cache :=
  match Keyed.lookup u.id keys, index.vector? (u.entry.idAt 0) with
  | some key, some vector => cache.put key (.vector vector)
  | _, _ => cache

def cachedItem (item : ClassifiedUnit × Embedding) : Precomputed :=
  .unit item.1.entry (usable item.2)

namespace Atlas

def addMissing (a : Atlas) (keys : List (String × String)) (missing : List ClassifiedUnit) :
    Except Fault Unit × Atlas :=
  if missing.isEmpty then (.ok (), a)
  else
    match a.index.add (missing.map (·.entry)) with
    | (.error fault, index) => (.error fault, { a with index := index })
    | (.ok _, index) =>
      (.ok (), { a with
        index := index
        cache := a.cache.map fun cache => missing.foldl (keep index keys) cache })

def addCached (a : Atlas) (cached : List (ClassifiedUnit × Embedding)) :
    Except Fault Unit × Atlas :=
  match a.index.addPrecomputed (cached.map cachedItem) with
  | (.error fault, index) => (.error fault, { a with index := index })
  | (.ok _, index) => (.ok (), { a with index := index })

def build (a : Atlas) : Except Fault Nat × Atlas :=
  let units := a.store.all
  let a := { a with index := a.index.clear }
  match a.cache with
  | none =>
    let (outcome, a) := a.addMissing [] units
    (outcome.map fun _ => a.index.size, a)
  | some cache =>
    let r := restoreAll a.index.backend.model cache units
    let a := { a with cache := some r.cache }
    match a.addCached r.cached with
    | (.error fault, a) => (.error fault, a)
    | (.ok _, a) =>
      let (outcome, a) := a.addMissing r.keys r.missing
      (outcome.map fun _ => a.index.size, a)

end Atlas

end CodeAtlas
