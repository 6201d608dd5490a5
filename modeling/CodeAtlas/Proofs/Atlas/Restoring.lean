import CodeAtlas.Atlas.Build
import CodeAtlas.Proofs.Embedding.Cache
import CodeAtlas.Proofs.Index.Storing
import Mathlib.Data.List.Nodup

set_option autoImplicit false

/-! A build step by step, whatever the cache holds: the units that it has embeddings for are restored, and
the others are embedded. -/

namespace CodeAtlas

open CodeAtlas.Classify CodeAtlas.Embedding CodeAtlas.Index

/-- What is restored of an embedding. Nothing is, if there is nothing along its first axis. -/
def restorable (vector : Embedding) : Option Embedding :=
  if vector.shape.head? = some 0 then none else some vector

theorem usable_shaped {vector : Embedding} (shaped : vector.shape ≠ []) :
    usable vector = .ok (restorable vector) := by
  rw [usable, restorable]
  cases shape : vector.shape with
  | nil => exact absurd shape shaped
  | cons n rest =>
    cases n with
    | zero => rfl
    | succ n => rfl

/-- The records of units with embeddings from the cache, the first of which stands at `position`. -/
def restoredFrom : Nat → List (ClassifiedUnit × Embedding) → List (String × Stored)
  | _, [] => []
  | position, (u, vector) :: rest =>
    ((restorable vector).map fun v => (u.entry.idAt position, ⟨v, u.metadata⟩)).toList ++
      restoredFrom (position + 1) rest

/-- Each embedding has an axis. -/
def Shaped (items : List (ClassifiedUnit × Embedding)) : Prop :=
  ∀ item ∈ items, item.2.shape ≠ []

-- Restoring gets as far as the embeddings have axes.
theorem addPrecomputedFrom_shaped (position stored : Nat)
    (before rest : List (ClassifiedUnit × Embedding)) (ix : VectorIndex) (shaped : Shaped before) :
    VectorIndex.addPrecomputedFrom position stored ((before ++ rest).map cachedItem) ix =
      VectorIndex.addPrecomputedFrom (position + before.length)
        (stored + (restoredFrom position before).length) (rest.map cachedItem)
        (ix.withRecords (restoredFrom position before) ix.embedded) := by
  induction before generalizing position stored ix with
  | nil => rfl
  | cons item before ih =>
    obtain ⟨u, vector⟩ := item
    have later (position stored : Nat) (ix : VectorIndex) := ih position stored ix
      fun other member => shaped other (List.mem_cons_of_mem _ member)
    have place : position + ((u, vector) :: before).length = position + 1 + before.length := by
      rw [List.length_cons]
      omega
    have record : (cachedItem (u, vector)).record position =
        .ok ((restorable vector).map fun v => (u.entry.idAt position, ⟨v, u.metadata⟩)) := by
      simp only [cachedItem, Precomputed.record, usable_shaped (shaped (u, vector) (by simp))]
      rfl
    rw [List.cons_append, List.map_cons, VectorIndex.addPrecomputedFrom, record, place,
      restoredFrom]
    cases restorable vector with
    | none => exact later (position + 1) stored ix
    | some v =>
      have count : stored + ((u.entry.idAt position, (⟨v, u.metadata⟩ : Stored)) ::
          restoredFrom (position + 1) before).length =
            stored + 1 + (restoredFrom (position + 1) before).length := by
        rw [List.length_cons]
        omega
      simp only [Option.map_some, Option.toList_some, List.singleton_append, count]
      rw [later]
      rfl

theorem map_fst_filterMap (kept : ClassifiedUnit → Option Embedding) (units : List ClassifiedUnit) :
    (units.filterMap fun u => (kept u).map (u, ·)).map (·.1) =
      units.filter fun u => (kept u).isSome := by
  induction units with
  | nil => rfl
  | cons u rest ih =>
    rw [List.filterMap_cons, List.filter_cons]
    cases kept u with
    | none => exact ih
    | some vector => simp [ih]

section

variable {model : String} {cache : Cache}

/-- How units were looked up in a cache, which can be read as before. -/
structure LookedUp (model : String) (cache : Cache) (units : List ClassifiedUnit) (r : Restored) :
    Prop where
  found : r.cached = units.filterMap fun u => (cache.vector? (unitKey model u)).map (u, ·)
  lacking : r.missing = units.filter fun u => (cache.vector? (unitKey model u)).isNone
  reads : ∀ key, r.cache.vector? key = cache.vector? key
  keyed : ∀ u ∈ r.missing, (∀ v ∈ units, v.id = u.id → v = u) →
    Keyed.lookup u.id r.keys = some (unitKey model u)

theorem LookedUp.key_next {units : List ClassifiedUnit} {r : Restored}
    (looked : LookedUp model cache units r) (u v : ClassifiedUnit) (member : v ∈ r.missing ++ [u])
    (alone : ∀ w ∈ units ++ [u], w.id = v.id → w = v) :
    Keyed.lookup v.id (Keyed.put u.id (unitKey model u) r.keys) = some (unitKey model v) := by
  rw [Keyed.lookup_put]
  split
  next same =>
    rw [alone u (by simp) (beq_iff_eq.mp same)]
  next differs =>
    rcases List.mem_append.mp member with old | new
    · exact looked.keyed v old fun w inside => alone w (List.mem_append_left _ inside)
    · rw [List.mem_singleton.mp new] at differs
      simp at differs

theorem LookedUp.next {units : List ClassifiedUnit} {r : Restored}
    (looked : LookedUp model cache units r) (u : ClassifiedUnit) :
    LookedUp model cache (units ++ [u]) (restore model r u) := by
  have answer := Cache.get_fst r.cache (unitKey model u)
  have reads := Cache.vector?_get r.cache (unitKey model u)
  rw [looked.reads] at answer
  rw [restore]
  cases given : r.cache.get (unitKey model u) with
  | mk vector after =>
    rw [given] at answer reads
    cases vector with
    | some vector =>
      refine ⟨?_, ?_, fun key => (reads key).trans (looked.reads key), ?_⟩
      · simp [looked.found, ← answer]
      · simp [looked.lacking, ← answer]
      · exact fun v member alone =>
          looked.keyed v member fun w inside => alone w (List.mem_append_left _ inside)
    | none =>
      refine ⟨?_, ?_, fun key => (reads key).trans (looked.reads key), looked.key_next u⟩
      · simp [looked.found, ← answer]
      · simp [looked.lacking, ← answer]

theorem LookedUp.all {done : List ClassifiedUnit} {r : Restored}
    (looked : LookedUp model cache done r) (rest : List ClassifiedUnit) :
    LookedUp model cache (done ++ rest) (rest.foldl (restore model) r) := by
  induction rest generalizing done r with
  | nil => simpa using looked
  | cons u rest ih => simpa using ih (looked.next u)

-- Each unit was either found or is lacking.
theorem LookedUp.parted {units : List ClassifiedUnit} {r : Restored}
    (looked : LookedUp model cache units r) : (r.cached.map (·.1) ++ r.missing).Perm units := by
  rw [looked.found, looked.lacking, map_fst_filterMap]
  simpa using List.filter_append_perm
    (fun u => (cache.vector? (unitKey model u)).isSome) units

theorem restoreAll_lookedUp (model : String) (cache : Cache) (units : List ClassifiedUnit) :
    LookedUp model cache units (restoreAll model cache units) := by
  have start : LookedUp model cache [] ⟨[], [], [], cache⟩ :=
    ⟨rfl, rfl, fun _ => rfl, fun _ member => absurd member List.not_mem_nil⟩
  exact start.all units

end

namespace Atlas

/-- The embedding that the cache has for a unit. -/
def kept? (a : Atlas) (u : ClassifiedUnit) : Option Embedding :=
  a.cache.bind fun cache => cache.vector? (unitKey a.index.backend.model u)

def found (a : Atlas) : List (ClassifiedUnit × Embedding) :=
  a.store.all.filterMap fun u => (a.kept? u).map (u, ·)

def lacking (a : Atlas) : List ClassifiedUnit :=
  a.store.all.filter fun u => (a.kept? u).isNone

-- The atlas when the units have been looked up, and nothing is stored again yet.
def emptied (a : Atlas) : Atlas :=
  { a with
    index := a.index.clear
    cache := a.cache.map fun cache => (restoreAll a.index.backend.model cache a.store.all).cache }

def newKeys (a : Atlas) : List (String × String) :=
  (a.cache.map fun cache => (restoreAll a.index.backend.model cache a.store.all).keys).getD []

theorem kept?_uncached {a : Atlas} (uncached : a.cache = none) (u : ClassifiedUnit) :
    a.kept? u = none := by
  rw [kept?, uncached]
  rfl

theorem kept?_cached {a : Atlas} {cache : Cache} (cached : a.cache = some cache)
    (u : ClassifiedUnit) : a.kept? u = cache.vector? (unitKey a.index.backend.model u) := by
  rw [kept?, cached]
  rfl

theorem found_uncached {a : Atlas} (uncached : a.cache = none) : a.found = [] := by
  simp [found, kept?_uncached uncached]

theorem lacking_uncached {a : Atlas} (uncached : a.cache = none) : a.lacking = a.store.all := by
  simp [lacking, kept?_uncached uncached]

theorem found_units (a : Atlas) :
    a.found.map (·.1) = a.store.all.filter fun u => (a.kept? u).isSome :=
  map_fst_filterMap a.kept? a.store.all

theorem mem_found {a : Atlas} {u : ClassifiedUnit} {vector : Embedding} :
    (u, vector) ∈ a.found ↔ u ∈ a.store.all ∧ a.kept? u = some vector := by
  simp [found, List.mem_filterMap, Option.map_eq_some_iff]

-- A build with or without a cache, which is one that has no embeddings.
theorem build_eq (a : Atlas) : a.build =
    match a.emptied.addCached a.found with
    | (.error fault, b) => (.error fault, b)
    | (.ok _, b) =>
      let (outcome, c) := b.addMissing a.newKeys a.lacking
      (outcome.map fun _ => c.index.size, c) := by
  cases cached : a.cache with
  | none =>
    rw [found_uncached cached, lacking_uncached cached]
    simp only [build, emptied, newKeys, cached]
    rfl
  | some cache =>
    have looked := restoreAll_lookedUp a.index.backend.model cache a.store.all
    have found : (restoreAll a.index.backend.model cache a.store.all).cached = a.found := by
      rw [looked.found, Atlas.found]
      simp only [kept?_cached cached]
    have lacking : (restoreAll a.index.backend.model cache a.store.all).missing = a.lacking := by
      rw [looked.lacking, Atlas.lacking]
      simp only [kept?_cached cached]
    simp only [build, emptied, newKeys, cached]
    rw [← found, ← lacking]
    rfl

-- What was lacking has its key, as far as its identity is its own.
theorem newKeys_lacking (a : Atlas) {cache : Cache} (cached : a.cache = some cache)
    (apart : (a.store.all.map (·.id)).Nodup) {u : ClassifiedUnit} (member : u ∈ a.lacking) :
    Keyed.lookup u.id a.newKeys = some (unitKey a.index.backend.model u) := by
  have looked := restoreAll_lookedUp a.index.backend.model cache a.store.all
  have lacking : (restoreAll a.index.backend.model cache a.store.all).missing = a.lacking := by
    rw [looked.lacking, Atlas.lacking]
    simp only [kept?_cached cached]
  rw [newKeys, cached]
  refine looked.keyed u (lacking ▸ member) fun v inside same => ?_
  exact List.inj_on_of_nodup_map apart inside (List.mem_filter.mp member).1 same

/-- Atlases with the same rules and units. Their indexes and caches may differ. -/
structure Alike (a b : Atlas) : Prop where
  book_eq : b.book = a.book
  store_eq : b.store = a.store
  least_eq : b.least = a.least
  generations_eq : b.generations = a.generations
  generation_eq : b.generation = a.generation

theorem Alike.trans {a b c : Atlas} (first : Alike a b) (second : Alike b c) : Alike a c :=
  ⟨second.book_eq.trans first.book_eq, second.store_eq.trans first.store_eq,
    second.least_eq.trans first.least_eq, second.generations_eq.trans first.generations_eq,
    second.generation_eq.trans first.generation_eq⟩

theorem addCached_alike (a : Atlas) (items : List (ClassifiedUnit × Embedding)) :
    Alike a (a.addCached items).2 := by
  rw [addCached]
  split <;> exact ⟨rfl, rfl, rfl, rfl, rfl⟩

theorem addMissing_alike (a : Atlas) (keys : List (String × String))
    (missing : List ClassifiedUnit) : Alike a (a.addMissing keys missing).2 := by
  rw [addMissing]
  split
  · exact ⟨rfl, rfl, rfl, rfl, rfl⟩
  · split <;> exact ⟨rfl, rfl, rfl, rfl, rfl⟩

theorem build_alike (a : Atlas) : Alike a a.build.2 := by
  have emptied : Alike a a.emptied := ⟨rfl, rfl, rfl, rfl, rfl⟩
  have restored := emptied.trans (addCached_alike a.emptied a.found)
  rw [build_eq]
  split
  next fault b failed => rwa [failed] at restored
  next b done =>
    rw [done] at restored
    exact restored.trans (addMissing_alike b a.newKeys a.lacking)

theorem addCached_shaped (a : Atlas) (items : List (ClassifiedUnit × Embedding))
    (shaped : Shaped items) : a.addCached items = (.ok (), { a with
      index := a.index.withRecords (restoredFrom 0 items) a.index.embedded }) := by
  have whole := addPrecomputedFrom_shaped 0 0 items [] a.index shaped
  rw [List.append_nil] at whole
  rw [addCached, VectorIndex.addPrecomputed, whole]
  rfl

end Atlas

end CodeAtlas
