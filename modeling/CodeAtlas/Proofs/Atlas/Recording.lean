import CodeAtlas.Proofs.Atlas.Exactness
import CodeAtlas.Proofs.Atlas.Failure

set_option autoImplicit false

/-! What a build records of each unit, whatever the cache holds: the embedding that was restored, or the
one that the backend has for it. An array without entries is neither restored nor made up for. -/

namespace CodeAtlas

open CodeAtlas.Classify CodeAtlas.Embedding CodeAtlas.Index CodeAtlas.Source

/-- The identity under which a unit is looked for once it is stored. -/
def heldId (u : ClassifiedUnit) : String :=
  u.entry.idAt 0

/-- Units of which only the first may be without a path. Where that is so, a unit is stored under one
identity, whether it is restored or embedded. -/
def Led (units : List ClassifiedUnit) : Prop :=
  ∀ u ∈ units.tail, u.raw.path ≠ ""

theorem Store.Holds.led {s : Store ClassifiedUnit} (holds : s.Holds Located) : Led s.all :=
  fun u member => holds.located u (List.mem_of_mem_tail member)

theorem Led.fixed {units : List ClassifiedUnit} (led : Led units)
    (plain : ∀ u ∈ units, Plain u.raw.name) : Fixed units.tail :=
  fun u member => entry_idAt u (plain u (List.mem_of_mem_tail member)) (led u member)

theorem Fixed.idAt_eq {units : List ClassifiedUnit} (fixed : Fixed units) {u : ClassifiedUnit}
    (member : u ∈ units) (position : Int) : u.entry.idAt position = heldId u :=
  (fixed u member position).trans (fixed u member 0).symm

theorem Fixed.mono {units others : List ClassifiedUnit} (fixed : Fixed units)
    (subset : others ⊆ units) : Fixed others :=
  fun u member => fixed u (subset member)

theorem heldIds_nodup {units : List ClassifiedUnit} (led : Led units)
    (plain : ∀ u ∈ units, Plain u.raw.name) (apart : (units.map (·.id)).Nodup) :
    (units.map heldId).Nodup := by
  have fixed := led.fixed plain
  cases units with
  | nil => exact List.nodup_nil
  | cons u rest =>
    rw [List.map_cons, List.nodup_cons] at apart ⊢
    have same : rest.map heldId = rest.map (·.id) :=
      List.map_congr_left fun v member => fixed v member 0
    refine ⟨?_, same ▸ apart.2⟩
    intro member
    obtain ⟨v, inside, equal⟩ := List.mem_map.mp member
    -- A unit that has a path can as well be thought to stand elsewhere.
    have moved : u.entry.idAt 0 = v.entry.idAt 1 := equal.symm.trans (fixed.idAt_eq inside 1).symm
    rcases entry_idAt_inj (plain u (by simp)) (plain v (List.mem_cons_of_mem u inside)) moved with
      places | ids
    · omega
    · exact apart.1 (ids ▸ List.mem_map_of_mem inside)

/-- The record of a unit for which there is an embedding. -/
def heldRecord? (g : ClassifiedUnit → Option Embedding) (u : ClassifiedUnit) :
    Option (String × Stored) :=
  (g u).map fun vector => (heldId u, ⟨vector, u.metadata⟩)

def held (g : ClassifiedUnit → Option Embedding) (units : List ClassifiedUnit) :
    List (String × Stored) :=
  units.filterMap (heldRecord? g)

section

variable {g : ClassifiedUnit → Option Embedding}

theorem held_congr {h : ClassifiedUnit → Option Embedding} {units : List ClassifiedUnit}
    (same : ∀ u ∈ units, g u = h u) : held g units = held h units :=
  List.filterMap_congr fun u member => by rw [heldRecord?, heldRecord?, same u member]

theorem held_cons (u : ClassifiedUnit) (rest : List ClassifiedUnit) :
    held g (u :: rest) = (heldRecord? g u).toList ++ held g rest := by
  rw [held, List.filterMap_cons]
  cases heldRecord? g u <;> rfl

theorem held_append (first second : List ClassifiedUnit) :
    held g (first ++ second) = held g first ++ held g second :=
  List.filterMap_append

theorem keys_held (units : List ClassifiedUnit) :
    ((held g units).map (·.1)).Sublist (units.map heldId) := by
  induction units with
  | nil => exact List.Sublist.refl _
  | cons u rest ih =>
    rw [held_cons, heldRecord?, List.map_cons]
    cases g u with
    | none => exact ih.cons _
    | some vector => exact ih.cons_cons _

theorem lookup_held {ix : VectorIndex} {units : List ClassifiedUnit}
    (perm : ix.records.Perm (held g units)) (apart : (units.map heldId).Nodup)
    {u : ClassifiedUnit} (member : u ∈ units) :
    Keyed.lookup (heldId u) ix.records = (g u).map (⟨·, u.metadata⟩) := by
  have keys := (keys_held (g := g) units).nodup apart
  ext stored
  rw [Keyed.lookup_perm keys perm, Keyed.lookup_eq_some _ _ _ keys, held, List.mem_filterMap]
  simp only [heldRecord?, Option.map_eq_some_iff, Prod.mk.injEq]
  constructor
  · rintro ⟨v, inside, vector, value, same, rfl⟩
    obtain rfl := List.inj_on_of_nodup_map apart inside member same
    exact ⟨vector, value, rfl⟩
  · rintro ⟨vector, value, rfl⟩
    exact ⟨u, member, vector, value, rfl, rfl⟩

theorem vector?_held {ix : VectorIndex} {units : List ClassifiedUnit}
    (perm : ix.records.Perm (held g units)) (apart : (units.map heldId).Nodup)
    {u : ClassifiedUnit} (member : u ∈ units) : ix.vector? (heldId u) = g u := by
  rw [VectorIndex.vector?, lookup_held perm apart member]
  cases g u <;> rfl

end

theorem recordsOf_held (f : String → Option Embedding) (units : List ClassifiedUnit)
    (fixed : Fixed units.tail) :
    recordsOf f 0 (units.map (·.entry)) = held (fun u => f u.searchText) units := by
  cases units with
  | nil => rfl
  | cons u rest =>
    have later : unitRecords f rest = held (fun u => f u.searchText) rest := by
      refine List.filterMap_congr fun v member => ?_
      rw [unitRecord?, heldRecord?, heldId, fixed v member 0]
      rfl
    rw [List.map_cons, recordsOf_cons f 0 u.entry _ u.searchText rfl, recordsOf_units f _ rest fixed,
      later, held_cons]
    rfl

def heldItem? (item : ClassifiedUnit × Embedding) : Option (String × Stored) :=
  heldRecord? (fun _ => restorable item.2) item.1

theorem restoredFrom_fixed (position : Nat) (items : List (ClassifiedUnit × Embedding))
    (fixed : Fixed (items.map (·.1))) :
    restoredFrom position items = items.filterMap heldItem? := by
  induction items generalizing position with
  | nil => rfl
  | cons item rest ih =>
    have later := ih (position + 1) fun v member => fixed v (List.mem_cons_of_mem _ member)
    rw [restoredFrom, later, fixed.idAt_eq (by simp), List.filterMap_cons, heldItem?, heldRecord?]
    cases restorable item.2 <;> rfl

theorem restoredFrom_held (items : List (ClassifiedUnit × Embedding))
    (fixed : Fixed (items.map (·.1)).tail) : restoredFrom 0 items = items.filterMap heldItem? := by
  cases items with
  | nil => rfl
  | cons item rest =>
    rw [restoredFrom, restoredFrom_fixed 1 rest fixed, List.filterMap_cons, heldItem?, heldRecord?]
    cases restorable item.2 <;> rfl

/-- Storing puts the embeddings of `f` in the index, as far as it puts anything there. -/
def Index.VectorIndex.Fills (ix : VectorIndex) (f : String → Option Embedding) : Prop :=
  ∀ units : List ClassifiedUnit, (ix.add (units.map (·.entry))).2.records =
    (recordsOf f 0 (units.map (·.entry))).foldl
      (fun kept record => Keyed.put record.1 record.2 kept) ix.records

theorem Embedding.Backend.Embeds.fills {ix : VectorIndex} {f : String → Option Embedding}
    (embeds : ix.backend.Embeds f) (positive : 0 < ix.batchSize) : ix.Fills f := by
  intro units
  obtain ⟨embedded, added⟩ := VectorIndex.add_eq embeds positive _ _ (readable_units units)
  rw [added]
  rfl

namespace Atlas

variable {f : String → Option Embedding}

/-- The embedding that a build records of a unit. -/
def recorded (a : Atlas) (f : String → Option Embedding) (u : ClassifiedUnit) : Option Embedding :=
  match a.kept? u with
  | some vector => restorable vector
  | none => f u.searchText

theorem recorded_lacking (a : Atlas) : ∀ u ∈ a.lacking, f u.searchText = a.recorded f u := by
  intro u member
  have absent : a.kept? u = none := by simpa using (List.mem_filter.mp member).2
  rw [recorded, absent]

def restoredUnits (a : Atlas) : List ClassifiedUnit :=
  a.store.all.filter fun u => (a.kept? u).isSome

theorem parted (a : Atlas) : (a.restoredUnits ++ a.lacking).Perm a.store.all := by
  have parts := List.filter_append_perm (fun u => (a.kept? u).isSome) a.store.all
  rw [restoredUnits, lacking]
  simpa only [Option.not_isSome] using parts

theorem found_held (a : Atlas) :
    a.found.filterMap heldItem? = held (a.recorded f) a.restoredUnits := by
  rw [found, List.filterMap_filterMap, restoredUnits, held, List.filterMap_filter]
  refine List.filterMap_congr fun u _ => ?_
  rw [heldRecord?, recorded]
  cases a.kept? u <;> rfl

theorem addMissing_records (a : Atlas) (fills : a.index.Fills f) (keys : List (String × String))
    (missing : List ClassifiedUnit) : (a.addMissing keys missing).2.index.records =
      (recordsOf f 0 (missing.map (·.entry))).foldl
        (fun kept record => Keyed.put record.1 record.2 kept) a.index.records := by
  have filled := fills missing
  rw [addMissing]
  split
  next none =>
    rw [List.isEmpty_iff.mp none]
    rfl
  next =>
    split
    next fault index failed => rwa [failed] at filled
    next total index added => rwa [added] at filled

-- Units that the cache has come first, those that it lacks behind them.
theorem build_records (a : Atlas) (shaped : Shaped a.found)
    (fills : (a.restored a.found).index.Fills f) (fixed : Fixed a.store.all.tail)
    (apart : (a.store.all.map heldId).Nodup) : a.build.2.index.records =
      held (a.recorded f) a.restoredUnits ++ held (a.recorded f) a.lacking := by
  have tail {units : List ClassifiedUnit} (sub : units.Sublist a.store.all) : Fixed units.tail :=
    fixed.mono sub.tail.subset
  have first : restoredFrom 0 a.found = held (a.recorded f) a.restoredUnits := by
    rw [restoredFrom_held a.found, found_held]
    rw [found_units]
    exact tail List.filter_sublist
  have second : recordsOf f 0 (a.lacking.map (·.entry)) = held (a.recorded f) a.lacking :=
    (recordsOf_held f a.lacking (tail List.filter_sublist)).trans
      (held_congr (recorded_lacking a))
  have keys : ((held (a.recorded f) a.restoredUnits ++ held (a.recorded f) a.lacking).map
      (·.1)).Nodup := by
    rw [← held_append]
    exact (keys_held _).nodup ((a.parted.map heldId).nodup_iff.mpr apart)
  have before : ((held (a.recorded f) a.restoredUnits).map (·.1)).Nodup := by
    rw [List.map_append, List.nodup_append] at keys
    exact keys.1
  rw [build_shaped a shaped]
  change ((a.restored a.found).addMissing a.newKeys a.lacking).2.index.records = _
  rw [addMissing_records _ fills, second, restored_records, first, Keyed.ofList_apart _ before,
    Keyed.foldl_put_fresh _ _ keys]

theorem build_records_perm (a : Atlas) (shaped : Shaped a.found)
    (fills : (a.restored a.found).index.Fills f) (fixed : Fixed a.store.all.tail)
    (apart : (a.store.all.map heldId).Nodup) :
    a.build.2.index.records.Perm (held (a.recorded f) a.store.all) := by
  rw [build_records a shaped fills fixed apart, ← held_append]
  exact a.parted.filterMap _

section

variable {a : Atlas} {u : ClassifiedUnit} {size : Nat}

end

theorem hashed_total (text : String) :
    ∃ vector, (hashed 384 text).toOption = some vector ∧ vector.shape = [384] := by
  obtain ⟨vector, done, shape⟩ := hashed_ok 384 (by decide) text
  exact ⟨vector, by rw [done]; rfl, shape⟩

end Atlas

end CodeAtlas
