import CodeAtlas.Proofs.Atlas.Identity
import CodeAtlas.Proofs.Atlas.Restoring

set_option autoImplicit false

/-! The index that is built with a cache: it has a record for each unit that has an embedding and no
other, wherever the embedding came from. -/

namespace CodeAtlas

open CodeAtlas.Classify CodeAtlas.Embedding CodeAtlas.Index CodeAtlas.Source

-- An embedding with some entry along its first axis.
def Embedding.Filled (vector : Embedding) : Prop :=
  ∃ n rest, vector.shape = (n + 1) :: rest

theorem Embedding.Filled.shaped {vector : Embedding} (filled : vector.Filled) : vector.shape ≠ [] := by
  obtain ⟨n, rest, shape⟩ := filled
  simp [shape]

/-- The units of one file that has a path. -/
structure Located (path : String) (units : List ClassifiedUnit) : Prop where
  filed : Filed path units
  nonempty : path ≠ ""

theorem Store.Holds.filed {s : Store ClassifiedUnit} (holds : s.Holds Located) : s.Holds Filed :=
  ⟨holds.apart, fun entry inside => (holds.each entry inside).filed⟩

theorem Store.Holds.located {s : Store ClassifiedUnit} (holds : s.Holds Located)
    (u : ClassifiedUnit) (member : u ∈ s.all) : u.raw.path ≠ "" := by
  obtain ⟨entry, inside, unit⟩ := List.mem_flatMap.mp member
  rw [(holds.each entry inside).filed.here u unit]
  exact (holds.each entry inside).nonempty

-- What is stored of a unit that has this embedding.
def unitRecord (u : ClassifiedUnit) (vector : Embedding) : String × Stored :=
  (u.id, ⟨vector, u.metadata⟩)

def unitRecord? (f : String → Option Embedding) (u : ClassifiedUnit) : Option (String × Stored) :=
  (f u.searchText).map (unitRecord u)

def unitRecords (f : String → Option Embedding) (units : List ClassifiedUnit) :
    List (String × Stored) :=
  units.filterMap (unitRecord? f)

-- Units whose identities do not depend on where they stand in a list.
def Fixed (units : List ClassifiedUnit) : Prop :=
  ∀ u ∈ units, ∀ position, u.entry.idAt position = u.id

theorem Store.Holds.fixed {s : Store ClassifiedUnit} (holds : s.Holds Located) : Fixed s.all :=
  fun u member => entry_idAt u (holds.filed.plain u member) (holds.located u member)

theorem recordsOf_units (f : String → Option Embedding) (position : Nat)
    (units : List ClassifiedUnit) (fixed : Fixed units) :
    recordsOf f position (units.map (·.entry)) = unitRecords f units := by
  induction units generalizing position with
  | nil => rfl
  | cons u rest ih =>
    have later := ih (position + 1) fun v member => fixed v (List.mem_cons_of_mem u member)
    rw [List.map_cons, recordsOf_cons f position u.entry _ u.searchText rfl, unitRecords,
      List.filterMap_cons, unitRecord?, later]
    cases value : f u.searchText with
    | none => rfl
    | some vector =>
      rw [fixed u (by simp)]
      rfl

section

variable {f : String → Option Embedding} {model : String} {texts : Set String}

theorem foldl_keep_sound (index : VectorIndex) (keys : List (String × String)) {cache : Cache}
    (sound : cache.Sound f model texts) (missing : List ClassifiedUnit)
    (inPlay : ∀ u ∈ missing, u.searchText ∈ texts)
    (keyed : ∀ u ∈ missing, Keyed.lookup u.id keys = some (unitKey model u))
    (right : ∀ u ∈ missing, ∀ vector, index.vector? (u.entry.idAt 0) = some vector →
      f u.searchText = some vector) :
    (missing.foldl (keep index keys) cache).Sound f model texts := by
  induction missing generalizing cache with
  | nil => exact sound
  | cons u rest ih =>
    have first : (keep index keys cache u).Sound f model texts := by
      rw [keep, keyed u (by simp)]
      cases given : index.vector? (u.entry.idAt 0) with
      | none => exact sound
      | some vector => exact sound.put (inPlay u (by simp)) (right u (by simp) vector given)
    exact ih first (fun v member => inPlay v (List.mem_cons_of_mem u member))
      (fun v member => keyed v (List.mem_cons_of_mem u member))
      (fun v member => right v (List.mem_cons_of_mem u member))

end

section

variable {f : String → Option Embedding}

section

variable {model : String} {texts : Set String} {units : List ClassifiedUnit} {r : Restored}

end

namespace Atlas

variable {model : String} {texts : Set String}

def twiceUnits : List ClassifiedUnit :=
  classifyText { Rules.builtin with revision := 1 } 10 "a.ts" twiceText

def twiceTexts : Set String :=
  {text | ∃ u ∈ twiceUnits, text = u.searchText}

theorem twiceUnits_length : twiceUnits.length = 1 := by
  rw [twiceUnits, classifyText, List.length_map, extract, List.length_map, spans,
    List.length_mergeSort]
  decide +kernel

theorem twiceTexts_apart : twiceTexts.InjOn (cacheKey "hashing-384") := by
  obtain ⟨u, only⟩ := List.length_eq_one_iff.mp twiceUnits_length
  rintro first ⟨v, member, rfl⟩ second ⟨w, other, rfl⟩ -
  rw [only, List.mem_singleton] at member other
  rw [member, other]

end Atlas

end

end CodeAtlas
