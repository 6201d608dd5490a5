import CodeAtlas.Proofs.Index.Storing

set_option autoImplicit false

/-! Batches leave no trace: what is stored of units is what one gets by storing them one at a time, wherever
the batches begin and whichever of them fail. -/

namespace CodeAtlas.Index

open CodeAtlas.Classify CodeAtlas.Embedding

/-- Units stored one at a time, the first of which stands at `position`. One that has an embedding takes the
place of what is there under its identity. -/
def storeSingly (f : String → Option Embedding) :
    Nat → List ClassifiedUnit → List (String × Stored) → List (String × Stored)
  | _, [], records => records
  | position, u :: later, records =>
    match f u.searchText with
    | some vector =>
      storeSingly f (position + 1) later
        (Keyed.put (recordId position u.raw.name u.raw.path s!"{u.raw.startLine}")
          ⟨vector, u.metadata⟩ records)
    | none => storeSingly f (position + 1) later records

section

variable {f : String → Option Embedding}

theorem storeSingly_eq (position : Nat) (units : List ClassifiedUnit)
    (records : List (String × Stored)) : storeSingly f position units records =
      (recordsOf f position (units.map (·.entry))).foldl
        (fun kept record => Keyed.put record.1 record.2 kept) records := by
  induction units generalizing position records with
  | nil => rfl
  | cons u later ih =>
    rw [List.map_cons, recordsOf_cons f position u.entry _ u.searchText rfl, List.foldl_append,
      storeSingly]
    cases f u.searchText with
    | none => exact ih (position + 1) records
    | some vector => exact ih (position + 1) _

theorem recordsOf_count (position : Nat) (units : List ClassifiedUnit) :
    (recordsOf f position (units.map (·.entry))).length =
      (units.filter fun u => (f u.searchText).isSome).length := by
  rw [VectorIndex.recordsOf_length position _ _ (readable_units units), List.map_map,
    List.filter_map, List.length_map]
  rfl

/-- What storing units comes to: how many have an embedding, and the records as of storing them one at a
time. -/
structure StoredSingly (f : String → Option Embedding) (ix : VectorIndex)
    (units : List ClassifiedUnit) (result : Except Fault Nat × VectorIndex) : Prop where
  answer : result.1 = .ok (units.filter fun u => (f u.searchText).isSome).length
  records : result.2.records = storeSingly f 0 units ix.records

theorem Service.Gives.stored {service : Service} (gives : service.Gives f) {ix : VectorIndex}
    (usable : ix.Usable) (sized : 0 < ix.batchSize) (units : List ClassifiedUnit) :
    StoredSingly f ix units (service.add (units.map (·.entry)) ix) := by
  obtain ⟨embedded, added⟩ := Service.add_eq gives usable sized _ _ (readable_units units)
  rw [added]
  exact ⟨by rw [recordsOf_count], (storeSingly_eq 0 units ix.records).symm⟩

/-- Whatever the size of batches, and however they fail: as long as each text has one embedding or none, units
are stored as they would be one at a time. The backend of the index is such a service. -/
theorem add_singly (f : String → Option Embedding) (ix : VectorIndex) (usable : ix.Usable)
    (sized : 0 < ix.batchSize) (units : List ClassifiedUnit) :
    (∀ service : Service, service.Gives f →
      StoredSingly f ix units (service.add (units.map (·.entry)) ix)) ∧
    ix.service.add (units.map (·.entry)) ix = ix.add (units.map (·.entry)) ∧
    (ix.backend.Embeds f → StoredSingly f ix units (ix.add (units.map (·.entry)))) := by
  have all (service : Service) (gives : service.Gives f) := gives.stored usable sized units
  have own := VectorIndex.add_service ix (units.map (·.entry))
  exact ⟨all, own, fun embeds => own ▸ all ix.service (VectorIndex.gives embeds)⟩

/-- A service whose batches fail at some positions, and wherever a text in them has no embedding. -/
def Service.failing (f : String → Option Embedding) (fails : Nat → Bool) : Service where
  batch position texts :=
    if fails position || texts.any (fun text => (f text).isNone) then (.error .embeddingFailed, 0)
    else (.ok (texts.filterMap f), texts.length)
  single _ text :=
    match f text with
    | some vector => (.ok vector, 1)
    | none => (.error .embeddingFailed, 0)

theorem map_eq_filterMap {texts : List String} (all : ∀ text ∈ texts, (f text).isSome = true) :
    texts.map f = (texts.filterMap f).map some := by
  induction texts with
  | nil => rfl
  | cons text rest ih =>
    obtain ⟨vector, value⟩ := Option.isSome_iff_exists.mp (all text List.mem_cons_self)
    rw [List.map_cons, List.filterMap_cons_some value, List.map_cons, value,
      ih fun other member => all other (List.mem_cons_of_mem text member)]

theorem Service.failing_gives (fails : Nat → Bool) : (Service.failing f fails).Gives f where
  batch position texts vectors answer := by
    simp only [Service.failing] at answer
    split at answer
    · cases answer
    · next whole =>
      obtain rfl := Except.ok.inj answer
      refine map_eq_filterMap fun text member => ?_
      simp only [Bool.or_eq_true, List.any_eq_true, not_or, not_exists, not_and] at whole
      exact Option.isSome_iff_ne_none.mpr (by simpa using whole.2 text member)
  alone position text := by
    simp only [Service.failing]
    cases f text <;> rfl

end

def plainUnit (name path code : String) : ClassifiedUnit :=
  { raw :=
      { name, kind := "function", path, startLine := 1, endLine := 1, code, signature := ""
        context := {} }
    purpose := "Helper"
    confidence := 1
    domains := []
    patterns := []
    complexity := ⟨1, .low⟩
    tags := [] }

/-- The length of a text that is short enough. -/
def shortLength (text : String) : Option Embedding :=
  if text.length < 60 then some (.ofList [Float32.ofNat text.length]) else none

/-- In batches of two, the first of which is refused for one of its texts and the last one without a reason: a
unit that comes again takes the place of its first record. -/
theorem add_singly_twice :
    let units := [plainUnit "a" "x.js" "a()", plainUnit "b" "" "b()",
      plainUnit "c" "x.js" "let c = first() + second() + third();", plainUnit "d" "" "d()",
      plainUnit "a" "x.js" "a(1)"]
    let ix := VectorIndex.empty (.hashing 8) 2
    let service := Service.failing shortLength (· == 4)
    ix.Usable ∧ 0 < ix.batchSize ∧ service.Gives shortLength ∧
      (service.add (units.map (·.entry)) ix).1 = .ok 4 ∧
      (service.add (units.map (·.entry)) ix).2.records.map (·.1) = ["a:x.js:1", "chunk-1", "chunk-3"] := by
  intro units ix service
  have gives : service.Gives shortLength := Service.failing_gives _
  have stored := (add_singly shortLength ix (.inr rfl) (by decide) units).1 service gives
  refine ⟨.inr rfl, by decide, gives, ?_, ?_⟩
  · rw [stored.answer]
    decide +kernel
  · rw [stored.records]
    decide +kernel

end CodeAtlas.Index
