import CodeAtlas.Index.Basic

set_option autoImplicit false

/-! Storing where the answers of the backend may change from call to call. A run of batches is the same
whether the index asks its own backend or a service that answers as this one does. -/

namespace CodeAtlas.Index

open CodeAtlas.Classify CodeAtlas.Embedding

/-- What a backend answers while entries are stored: to the batch that begins at a position, and to the text
at a position when it is tried alone, with the number of texts taken. At another position it may have another
answer to the same texts. -/
structure Service where
  batch : Nat → List String → Except Fault (List Embedding) × Nat
  single : Nat → String → Except Fault Embedding × Nat

namespace Service

variable (service : Service)

def embedBatch (position : Nat) (texts : List String) : List (Option Embedding) × Nat :=
  match service.batch position texts with
  | (.ok vectors, taken) => (vectors.map some, taken)
  | (.error _, taken) =>
    let answers := texts.mapIdx fun i text => service.single (position + i) text
    (answers.map fun answer => answer.1.toOption, taken + (answers.map (·.2)).foldr (· + ·) 0)

def addBatch (position : Nat) (batch : List Entry) (ix : VectorIndex) :
    Except Fault (Nat × VectorIndex) := do
  let texts ← batch.mapM (·.searchText)
  let (vectors, taken) := service.embedBatch position texts
  let stored := VectorIndex.storeEach ((VectorIndex.withIds position batch).zip vectors) ix
  pure ((vectors.filter (·.isSome)).length, { stored with embedded := stored.embedded + taken })

def addBatches (size : Nat) : Nat → Nat → Nat → List Entry → VectorIndex →
    Except Fault Nat × VectorIndex
  | 0, stored, _, _, ix => (.ok stored, ix)
  | _, stored, _, [], ix => (.ok stored, ix)
  | fuel + 1, stored, position, entries, ix =>
    match service.addBatch position (entries.take size) ix with
    | .ok (more, ix) =>
      addBatches size fuel (stored + more) (position + size) (entries.drop size) ix
    | .error fault => (.error fault, ix)

def add (entries : List Entry) (ix : VectorIndex) : Except Fault Nat × VectorIndex :=
  match ix.prepare with
  | .error fault => (.error fault, ix)
  | .ok ix =>
    if ix.batchSize == 0 then (.error .badValue, ix)
    else if ix.batchSize < 0 then (.ok 0, ix)
    else service.addBatches ix.batchSize.toNat entries.length 0 0 entries ix

end Service

namespace VectorIndex

/-- The backend of an index has one answer at all positions. -/
def service (ix : VectorIndex) : Service :=
  ⟨fun _ => ix.ask, fun _ => ix.askOne⟩

-- Nothing that is stored changes the backend or the size of batches.
def Serves (ix after : VectorIndex) : Prop :=
  after.backend = ix.backend ∧ after.batchSize = ix.batchSize

theorem Serves.refl (ix : VectorIndex) : ix.Serves ix :=
  ⟨rfl, rfl⟩

theorem Serves.trans {first second third : VectorIndex} (one : first.Serves second)
    (two : second.Serves third) : first.Serves third :=
  ⟨two.1.trans one.1, two.2.trans one.2⟩

theorem Serves.service_eq {ix after : VectorIndex} (serves : ix.Serves after) :
    after.service = ix.service := by
  have asked : after.ask = ix.ask := by
    funext texts
    simp only [ask, serves.1]
  have askedOne : after.askOne = ix.askOne := by
    funext text
    simp only [askOne, asked]
  rw [service, service, asked, askedOne]

theorem storeEach_serves (items : List ((String × Entry) × Option Embedding)) (ix : VectorIndex) :
    ix.Serves (storeEach items ix) := by
  induction items generalizing ix with
  | nil => exact .refl ix
  | cons item rest ih =>
    obtain ⟨⟨id, entry⟩, vector⟩ := item
    cases vector with
    | none => exact ih ix
    | some vector => exact Serves.trans ⟨rfl, rfl⟩ (ih (ix.put id ⟨vector, entry.metadata⟩))

theorem addBatch_serves (ix : VectorIndex) (position : Nat) (batch : List Entry)
    (result : Nat × VectorIndex) (added : ix.addBatch position batch = .ok result) :
    ix.Serves result.2 := by
  simp only [addBatch, bind, Except.bind] at added
  split at added
  next => simp at added
  next texts _ =>
    obtain rfl := Except.ok.inj added
    exact storeEach_serves _ ix

theorem embedBatch_service (ix : VectorIndex) (position : Nat) (texts : List String) :
    ix.service.embedBatch position texts = ix.embedBatch texts := by
  have alone : (texts.mapIdx fun i text => ix.service.single (position + i) text) =
      texts.map ix.askOne := by
    apply List.ext_getElem?
    intro i
    rw [List.getElem?_mapIdx, List.getElem?_map]
    rfl
  rw [Service.embedBatch, embedBatch, alone]
  rfl

theorem addBatch_service (ix : VectorIndex) (position : Nat) (batch : List Entry) :
    ix.service.addBatch position batch ix = ix.addBatch position batch := by
  simp only [Service.addBatch, addBatch, embedBatch_service]

theorem addBatches_service (size fuel stored position : Nat) (entries : List Entry)
    (ix : VectorIndex) : ix.service.addBatches size fuel stored position entries ix =
      addBatches size fuel stored position entries ix := by
  induction fuel generalizing stored position entries ix with
  | zero => rfl
  | succ fuel ih =>
    cases entries with
    | nil => rfl
    | cons entry rest =>
      simp only [Service.addBatches, addBatches, addBatch_service]
      cases added : ix.addBatch position ((entry :: rest).take size) with
      | error fault => rfl
      | ok result =>
        have same := (addBatch_serves ix position _ result added).service_eq
        have later := ih (stored + result.1) (position + size) ((entry :: rest).drop size) result.2
        rw [same] at later
        exact later

/-- The backend has been prepared, or can be. -/
def Usable (ix : VectorIndex) : Prop :=
  ix.ready = true ∨ ix.backend.obstacle = none

theorem prepare_usable {ix : VectorIndex} (usable : ix.Usable) :
    ix.prepare = .ok { ix with ready := true } := by
  rw [prepare]
  by_cases ready : ix.ready = true
  · rw [if_pos ready, ← ready]
  · rw [if_neg ready, Backend.initialize?, usable.resolve_left ready]
    rfl

theorem prepare_unusable {ix : VectorIndex} {problem : BackendProblem} (unready : ix.ready = false)
    (obstacle : ix.backend.obstacle = some problem) :
    ix.prepare = .error (.backend problem) := by
  simp [prepare, unready, Backend.initialize?, obstacle, Except.map]

-- To prepare an index changes nothing but that it is ready.
theorem prepare_ok {ix ready : VectorIndex} (prepared : ix.prepare = .ok ready) :
    ready = { ix with ready := true } := by
  rw [prepare] at prepared
  split at prepared
  next already =>
    rw [← already]
    exact (Except.ok.inj prepared).symm
  next =>
    cases usable : ix.backend.initialize? with
    | error fault => simp [usable, Except.map] at prepared
    | ok _ =>
      rw [usable] at prepared
      exact (Except.ok.inj prepared).symm

theorem prepare_serves {ix ready : VectorIndex} (prepared : ix.prepare = .ok ready) :
    ix.Serves ready := by
  rw [prepare_ok prepared]
  exact ⟨rfl, rfl⟩

/-- What an index stores by its own backend is what it stores by a service with the same answers. -/
theorem add_service (ix : VectorIndex) (entries : List Entry) :
    ix.service.add entries ix = ix.add entries := by
  rw [Service.add, add]
  cases prepared : ix.prepare with
  | error fault => rfl
  | ok ready =>
    have batches := addBatches_service ready.batchSize.toNat entries.length 0 0 entries ready
    rw [(prepare_serves prepared).service_eq] at batches
    simp only [batches]

end VectorIndex

end CodeAtlas.Index
