import CodeAtlas.Proofs.Index.Storing

set_option autoImplicit false

/-! Indexes after any changes, by the journal of what was stored since they were cleared last: each identity
stands where it came first, with what was stored under it last. -/

namespace CodeAtlas.Index

open CodeAtlas.Classify CodeAtlas.Embedding CodeAtlas.Text

/-! ### What is stored -/

/-- Records put one after the other over those that are there. -/
def overwrite (records written : List (String × Stored)) : List (String × Stored) :=
  written.foldl (fun kept record => Keyed.put record.1 record.2 kept) records

theorem overwrite_append (records first second : List (String × Stored)) :
    overwrite records (first ++ second) = overwrite (overwrite records first) second :=
  List.foldl_append

theorem lookup_overwrite {key : String} {written : List (String × Stored)}
    (absent : key ∉ written.map (·.1)) (records : List (String × Stored)) :
    Keyed.lookup key (overwrite records written) = Keyed.lookup key records := by
  induction written generalizing records with
  | nil => rfl
  | cons record rest ih =>
    rw [List.map_cons, List.mem_cons, not_or] at absent
    have other : (record.1 == key) = false := beq_eq_false_iff_ne.mpr (Ne.symm absent.1)
    have later := ih absent.2 (Keyed.put record.1 record.2 records)
    rw [Keyed.lookup_put, other] at later
    exact later

/-- What is written of a batch: a record for each entry that got an embedding. -/
def written (position : Nat) (batch : List Entry) (vectors : List (Option Embedding)) :
    List (String × Stored) :=
  ((VectorIndex.withIds position batch).zip vectors).filterMap fun item =>
    item.2.map fun vector => (item.1.1, ⟨vector, item.1.2.metadata⟩)

theorem storeEach_records (items : List ((String × Entry) × Option Embedding)) (ix : VectorIndex) :
    (VectorIndex.storeEach items ix).records =
      overwrite ix.records (items.filterMap fun item =>
        item.2.map fun vector => (item.1.1, ⟨vector, item.1.2.metadata⟩)) := by
  induction items generalizing ix with
  | nil => rfl
  | cons item rest ih =>
    obtain ⟨⟨id, entry⟩, vector⟩ := item
    cases vector with
    | none => exact ih ix
    | some vector => exact ih (ix.put id ⟨vector, entry.metadata⟩)

namespace Service

variable (service : Service)

-- What a run of batches writes. A text that cannot be had ends it.
def writes (size : Nat) : Nat → Nat → List Entry → List (String × Stored)
  | 0, _, _ => []
  | _, _, [] => []
  | fuel + 1, position, entries =>
    match (entries.take size).mapM (·.searchText) with
    | .error _ => []
    | .ok texts =>
      written position (entries.take size) (service.embedBatch position texts).1 ++
        writes size fuel (position + size) (entries.drop size)

theorem addBatches_records (size fuel stored position : Nat) (entries : List Entry)
    (ix : VectorIndex) : (service.addBatches size fuel stored position entries ix).2.records =
      overwrite ix.records (service.writes size fuel position entries) := by
  induction fuel generalizing stored position entries ix with
  | zero => rfl
  | succ fuel ih =>
    cases entries with
    | nil => rfl
    | cons entry rest =>
      simp only [addBatches, addBatch, writes]
      cases (entry :: rest).take size |>.mapM (·.searchText) with
      | error fault => rfl
      | ok texts =>
        simp only [bind, Except.bind, pure, Except.pure]
        rw [ih, overwrite_append, storeEach_records]
        rfl

def addWrites (entries : List Entry) (ix : VectorIndex) : List (String × Stored) :=
  match ix.prepare with
  | .error _ => []
  | .ok ready =>
    if ready.batchSize ≤ 0 then []
    else service.writes ready.batchSize.toNat entries.length 0 entries

theorem add_records (entries : List Entry) (ix : VectorIndex) :
    (service.add entries ix).2.records = overwrite ix.records (service.addWrites entries ix) := by
  rw [add, addWrites]
  cases prepared : ix.prepare with
  | error fault => rfl
  | ok ready =>
    have same : ready.records = ix.records := by rw [VectorIndex.prepare_ok prepared]
    rcases Int.lt_trichotomy ready.batchSize 0 with less | none | more
    · simp [less, Int.le_of_lt less, Int.ne_of_lt less, same, overwrite]
    · simp [none, same, overwrite]
    · have some : (ready.batchSize == 0) = false := by simpa using Int.ne_of_gt more
      simp only [some, Bool.false_eq_true, if_false, if_neg (Int.not_lt.mpr (Int.le_of_lt more)),
        if_neg (Int.not_le.mpr more)]
      rw [addBatches_records, same]

end Service

def givenWrites : Nat → List Precomputed → List (String × Stored)
  | _, [] => []
  | position, item :: later =>
    match item.record position with
    | .ok (some record) => record :: givenWrites (position + 1) later
    | .ok none => givenWrites (position + 1) later
    | .error _ => []

theorem addPrecomputedFrom_records (position stored : Nat) (items : List Precomputed)
    (ix : VectorIndex) : (VectorIndex.addPrecomputedFrom position stored items ix).2.records =
      overwrite ix.records (givenWrites position items) := by
  induction items generalizing position stored ix with
  | nil => rfl
  | cons item later ih =>
    rw [VectorIndex.addPrecomputedFrom, givenWrites]
    cases item.record position with
    | error fault => rfl
    | ok found =>
      cases found with
      | none => exact ih _ _ ix
      | some record => exact ih _ _ (ix.put record.1 record.2)

/-! ### Changes -/

/-- A change of an index. What a backend answers may differ from change to change. -/
inductive Change
  | add (service : Service) (entries : List Entry)
  | addPrecomputed (items : List Precomputed)
  | put (id : String) (stored : Stored)
  | clear

namespace Change

def apply (ix : VectorIndex) : Change → VectorIndex
  | add service entries => (service.add entries ix).2
  | addPrecomputed items => (ix.addPrecomputed items).2
  | put id stored => ix.put id stored
  | clear => ix.clear

/-- What has been put since the index was cleared last, with what this change puts. -/
def note (ix : VectorIndex) (noted : List (String × Stored)) : Change → List (String × Stored)
  | add service entries => noted ++ service.addWrites entries ix
  | addPrecomputed items => noted ++ givenWrites 0 items
  | put id stored => noted ++ [(id, stored)]
  | clear => []

-- To store by the backend of the index itself is one of the changes.
theorem apply_own (ix : VectorIndex) (entries : List Entry) :
    (add ix.service entries).apply ix = (ix.add entries).2 :=
  congrArg Prod.snd (VectorIndex.add_service ix entries)

theorem apply_records (ix : VectorIndex) (noted : List (String × Stored)) (change : Change)
    (kept : ix.records = overwrite [] noted) :
    (change.apply ix).records = overwrite [] (change.note ix noted) := by
  cases change with
  | add service entries =>
    rw [apply, note, overwrite_append, ← kept, Service.add_records]
  | addPrecomputed items =>
    rw [apply, note, overwrite_append, ← kept]
    exact addPrecomputedFrom_records 0 0 items ix
  | put id stored =>
    rw [apply, note, overwrite_append, ← kept]
    rfl
  | clear => rfl

end Change

def VectorIndex.changed (ix : VectorIndex) (changes : List Change) : VectorIndex :=
  changes.foldl Change.apply ix

theorem changed_concat (ix : VectorIndex) (changes : List Change) (change : Change) :
    ix.changed (changes ++ [change]) = change.apply (ix.changed changes) :=
  List.foldl_append

/-- What has been put since the index was cleared last, in order. -/
def journal : VectorIndex → List (String × Stored) → List Change → List (String × Stored)
  | _, noted, [] => noted
  | ix, noted, change :: later => journal (change.apply ix) (change.note ix noted) later

theorem changed_records (ix : VectorIndex) (noted : List (String × Stored)) (changes : List Change)
    (kept : ix.records = overwrite [] noted) :
    (ix.changed changes).records = overwrite [] (journal ix noted changes) := by
  induction changes generalizing ix noted with
  | nil => exact kept
  | cons change later ih => exact ih _ _ (change.apply_records ix noted kept)

/-- However an index came about, its records are what its journal leaves standing. -/
theorem changed_standing (backend : Embedding.Backend) (batchSize : Int) (changes : List Change) :
    ((VectorIndex.empty backend batchSize).changed changes).records =
      Keyed.standing (journal (.empty backend batchSize) [] changes) := by
  rw [changed_records _ [] changes rfl, ← Keyed.ofList_eq_standing]
  rfl

theorem changed_apart (backend : Embedding.Backend) (batchSize : Int) (changes : List Change) :
    (((VectorIndex.empty backend batchSize).changed changes).records.map (·.1)).Nodup := by
  rw [changed_standing, Keyed.keys_standing]
  exact nodup_distinct _

end CodeAtlas.Index
