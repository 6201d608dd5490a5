import CodeAtlas.Index.Precomputed
import CodeAtlas.Proofs.Embedding.Backend
import CodeAtlas.Proofs.Index.Service
import CodeAtlas.Proofs.Keyed

set_option autoImplicit false

/-! What storing comes to where a backend embeds each text in one way, in a batch or alone: every
entry that has an embedding is put under its identity, in order, whatever the batches are. -/

namespace CodeAtlas.Index

open CodeAtlas.Classify CodeAtlas.Embedding

/-- What is stored of entries, the first of which stands at `position`. -/
def recordsOf (f : String → Option Embedding) : Nat → List Entry → List (String × Stored)
  | _, [] => []
  | position, entry :: rest =>
    match entry.searchText.toOption.bind f with
    | some vector =>
      (entry.idAt position, ⟨vector, entry.metadata⟩) :: recordsOf f (position + 1) rest
    | none => recordsOf f (position + 1) rest

theorem recordsOf_cons (f : String → Option Embedding) (position : Nat) (entry : Entry)
    (rest : List Entry) (text : String) (first : entry.searchText = .ok text) :
    recordsOf f position (entry :: rest) =
      ((f text).map fun vector => (entry.idAt position, ⟨vector, entry.metadata⟩)).toList ++
        recordsOf f (position + 1) rest := by
  have found : entry.searchText.toOption.bind f = f text := by
    rw [first]
    rfl
  rw [recordsOf, found]
  cases f text <;> rfl

theorem recordsOf_append (f : String → Option Embedding) (position : Nat) (first second : List Entry) :
    recordsOf f position (first ++ second) =
      recordsOf f position first ++ recordsOf f (position + first.length) second := by
  induction first generalizing position with
  | nil => rfl
  | cons entry rest ih =>
    have next : position + (entry :: rest).length = position + 1 + rest.length := by
      rw [List.length_cons]
      omega
    rw [List.cons_append, recordsOf, recordsOf, ih (position + 1), next]
    split <;> rfl

/-- A service that embeds just the texts that `f` has an embedding for. A batch may fail although each of its
texts can be embedded alone. -/
structure Service.Gives (service : Service) (f : String → Option Embedding) : Prop where
  batch : ∀ position texts vectors,
    (service.batch position texts).1 = .ok vectors → texts.map f = vectors.map some
  alone : ∀ position text, (service.single position text).1.toOption = f text

namespace VectorIndex

-- The index with more records, and a new count of embedded texts.
def withRecords (records : List (String × Stored)) (embedded : Nat) (ix : VectorIndex) :
    VectorIndex :=
  { ix with
    records := records.foldl (fun kept record => Keyed.put record.1 record.2 kept) ix.records
    embedded := embedded }

theorem withRecords_withRecords (first second : List (String × Stored)) (m n : Nat)
    (ix : VectorIndex) :
    (ix.withRecords first m).withRecords second n = ix.withRecords (first ++ second) n := by
  simp [withRecords, List.foldl_append]

variable {f : String → Option Embedding} {ix : VectorIndex}

theorem ask_fst (ix : VectorIndex) (texts : List String) :
    (ix.ask texts).1 = ix.backend.embed texts := by
  rw [ask]
  split
  next failed => exact failed.symm
  next => rfl

theorem askOne_toOption (embeds : ix.backend.Embeds f) (text : String) :
    (ix.askOne text).1.toOption = f text := by
  have asked := ask_fst ix [text]
  rw [askOne]
  split
  next vector rest taken answer =>
    rw [answer] at asked
    have same := embeds.batch _ _ asked.symm
    simp only [List.map_cons, List.map_nil, List.cons.injEq] at same
    exact same.1.symm
  next taken answer =>
    rw [answer] at asked
    have same := embeds.batch _ _ asked.symm
    simp at same
  next fault taken answer =>
    rw [answer] at asked
    cases value : f text with
    | none => rfl
    | some vector =>
      rw [embeds.alone text vector value] at asked
      simp at asked

theorem gives (embeds : ix.backend.Embeds f) : ix.service.Gives f :=
  ⟨fun _ texts vectors answer => embeds.batch texts vectors ((ask_fst ix texts).symm.trans answer),
    fun _ text => askOne_toOption embeds text⟩

theorem withIds_cons (position : Nat) (entry : Entry) (rest : List Entry) :
    withIds position (entry :: rest) =
      (entry.idAt position, entry) :: withIds (position + 1) rest := by
  simp only [withIds, List.mapIdx_cons, Int.natCast_zero, Int.add_zero, Int.natCast_add,
    Int.natCast_one, List.cons.injEq, true_and]
  congr 1
  funext i other
  rw [Int.add_assoc, Int.add_comm 1]

def Readable (entries : List Entry) (texts : List String) : Prop :=
  entries.map (·.searchText) = texts.map .ok

theorem readable_nil (texts : List String) : Readable [] texts ↔ texts = [] := by
  simp [Readable, eq_comm]

theorem readable_cons (entry : Entry) (rest : List Entry) (texts : List String) :
    Readable (entry :: rest) texts ↔
      ∃ text later, texts = text :: later ∧ entry.searchText = .ok text ∧ Readable rest later := by
  cases texts with
  | nil => simp [Readable]
  | cons text later => simp [Readable]

theorem Readable.take {entries : List Entry} {texts : List String}
    (readable : Readable entries texts) (size : Nat) :
    Readable (entries.take size) (texts.take size) := by
  rw [Readable, List.map_take, readable, List.map_take]

theorem Readable.drop {entries : List Entry} {texts : List String}
    (readable : Readable entries texts) (size : Nat) :
    Readable (entries.drop size) (texts.drop size) := by
  rw [Readable, List.map_drop, readable, List.map_drop]

theorem Readable.mapM_eq {entries : List Entry} {texts : List String}
    (readable : Readable entries texts) : entries.mapM (·.searchText) = .ok texts := by
  induction entries generalizing texts with
  | nil =>
    obtain rfl := (readable_nil texts).mp readable
    rfl
  | cons entry rest ih =>
    obtain ⟨text, later, rfl, first, behind⟩ := (readable_cons entry rest texts).mp readable
    simp only [List.mapM_cons, first, ih behind]
    rfl

theorem storeEach_eq (ix : VectorIndex) (position : Nat) (entries : List Entry)
    (texts : List String) (readable : Readable entries texts) :
    storeEach ((withIds position entries).zip (texts.map f)) ix =
      ix.withRecords (recordsOf f position entries) ix.embedded := by
  induction entries generalizing ix position texts with
  | nil => rfl
  | cons entry rest ih =>
    obtain ⟨text, later, rfl, first, behind⟩ := (readable_cons entry rest texts).mp readable
    rw [withIds_cons, recordsOf_cons f position entry rest text first, List.map_cons,
      List.zip_cons_cons]
    cases value : f text with
    | none =>
      rw [storeEach, ih ix (position + 1) later behind]
      rfl
    | some vector =>
      rw [storeEach, ih _ (position + 1) later behind]
      rfl

theorem recordsOf_length (position : Nat) (entries : List Entry) (texts : List String)
    (readable : Readable entries texts) :
    (recordsOf f position entries).length = ((texts.map f).filter (·.isSome)).length := by
  induction entries generalizing position texts with
  | nil =>
    obtain rfl := (readable_nil texts).mp readable
    rfl
  | cons entry rest ih =>
    obtain ⟨text, later, rfl, first, behind⟩ := (readable_cons entry rest texts).mp readable
    rw [recordsOf_cons f position entry rest text first, List.length_append, List.map_cons,
      ih (position + 1) later behind]
    cases value : f text with
    | none =>
      rw [List.filter_cons_of_neg (by simp)]
      simp
    | some vector =>
      rw [List.filter_cons_of_pos (by simp), List.length_cons]
      simp [Nat.add_comm]

-- A batch and what is behind it. The last batch may be shorter than the others.
theorem recordsOf_take_drop (f : String → Option Embedding) (position size : Nat)
    (entries : List Entry) : recordsOf f position entries =
      recordsOf f position (entries.take size) ++
        recordsOf f (position + size) (entries.drop size) := by
  have whole := recordsOf_append f position (entries.take size) (entries.drop size)
  rw [List.take_append_drop] at whole
  rw [whole]
  by_cases inside : size ≤ entries.length
  · rw [List.length_take_of_le inside]
  · rw [List.drop_of_length_le (by omega)]
    rfl

end VectorIndex

namespace Service

open VectorIndex

variable {service : Service} {f : String → Option Embedding} {ix : VectorIndex}

-- The two ways to embed a batch answer alike, so that it does not matter which one was taken.
theorem embedBatch_fst (gives : service.Gives f) (position : Nat) (texts : List String) :
    (service.embedBatch position texts).1 = texts.map f := by
  rw [embedBatch]
  split
  next vectors taken answer => exact (gives.batch position texts vectors (by rw [answer])).symm
  next fault taken answer =>
    apply List.ext_getElem?
    intro i
    simp only [List.getElem?_map, List.getElem?_mapIdx, Option.map_map]
    exact congrFun (congrArg Option.map (funext fun text => gives.alone (position + i) text)) _

theorem addBatch_eq (gives : service.Gives f) (ix : VectorIndex) (position : Nat)
    (batch : List Entry) (texts : List String) (readable : Readable batch texts) :
    ∃ embedded, service.addBatch position batch ix =
      .ok ((recordsOf f position batch).length,
        ix.withRecords (recordsOf f position batch) embedded) := by
  have stored := storeEach_eq (f := f) ix position batch texts readable
  have counted := recordsOf_length (f := f) position batch texts readable
  have vectors := embedBatch_fst gives position texts
  cases answer : service.embedBatch position texts with
  | mk given taken =>
    rw [answer] at vectors
    obtain rfl := vectors
    refine ⟨ix.embedded + taken, ?_⟩
    simp only [addBatch, readable.mapM_eq, bind, Except.bind, answer, stored, counted]
    rfl

theorem addBatches_eq (gives : service.Gives f) (ix : VectorIndex)
    (size fuel stored position : Nat) (positive : 0 < size) (entries : List Entry)
    (texts : List String) (readable : Readable entries texts) (enough : entries.length ≤ fuel) :
    ∃ embedded, service.addBatches size fuel stored position entries ix =
      (.ok (stored + (recordsOf f position entries).length),
        ix.withRecords (recordsOf f position entries) embedded) := by
  induction fuel generalizing ix stored position entries texts with
  | zero =>
    obtain rfl : entries = [] := List.length_eq_zero_iff.mp (Nat.le_zero.mp enough)
    exact ⟨ix.embedded, rfl⟩
  | succ fuel ih =>
    cases entries with
    | nil => exact ⟨ix.embedded, rfl⟩
    | cons entry rest =>
      obtain ⟨taken, batch⟩ := addBatch_eq gives ix position _ _ (readable.take size)
      have shorter : ((entry :: rest).drop size).length ≤ fuel := by
        simp only [List.length_drop, List.length_cons] at enough ⊢
        omega
      obtain ⟨embedded, later⟩ := ih (ix.withRecords _ taken)
        (stored + (recordsOf f position ((entry :: rest).take size)).length) (position + size) _ _
        (readable.drop size) shorter
      refine ⟨embedded, ?_⟩
      simp only [addBatches, batch]
      rw [later, withRecords_withRecords, recordsOf_take_drop f position size (entry :: rest),
        List.length_append, Nat.add_assoc]

-- All entries that have an embedding are stored, in order.
theorem add_eq (gives : service.Gives f) (usable : ix.Usable) (positive : 0 < ix.batchSize)
    (entries : List Entry) (texts : List String) (readable : Readable entries texts) :
    ∃ embedded, service.add entries ix =
      (.ok (recordsOf f 0 entries).length,
        { ix.withRecords (recordsOf f 0 entries) embedded with ready := true }) := by
  have size : 0 < ix.batchSize.toNat := by omega
  obtain ⟨embedded, stored⟩ := addBatches_eq gives { ix with ready := true }
    ix.batchSize.toNat entries.length 0 0 size entries texts readable (Nat.le_refl _)
  refine ⟨embedded, ?_⟩
  have some : (ix.batchSize == 0) = false := by simpa using Int.ne_of_gt positive
  have enough : ¬ix.batchSize < 0 := by omega
  simp only [add, prepare_usable usable, some, if_neg enough, Bool.false_eq_true, if_false]
  rw [stored, Nat.zero_add]
  rfl

end Service

namespace VectorIndex

variable {f : String → Option Embedding} {ix : VectorIndex}

theorem add_eq (embeds : ix.backend.Embeds f) (positive : 0 < ix.batchSize) (entries : List Entry)
    (texts : List String) (readable : Readable entries texts) :
    ∃ embedded, ix.add entries =
      (.ok (recordsOf f 0 entries).length,
        { ix.withRecords (recordsOf f 0 entries) embedded with ready := true }) := by
  rw [← add_service]
  exact Service.add_eq (gives embeds) (.inr embeds.usable) positive entries texts readable

theorem addBatches_serves (size fuel stored position : Nat) (entries : List Entry)
    (ix : VectorIndex) : ix.Serves (addBatches size fuel stored position entries ix).2 := by
  induction fuel generalizing stored position entries ix with
  | zero => exact .refl ix
  | succ fuel ih =>
    cases entries with
    | nil => exact .refl ix
    | cons entry rest =>
      simp only [addBatches]
      split
      next more after added => exact (addBatch_serves ix position _ _ added).trans (ih _ _ _ after)
      next => exact .refl ix

theorem add_serves (ix : VectorIndex) (entries : List Entry) : ix.Serves (ix.add entries).2 := by
  rw [add]
  split
  next => exact .refl ix
  next ready prepared =>
    have serves := prepare_serves prepared
    split
    · exact serves
    · split
      · exact serves
      · exact serves.trans (addBatches_serves _ _ _ _ entries ready)

theorem addPrecomputedFrom_serves (position stored : Nat) (items : List Precomputed)
    (ix : VectorIndex) : ix.Serves (addPrecomputedFrom position stored items ix).2 := by
  induction items generalizing position stored ix with
  | nil => exact .refl ix
  | cons item rest ih =>
    rw [addPrecomputedFrom]
    split
    next id record _ => exact Serves.trans ⟨rfl, rfl⟩ (ih _ _ (ix.put id record))
    next => exact ih _ _ ix
    next => exact .refl ix

theorem keys_recordsOf (f : String → Option Embedding) (position : Nat) (entries : List Entry) :
    ((recordsOf f position entries).map (·.1)).Sublist
      ((withIds position entries).map (·.1)) := by
  induction entries generalizing position with
  | nil => exact List.Sublist.refl _
  | cons entry rest ih =>
    rw [recordsOf, withIds_cons, List.map_cons]
    split
    · exact (ih (position + 1)).cons_cons _
    · exact (ih (position + 1)).cons _

end VectorIndex

theorem readable_units (units : List ClassifiedUnit) :
    VectorIndex.Readable (units.map (·.entry)) (units.map (·.searchText)) := by
  simp only [VectorIndex.Readable, List.map_map]
  rfl

end CodeAtlas.Index
