import CodeAtlas.Proofs.Atlas.Identity
import CodeAtlas.Proofs.Atlas.Restoring

set_option autoImplicit false

/-! Builds that fail: for what reasons they do, and what is left in the index then. The old records are
gone, and those that were restored from the cache are there. -/

namespace CodeAtlas

open CodeAtlas.Classify CodeAtlas.Embedding CodeAtlas.Index CodeAtlas.Source

namespace Index.VectorIndex

theorem addBatches_readable (size fuel stored position : Nat) (entries : List Entry)
    (texts : List String) (readable : Readable entries texts) (ix : VectorIndex) :
    ∃ total, (addBatches size fuel stored position entries ix).1 = .ok total := by
  induction fuel generalizing stored position entries texts ix with
  | zero => exact ⟨stored, rfl⟩
  | succ fuel ih =>
    cases entries with
    | nil => exact ⟨stored, rfl⟩
    | cons entry rest =>
      simp only [addBatches, addBatch, (readable.take size).mapM_eq, bind, Except.bind]
      exact ih _ _ _ _ (readable.drop size) _

-- Where the backend is prepared and batches have a size, storing does not fail.
theorem add_completes {ix : VectorIndex} (usable : ix.Usable) (sized : ix.batchSize ≠ 0)
    (entries : List Entry) (texts : List String) (readable : Readable entries texts) :
    ∃ total, (ix.add entries).1 = .ok total := by
  have some : (ix.batchSize == 0) = false := by simpa using sized
  simp only [add, prepare_usable usable, some, Bool.false_eq_true, if_false]
  split
  · exact ⟨0, rfl⟩
  · exact addBatches_readable _ _ _ _ entries texts readable _

theorem add_unusable (ix : VectorIndex) {problem : BackendProblem} (unready : ix.ready = false)
    (obstacle : ix.backend.obstacle = some problem) (entries : List Entry) :
    ix.add entries = (.error (.backend problem), ix) := by
  rw [add, prepare_unusable unready obstacle]

end Index.VectorIndex

namespace Atlas

-- The atlas in which units have been restored, and nothing else.
def restored (a : Atlas) (items : List (ClassifiedUnit × Embedding)) : Atlas :=
  { a.emptied with
    index := a.emptied.index.withRecords (restoredFrom 0 items) a.emptied.index.embedded }

theorem restored_records (a : Atlas) (items : List (ClassifiedUnit × Embedding)) :
    (a.restored items).index.records = Keyed.ofList (restoredFrom 0 items) := rfl

theorem build_shaped (a : Atlas) (shaped : Shaped a.found) : a.build =
    let (outcome, after) := (a.restored a.found).addMissing a.newKeys a.lacking
    (outcome.map fun _ => after.index.size, after) := by
  rw [build_eq, addCached_shaped a.emptied a.found shaped]
  rfl

theorem addMissing_completes (a : Atlas) (keys : List (String × String))
    (missing : List ClassifiedUnit)
    (fit : missing ≠ [] → a.index.Usable ∧ a.index.batchSize ≠ 0) :
    (a.addMissing keys missing).1 = .ok () := by
  rw [addMissing]
  split
  next => rfl
  next some =>
    have lacks : missing ≠ [] := by simpa using some
    obtain ⟨total, added⟩ := VectorIndex.add_completes (fit lacks).1 (fit lacks).2 _ _
      (readable_units missing)
    split
    next fault index failed => simp [failed] at added
    next => rfl

-- A build counts the records that there are when it is done.
theorem build_completes (a : Atlas) (shaped : Shaped a.found)
    (fit : a.lacking ≠ [] → a.index.Usable ∧ a.index.batchSize ≠ 0) :
    a.build = (.ok a.build.2.index.size, a.build.2) := by
  have done := addMissing_completes (a.restored a.found) a.newKeys a.lacking fit
  rw [build_shaped a shaped]
  simp only [done]
  rfl

end Atlas

end CodeAtlas
