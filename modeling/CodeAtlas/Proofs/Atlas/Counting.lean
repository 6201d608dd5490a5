import CodeAtlas.Proofs.Atlas.Overlap

set_option autoImplicit false

/-! What a scan has counted, said of the files that it has stored and of the errors, and not of the order
in which they came. -/

namespace CodeAtlas

open CodeAtlas.Classify

namespace ScanStats

def tally (keys : List String) : List (String × Nat) :=
  keys.foldl (fun counts key => countIn key counts) []

theorem lookup_countIn (key other : String) (counts : List (String × Nat)) :
    (Keyed.lookup other (countIn key counts)).getD 0 =
      (Keyed.lookup other counts).getD 0 + if key = other then 1 else 0 := by
  rw [countIn, Keyed.lookup_put]
  by_cases same : key = other <;> simp [same]

theorem isSome_countIn (key other : String) (counts : List (String × Nat)) :
    (Keyed.lookup other (countIn key counts)).isSome =
      (decide (key = other) || (Keyed.lookup other counts).isSome) := by
  rw [countIn, Keyed.lookup_put]
  by_cases same : key = other <;> simp [same]

theorem lookup_foldl_countIn (keys : List String) (other : String) (counts : List (String × Nat)) :
    (Keyed.lookup other (keys.foldl (fun counts key => countIn key counts) counts)).getD 0 =
      (Keyed.lookup other counts).getD 0 + keys.count other := by
  induction keys generalizing counts with
  | nil => simp
  | cons key rest ih =>
    simp only [List.foldl_cons, ih, lookup_countIn, List.count_cons, beq_iff_eq]
    omega

theorem isSome_foldl_countIn (keys : List String) (other : String) (counts : List (String × Nat)) :
    (Keyed.lookup other (keys.foldl (fun counts key => countIn key counts) counts)).isSome =
      (decide (other ∈ keys) || (Keyed.lookup other counts).isSome) := by
  induction keys generalizing counts with
  | nil => simp
  | cons key rest ih =>
    simp only [List.foldl_cons, ih, isSome_countIn, List.mem_cons]
    by_cases same : key = other
    · simp [same]
    · simp [same, Ne.symm same]

/-- Each key is counted as often as it is there, and no other key is. -/
theorem lookup_tally (keys : List String) (key : String) :
    Keyed.lookup key (tally keys) = if key ∈ keys then some (keys.count key) else none := by
  have number := lookup_foldl_countIn keys key []
  have present := isSome_foldl_countIn keys key []
  rw [tally]
  cases found : Keyed.lookup key (keys.foldl (fun counts key => countIn key counts) []) with
  | none => simp_all [Keyed.lookup]
  | some count => simp_all [Keyed.lookup]

def total : List (String × Nat) → Nat
  | [] => 0
  | (_, count) :: rest => count + total rest

theorem total_put (key : String) (value : Nat) (counts : List (String × Nat)) :
    total (Keyed.put key value counts) + (Keyed.lookup key counts).getD 0 = total counts + value := by
  induction counts with
  | nil => simp [total, Keyed.put, Keyed.lookup]
  | cons entry rest ih =>
    obtain ⟨first, count⟩ := entry
    by_cases same : first = key
    · simp [total, Keyed.put, Keyed.lookup, same]
      omega
    · simp only [total, Keyed.put, Keyed.lookup, beq_iff_eq, same, if_false]
      omega

theorem total_countIn (key : String) (counts : List (String × Nat)) :
    total (countIn key counts) = total counts + 1 := by
  have put := total_put key ((Keyed.lookup key counts).getD 0 + 1) counts
  rw [countIn]
  omega

theorem total_foldl_countIn (keys : List String) (counts : List (String × Nat)) :
    total (keys.foldl (fun counts key => countIn key counts) counts) = total counts + keys.length := by
  induction keys generalizing counts with
  | nil => simp
  | cons key rest ih =>
    simp only [List.foldl_cons, ih, total_countIn, List.length_cons]
    omega

theorem total_tally (keys : List String) : total (tally keys) = keys.length := by
  simpa [tally, total] using total_foldl_countIn keys []

/-! ### Files that were stored -/

def unitsOf (taken : List Commit) : List ClassifiedUnit :=
  taken.flatMap (·.units)

-- What a scan has counted that has stored these files, and met with these errors.
def summary (scanned : Nat) (taken : List Commit) (errors : List String) : ScanStats where
  scanned := scanned
  indexed := taken.length
  units := (unitsOf taken).length
  byKind := tally ((unitsOf taken).map (·.raw.kind))
  byPurpose := tally ((unitsOf taken).map (·.purpose))
  errors := errors

theorem foldl_addUnit (units : List ClassifiedUnit) (s : ScanStats) :
    units.foldl addUnit s = { s with
      byKind := (units.map (·.raw.kind)).foldl (fun counts key => countIn key counts) s.byKind
      byPurpose := (units.map (·.purpose)).foldl (fun counts key => countIn key counts) s.byPurpose } := by
  induction units generalizing s with
  | nil => rfl
  | cons u rest ih => simp [ih, addUnit]

theorem summary_addFile (scanned : Nat) (taken : List Commit) (errors : List String) (c : Commit) :
    (summary scanned taken errors).addFile c.units = summary scanned (taken ++ [c]) errors := by
  simp [addFile, foldl_addUnit, summary, unitsOf, tally, List.foldl_append]

theorem summary_addError (scanned : Nat) (taken : List Commit) (errors : List String) (error : String) :
    (summary scanned taken errors).addError error = summary scanned taken (errors ++ [error]) :=
  rfl

/-- The same counts, and the same errors in whatever order. -/
structure Alike (s t : ScanStats) : Prop where
  scanned_eq : t.scanned = s.scanned
  indexed_eq : t.indexed = s.indexed
  units_eq : t.units = s.units
  byKind_eq : ∀ kind, Keyed.lookup kind t.byKind = Keyed.lookup kind s.byKind
  byPurpose_eq : ∀ purpose, Keyed.lookup purpose t.byPurpose = Keyed.lookup purpose s.byPurpose
  errors_perm : t.errors.Perm s.errors

theorem lookup_tally_perm {keys others : List String} (perm : others.Perm keys) (key : String) :
    Keyed.lookup key (tally others) = Keyed.lookup key (tally keys) := by
  simp [lookup_tally, perm.mem_iff, perm.count_eq]

theorem summary_alike (scanned : Nat) {taken others : List Commit} {errors problems : List String}
    (stored : others.Perm taken) (met : problems.Perm errors) :
    Alike (summary scanned taken errors) (summary scanned others problems) := by
  have units : (unitsOf others).Perm (unitsOf taken) := stored.flatMap_right _
  exact
    { scanned_eq := rfl
      indexed_eq := stored.length_eq
      units_eq := units.length_eq
      byKind_eq := lookup_tally_perm (units.map _)
      byPurpose_eq := lookup_tally_perm (units.map _)
      errors_perm := met }

end ScanStats

end CodeAtlas
