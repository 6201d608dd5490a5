import CodeAtlas.Proofs.Atlas.History
import CodeAtlas.Proofs.Classify.Identity

set_option autoImplicit false

/-! No two units in the store have one identity, so that the index has room for all of them. -/

namespace CodeAtlas

open CodeAtlas.Classify CodeAtlas.Embedding CodeAtlas.Index CodeAtlas.Source

/-- The units of one file: all of them are of that file, and each starts on a line of its own. -/
structure Filed (path : String) (units : List ClassifiedUnit) : Prop where
  here : ∀ u ∈ units, u.raw.path = path
  plain : ∀ u ∈ units, Plain u.raw.name
  apart : units.Pairwise (·.raw.startLine < ·.raw.startLine)

theorem classifyText_filed (rules : Rules.RuleSet) (least : Int) (path text : String) :
    Filed path (classifyText rules least path text) := by
  constructor
  · intro u member
    obtain ⟨raw, inside, rfl⟩ := List.mem_map.mp member
    exact extract_path least path text raw inside
  · intro u member
    obtain ⟨raw, inside, rfl⟩ := List.mem_map.mp member
    exact extract_plain least path text raw inside
  · exact List.pairwise_map.mpr (extract_increases least path text)

theorem id_inj {u v : ClassifiedUnit} (plain : Plain u.raw.name) (clear : Plain v.raw.name)
    (same : u.id = v.id) : u.raw.name = v.raw.name ∧ u.raw.path = v.raw.path ∧
      u.raw.startLine = v.raw.startLine :=
  unitId_inj plain clear same

theorem Filed.ids_nodup {path : String} {units : List ClassifiedUnit} (filed : Filed path units) :
    (units.map (·.id)).Nodup := by
  refine List.pairwise_map.mpr (filed.apart.imp_of_mem ?_)
  intro u v first second lt same
  obtain ⟨-, -, lines⟩ := id_inj (filed.plain u first) (filed.plain v second) same
  exact Int.ne_of_lt lt lines

namespace Store

variable {s : Store ClassifiedUnit}

theorem Holds.plain (holds : s.Holds Filed) (u : ClassifiedUnit) (member : u ∈ s.all) :
    Plain u.raw.name := by
  obtain ⟨entry, inside, unit⟩ := List.mem_flatMap.mp member
  exact (holds.each entry inside).plain u unit

-- Units of one file differ in their lines, units of different files in their paths.
theorem Holds.ids_nodup (holds : s.Holds Filed) : (s.all.map (·.id)).Nodup := by
  rw [all, List.map_flatMap, List.nodup_flatMap]
  constructor
  · intro entry inside
    exact (holds.each entry inside).ids_nodup
  · have apart : s.files.Pairwise (·.1 ≠ ·.1) := List.pairwise_map.mp holds.apart
    apply apart.imp_of_mem
    intro first second inside other differ id left right
    obtain ⟨u, unit, rfl⟩ := List.mem_map.mp left
    obtain ⟨v, second_unit, same⟩ := List.mem_map.mp right
    have filed := holds.each first inside
    have again := holds.each second other
    obtain ⟨-, paths, -⟩ := id_inj (filed.plain u unit) (again.plain v second_unit) same.symm
    rw [filed.here u unit, again.here v second_unit] at paths
    exact differ paths

end Store

theorem mem_withIds (position : Nat) (entries : List Entry) (id : String)
    (member : id ∈ (VectorIndex.withIds position entries).map (·.1)) :
    ∃ entry ∈ entries, ∃ place : Nat, position ≤ place ∧ id = entry.idAt place := by
  induction entries generalizing position with
  | nil => simp [VectorIndex.withIds] at member
  | cons entry rest ih =>
    rw [VectorIndex.withIds_cons, List.map_cons, List.mem_cons] at member
    rcases member with rfl | later
    · exact ⟨entry, by simp, position, Nat.le_refl _, rfl⟩
    · obtain ⟨other, inside, place, behind, same⟩ := ih (position + 1) later
      exact ⟨other, List.mem_cons_of_mem entry inside, place, Nat.le_of_succ_le behind, same⟩

-- The identities under which units are stored differ as well, even where the path is empty.
theorem withIds_nodup (position : Nat) (units : List ClassifiedUnit)
    (plain : ∀ u ∈ units, Plain u.raw.name) (apart : (units.map (·.id)).Nodup) :
    ((VectorIndex.withIds position (units.map (·.entry))).map (·.1)).Nodup := by
  induction units generalizing position with
  | nil => simp [VectorIndex.withIds]
  | cons u rest ih =>
    rw [List.map_cons, List.nodup_cons] at apart
    rw [List.map_cons, VectorIndex.withIds_cons, List.map_cons, List.nodup_cons]
    constructor
    · intro member
      obtain ⟨entry, inside, place, behind, same⟩ := mem_withIds _ _ _ member
      obtain ⟨v, unit, rfl⟩ := List.mem_map.mp inside
      have clear := plain v (List.mem_cons_of_mem u unit)
      rcases entry_idAt_inj (plain u (by simp)) clear same with places | ids
      · omega
      · exact apart.1 (ids ▸ List.mem_map_of_mem unit)
    · exact ih (position + 1) (fun v unit => plain v (List.mem_cons_of_mem u unit)) apart.2

-- Where keys are apart, each unit that has an embedding has a record of its own.
theorem add_cleared {ix : VectorIndex} {f : String → Option Embedding} (embeds : ix.backend.Embeds f)
    (positive : 0 < ix.batchSize) (units : List ClassifiedUnit)
    (plain : ∀ u ∈ units, Plain u.raw.name) (apart : (units.map (·.id)).Nodup) :
    ∃ stored after, ix.clear.add (units.map (·.entry)) = (.ok stored, after) ∧
      after.records = recordsOf f 0 (units.map (·.entry)) := by
  have cleared : ix.clear.backend.Embeds f := embeds
  obtain ⟨embedded, added⟩ := VectorIndex.add_eq cleared positive _ _ (readable_units units)
  refine ⟨_, _, added, ?_⟩
  have keys := (VectorIndex.keys_recordsOf f 0 (units.map (·.entry))).nodup
    (withIds_nodup 0 units plain apart)
  exact Keyed.foldl_put_fresh [] _ keys

/-- Units can be told apart by their identities, and an identity says what is told apart. -/
structure Store.Identified (s : Store ClassifiedUnit) : Prop where
  lines : ∀ entry ∈ s.files, (entry.2.map (·.raw.startLine)).Nodup
  names : ∀ u ∈ s.all, ':' ∉ u.raw.name.toList
  read_back : ∀ u ∈ s.all, ∀ v ∈ s.all, u.id = v.id →
    u.raw.name = v.raw.name ∧ u.raw.path = v.raw.path ∧ u.raw.startLine = v.raw.startLine
  apart : (s.all.map (·.id)).Nodup

theorem Store.Holds.identified {s : Store ClassifiedUnit} (holds : s.Holds Filed) :
    s.Identified where
  lines entry inside :=
    List.pairwise_map.mpr ((holds.each entry inside).apart.imp Int.ne_of_lt)
  names u member := (holds.plain u member).no_colon
  read_back u first v second same := id_inj (holds.plain u first) (holds.plain v second) same
  apart := holds.ids_nodup

namespace Atlas

theorem run_filed (book : Rules.RuleBook) (index : VectorIndex) (cache : Option Cache) (least : Int)
    (actions : List Action) : ((empty book index cache least).run actions).store.Holds Filed :=
  run_holds _ actions Filed (fun _ _ path _ rules text => classifyText_filed rules least path text)
    Store.holds_empty

-- Without a cache, a backend that embeds all texts yields a record for each unit.
theorem build_uncached (a : Atlas) (holds : a.store.Holds Filed) (uncached : a.cache = none)
    (f : String → Option Embedding) (embeds : a.index.backend.Embeds f)
    (total : ∀ text, (f text).isSome = true) (positive : 0 < a.index.batchSize) :
    a.build.1 = .ok a.store.size := by
  obtain ⟨stored, after, added, records⟩ :=
    add_cleared embeds positive a.store.all holds.plain holds.ids_nodup
  have count : (recordsOf f 0 (a.store.all.map (·.entry))).length = a.store.size := by
    rw [VectorIndex.recordsOf_length 0 _ _ (readable_units a.store.all), List.filter_eq_self.mpr]
    · simp [Store.size]
    · intro vector member
      obtain ⟨text, -, rfl⟩ := List.mem_map.mp member
      exact total text
  rw [build]
  simp only [uncached, addMissing]
  by_cases none : a.store.all.isEmpty = true
  · have size : a.store.size = 0 := by rw [Store.size, List.isEmpty_iff.mp none, List.length_nil]
    rw [if_pos none, size]
    rfl
  · rw [if_neg none, added, ← count, ← records]
    rfl

-- No run of scans leaves two units of one identity, and none of them is lost when the index is
-- built with batches of some size, as `Settings.Fit` says of all settings.
theorem run_identified (book : Rules.RuleBook) (index : VectorIndex) (cache : Option Cache)
    (least : Int) (actions : List Action) :
    ((empty book index cache least).run actions).store.Identified ∧
      (cache = none → 0 < index.batchSize →
        ∀ f, index.backend.Embeds f → (∀ text, (f text).isSome = true) →
          ((empty book index cache least).run actions).build.1 =
            .ok ((empty book index cache least).run actions).store.size) := by
  have filed := run_filed book index cache least actions
  have steady := run_steady (empty book index cache least) actions
  refine ⟨filed.identified, ?_⟩
  intro uncached positive f embeds total
  refine build_uncached _ filed (steady.uncached uncached) f ?_ total ?_
  · rw [steady.serves.1]
    exact embeds
  · rw [steady.serves.2]
    exact positive

theorem run_identified_twice :
    let a := (empty (.ofPath "") (.empty (.hashing 384) 32) none 10).run
      [.scanText .empty "a.ts" twiceText, .scanText .empty "twice:a.ts" twiceText]
    a.store.size = 2 ∧ a.store.Identified ∧ a.build.1 = .ok a.store.size := by
  intro a
  have identified := run_identified (.ofPath "") (.empty (.hashing 384) 32) none 10
    [.scanText .empty "a.ts" twiceText, .scanText .empty "twice:a.ts" twiceText]
  refine ⟨?_, identified.1, identified.2 rfl (by decide) _ (hashing_embeds 384) ?_⟩
  · have units (path : String) (rules : Rules.RuleSet) :
        (classifyText rules 10 path twiceText).length = 1 := by
      rw [classifyText, List.length_map, extract, List.length_map, spans, List.length_mergeSort]
      decide +kernel
    change (([("a.ts", classifyText _ 10 "a.ts" twiceText),
      ("twice:a.ts", classifyText _ 10 "twice:a.ts" twiceText)] : List _).flatMap (·.2)).length = 2
    simp [units]
  · intro text
    obtain ⟨vector, found, -⟩ := hashed_ok 384 (by decide) text
    rw [found]
    rfl

end Atlas

end CodeAtlas
