import CodeAtlas.Proofs.Bundles.Resolve
import CodeAtlas.Proofs.Classify.Record
import CodeAtlas.Proofs.Store

set_option autoImplicit false

/-! Labels and bundles follow from what is stored. The order in which files came, and what a store held
before, do not show in them. -/

namespace CodeAtlas.Bundles

open CodeAtlas.Classify CodeAtlas.Text

section

variable {P : Type} [BEq P] [LawfulBEq P] {units others : List (Labelled P)}

/-! ### Units in another order -/

theorem filesWhere_perm (perm : units.Perm others) (pass : Labelled P → Bool) :
    (filesWhere pass units).Perm (filesWhere pass others) :=
  distinct_perm fun _ => ((perm.filter pass).map _).mem_iff

omit [BEq P] [LawfulBEq P] in
theorem purposes_perm (perm : units.Perm others) : purposes units = purposes others :=
  labelSet_congr fun _ => ((perm.map _).filter _).mem_iff

omit [BEq P] [LawfulBEq P] in
theorem patterns_perm (perm : units.Perm others) : patterns units = patterns others :=
  labelSet_congr fun _ => (perm.flatMap_right _).mem_iff

omit [BEq P] [LawfulBEq P] in
theorem labels_perm (perm : units.Perm others) : labels units = labels others := by
  rw [labels, labels, purposes_perm perm, patterns_perm perm]

theorem purposeBundle_perm (perm : units.Perm others) : purposeBundle units = purposeBundle others := by
  funext purpose
  rw [purposeBundle, purposeBundle, (filesWhere_perm perm _).length_eq]

theorem patternBundle_perm (perm : units.Perm others) : patternBundle units = patternBundle others := by
  funext pattern
  rw [patternBundle, patternBundle, (filesWhere_perm perm _).length_eq]

theorem bundles_perm (perm : units.Perm others) : bundles units = bundles others := by
  rw [bundles, bundles, purposes_perm perm, patterns_perm perm, purposeBundle_perm perm,
    patternBundle_perm perm]

theorem filesOf_perm (perm : units.Perm others) (wanted : Wanted) :
    (filesOf wanted units).Perm (filesOf wanted others) := by
  have typed := filesWhere_perm perm (hasType wanted.slug)
  rw [filesOf_eq, filesOf_eq, typed.isEmpty_eq]
  split
  · exact typed
  · exact filesWhere_perm perm (hasPurpose wanted.slug)

theorem resolve_perm (perm : units.Perm others) (label : String) :
    (resolve label units).Perm (resolve label others) := by
  unfold resolve
  cases wanted? label with
  | none => exact .refl []
  | some wanted => exact filesOf_perm perm wanted

/-! ### Labels -/

omit [BEq P] [LawfulBEq P] in
theorem mem_labels (units : List (Labelled P)) (label : String) :
    label ∈ labels units ↔
      ∃ u ∈ units, (u.purpose = label ∧ label ≠ "") ∨ label ∈ u.patterns := by
  have either : label ∈ labels units ↔ label ∈ purposes units ∨ label ∈ patterns units := by
    by_cases known : label ∈ purposes units <;> simp [labels, known]
  rw [either, mem_purposes, mem_patterns]
  constructor
  · rintro (⟨some, u, member, here⟩ | ⟨u, member, inside⟩)
    · exact ⟨u, member, .inl ⟨here, some⟩⟩
    · exact ⟨u, member, .inr inside⟩
  · rintro ⟨u, member, ⟨here, some⟩ | inside⟩
    · exact .inl ⟨some, u, member, here⟩
    · exact .inr ⟨u, member, inside⟩

omit [BEq P] [LawfulBEq P] in
theorem nodup_labels (units : List (Labelled P)) : (labels units).Nodup := by
  rw [labels, List.nodup_append]
  refine ⟨nodup_labelSet _, (nodup_labelSet _).filter _, ?_⟩
  rintro purpose known pattern member rfl
  simp [known] at member

theorem mem_bundles_label (units : List (Labelled P)) (label : String) :
    label ∈ (bundles units).map (·.label) ↔ label ∈ labels units := by
  rw [mem_labels, List.mem_map]
  constructor
  · rintro ⟨b, listed, rfl⟩
    obtain ⟨u, member, some, rfl⟩ | ⟨u, member, p, inside, rfl⟩ := (mem_bundles units b).mp listed
    · exact ⟨u, member, .inl ⟨rfl, some⟩⟩
    · exact ⟨u, member, .inr inside⟩
  · rintro ⟨u, member, ⟨rfl, some⟩ | inside⟩
    · exact ⟨_, (mem_bundles units _).mpr (.inl ⟨u, member, some, rfl⟩), rfl⟩
    · exact ⟨_, (mem_bundles units _).mpr (.inr ⟨u, member, label, inside, rfl⟩), rfl⟩

omit [LawfulBEq P] in
theorem bundle_fileCount {b : Bundle} (listed : b ∈ bundles units) : 0 < b.fileCount :=
  of_decide_eq_true (List.mem_filter.mp listed).2

end

/-! ### Histories of a store -/

/-- The units of a store that was empty before these changes, with what bundles look at in them. -/
def labelledAfter (changes : List (Store.Change ClassifiedUnit)) : List (Labelled String) :=
  (Store.empty.changed changes).all.map labelledUnit

theorem labelledAfter_perm {one other : List (Store.Change ClassifiedUnit)}
    (same : ∀ path, (Store.empty.changed one).units path = (Store.empty.changed other).units path) :
    (labelledAfter one).Perm (labelledAfter other) :=
  (Store.all_perm (Store.history_apart one) (Store.history_apart other) same).map _

/-- Stores that hold the same units for each file, whatever has led to them, have the same labels and
bundles, and each label resolves to the same files. The labels are the purposes and patterns of the units
held, each once, and those of the bundles; each bundle has a file. -/
theorem bundles_of_stored :
    (∀ one other : List (Store.Change ClassifiedUnit),
      (∀ path, (Store.empty.changed one).units path = (Store.empty.changed other).units path) →
        labels (labelledAfter one) = labels (labelledAfter other) ∧
        bundles (labelledAfter one) = bundles (labelledAfter other) ∧
        ∀ label, (resolve label (labelledAfter one)).Perm (resolve label (labelledAfter other))) ∧
    ∀ changes : List (Store.Change ClassifiedUnit),
      (labels (labelledAfter changes)).Nodup ∧
      (∀ label, label ∈ labels (labelledAfter changes) ↔
        label ∈ (bundles (labelledAfter changes)).map (·.label)) ∧
      (∀ label, label ∈ labels (labelledAfter changes) ↔
        ∃ path, ∃ u ∈ (Store.empty.changed changes).units path,
          (u.purpose = label ∧ label ≠ "") ∨ label ∈ u.patterns) ∧
      ∀ b ∈ bundles (labelledAfter changes), 0 < b.fileCount := by
  constructor
  · intro one other same
    have perm := labelledAfter_perm same
    exact ⟨labels_perm perm, bundles_perm perm, resolve_perm perm⟩
  · intro changes
    refine ⟨nodup_labels _, fun label => (mem_bundles_label _ label).symm, fun label => ?_,
      fun b => bundle_fileCount⟩
    have held := Store.mem_all (Store.history_apart changes)
    rw [mem_labels]
    constructor
    · rintro ⟨u, member, carries⟩
      obtain ⟨unit, inside, rfl⟩ := List.mem_map.mp member
      obtain ⟨path, stored⟩ := (held unit).mp inside
      exact ⟨path, unit, stored, carries⟩
    · rintro ⟨path, unit, stored, carries⟩
      exact ⟨labelledUnit unit, List.mem_map_of_mem ((held unit).mpr ⟨path, stored⟩), carries⟩

def checkUnit : ClassifiedUnit :=
  labelledBy "src/check.ts" "function" "Type checker" ["public-api"]

def cardUnit : ClassifiedUnit :=
  labelledBy "web/card.tsx" "react_component" "React component" ["public-api"]

/-- Two files, one after the other. -/
def straightHistory : List (Store.Change ClassifiedUnit) :=
  [.replace "src/check.ts" [checkUnit], .replace "web/card.tsx" [cardUnit]]

/-- The same two files the other way round, one of them in place of earlier units, behind files that went
away. -/
def windingHistory : List (Store.Change ClassifiedUnit) :=
  [.replace "old.js" [checkUnit], .clear, .replace "web/card.tsx" [checkUnit, cardUnit],
   .replace "src/gone.ts" [cardUnit], .replace "src/check.ts" [checkUnit], .remove "src/gone.ts",
   .replace "web/card.tsx" [cardUnit]]

theorem straight_winding (path : String) : (Store.empty.changed straightHistory).units path =
    (Store.empty.changed windingHistory).units path := by
  by_cases check : "src/check.ts" = path
  · subst check
    rfl
  · by_cases card : "web/card.tsx" = path
    · subst card
      rfl
    · have absent : Keyed.lookup path (Store.empty : Store ClassifiedUnit).files = none := rfl
      by_cases gone : "src/gone.ts" = path <;>
        simp [Store.changed, straightHistory, windingHistory, Store.Change.apply, Store.units,
          Store.replace, Store.remove, Keyed.lookup_put, Keyed.lookup_erase, check, card, gone, absent]

theorem bundles_of_stored_winding :
    (∀ path, (Store.empty.changed straightHistory).units path =
      (Store.empty.changed windingHistory).units path) ∧
    resolve "public-api" (labelledAfter straightHistory) = ["src/check.ts", "web/card.tsx"] ∧
    resolve "public-api" (labelledAfter windingHistory) = ["web/card.tsx", "src/check.ts"] ∧
    labels (labelledAfter straightHistory) = labels (labelledAfter windingHistory) ∧
    bundles (labelledAfter straightHistory) = bundles (labelledAfter windingHistory) ∧
    (resolve "public-api" (labelledAfter straightHistory)).Perm
      (resolve "public-api" (labelledAfter windingHistory)) := by
  obtain ⟨known, listed, found⟩ := bundles_of_stored.1 straightHistory windingHistory straight_winding
  exact ⟨straight_winding, by decide +kernel, by decide +kernel, known, listed, found "public-api"⟩

end CodeAtlas.Bundles
