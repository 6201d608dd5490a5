import CodeAtlas.Proofs.Index.Journal
import CodeAtlas.Proofs.Index.Ranking

set_option autoImplicit false

/-! What a search finds, whatever the index went through before: of the records that may be shown, the ones
with the highest scores, and of those with one score the ones whose identities came first. -/

namespace CodeAtlas.Index

open CodeAtlas.Classify

/-! ### Two items in a list without repetition -/

section

variable {α : Type} {items : List α} {a b : α}

theorem one_before_other (first : a ∈ items) (second : b ∈ items) (apart : a ≠ b) :
    [a, b].Sublist items ∨ [b, a].Sublist items := by
  induction items with
  | nil => cases first
  | cons item later ih =>
    rcases List.mem_cons.mp first with rfl | firstLater <;>
      rcases List.mem_cons.mp second with rfl | secondLater
    · exact absurd rfl apart
    · exact .inl ((List.singleton_sublist.mpr secondLater).cons_cons _)
    · exact .inr ((List.singleton_sublist.mpr firstLater).cons_cons _)
    · exact (ih firstLater secondLater).imp (.cons _) (.cons _)

theorem not_before_each_other (apart : items.Nodup) (forth : [a, b].Sublist items) :
    ¬[b, a].Sublist items := by
  intro back
  induction items with
  | nil => cases forth
  | cons item later ih =>
    rw [List.nodup_cons] at apart
    rw [List.cons_sublist_cons'] at forth back
    rcases forth with forth | ⟨rfl, second⟩
    · rcases back with back | ⟨rfl, -⟩
      · exact ih apart.2 forth back
      · exact apart.1 (forth.mem (by simp))
    · rcases back with back | ⟨rfl, first⟩
      · exact apart.1 (back.mem (by simp))
      · exact apart.1 (List.singleton_sublist.mp first)

end

/-! ### The ranking of hits -/

/-- The items from the highest score down. Of two with one score, the one that stands before the other does so
here as well. -/
structure StableRanking (items ranking : List Hit) : Prop where
  perm : ranking.Perm items
  sorted : ranking.Pairwise fun a b => floatLe b.similarity a.similarity = true ∧
    (floatLe a.similarity b.similarity = true → [a, b].Sublist items)

theorem StableRanking.unique {items one other : List Hit} (apart : items.Nodup)
    (first : StableRanking items one) (second : StableRanking items other) : one = other := by
  refine List.Perm.eq_of_pairwise ?_ first.sorted second.sorted (first.perm.trans second.perm.symm)
  intro a b _ _ ⟨below, forth⟩ ⟨above, back⟩
  exact absurd (back below) (not_before_each_other apart (forth above))

section

variable {α S K : Type} [LinearOrder K] {le : S → S → Bool} {place : S → WithBot K}

theorem sortDown_ranked (ranks : Ranks le place) {scored : List (α × S)} (apart : scored.Nodup)
    (placed : ∀ hit ∈ scored, place hit.2 ≠ ⊥) :
    (sortDown le scored).Pairwise fun a b =>
      le b.2 a.2 = true ∧ (le a.2 b.2 = true → [a, b].Sublist scored) := by
  have perm : (sortDown le scored).Perm scored := List.mergeSort_perm _ _
  have once : (sortDown le scored).Nodup := perm.nodup_iff.mpr apart
  rw [List.pairwise_iff_forall_sublist]
  intro a b before
  have first : a ∈ scored := perm.mem_iff.mp (before.mem (by simp))
  have second : b ∈ scored := perm.mem_iff.mp (before.mem (by simp))
  have below : place b.2 ≤ place a.2 :=
    List.pairwise_iff_forall_sublist.mp (sortDown_pairwise ranks scored placed) before
  refine ⟨(ranks _ _).mpr ⟨placed b second, below⟩, fun tied => ?_⟩
  have distinct : a ≠ b := List.pairwise_iff_forall_sublist.mp once before
  -- If the two stood the other way round, the sort would have left them so.
  rcases one_before_other first second distinct with kept | swapped
  · exact kept
  · have again := sortDown_stable ranks scored placed ((ranks _ _).mp tied).2 swapped
    exact absurd again (not_before_each_other once before)

end

/-- The records that may be shown, as hits, in the order in which they stand. -/
def eligible (filter : Filter) (similarity : Stored → Float) (least : Float)
    (records : List (String × Stored)) : List Hit :=
  (records.map fun record => hitOf (record, similarity record.2)).filter fun hit =>
    filter.passes hit.metadata && !hit.similarity.isNaN && floatLe least hit.similarity

theorem not_isNaN_of_reaches {least score : Float} (reaches : floatLe least score = true) :
    score.isNaN = false := by
  rw [Bool.eq_false_iff, ne_eq, Number.isNaN_iff]
  obtain ⟨some, below⟩ := (Number.floatLe_iff least score).mp reaches
  exact ne_bot_of_le_ne_bot some below

section

variable (filter : Filter) (similarity : Stored → Float) (least : Float)
  (records : List (String × Stored))

theorem eligible_eq : eligible filter similarity least records =
    (reaching floatLe least ((records.filter fun record => filter.passes record.2.metadata).map
      fun record => (record, similarity record.2))).map hitOf := by
  rw [eligible, reaching, List.filter_map, List.filter_map, List.filter_filter, List.map_map]
  congr 1
  refine List.filter_congr fun record _ => ?_
  simp only [Function.comp, hitOf]
  cases reaches : floatLe least (similarity record.2) with
  | true => rw [not_isNaN_of_reaches reaches, Bool.not_false, Bool.and_true, Bool.and_comm]
  | false => rw [Bool.and_false, Bool.false_and]

theorem eligible_ids : ((eligible filter similarity least records).map (·.id)).Sublist
    (records.map (·.1)) := by
  have shown := (List.filter_sublist (l := records.map fun record =>
    hitOf (record, similarity record.2)) (p := fun hit =>
      filter.passes hit.metadata && !hit.similarity.isNaN && floatLe least hit.similarity)).map (·.id)
  rwa [List.map_map] at shown

def ranking : List Hit :=
  (sortDown floatLe (reaching floatLe least
    ((records.filter fun record => filter.passes record.2.metadata).map
      fun record => (record, similarity record.2)))).map hitOf

theorem rank_take (limit : Nat) :
    rank similarity least limit (records.filter fun record => filter.passes record.2.metadata) =
      (ranking filter similarity least records).take limit := by
  rw [rank_eq, best, ranking, List.map_take]

theorem ranking_perm :
    (ranking filter similarity least records).Perm (eligible filter similarity least records) := by
  rw [eligible_eq, ranking]
  exact (List.mergeSort_perm _ _).map hitOf

theorem ranking_stable (apart : (records.map (·.1)).Nodup) :
    StableRanking (eligible filter similarity least records)
      (ranking filter similarity least records) := by
  let scored := reaching floatLe least
    ((records.filter fun record => filter.passes record.2.metadata).map
      fun record => (record, similarity record.2))
  have once : scored.Nodup := by
    refine List.Nodup.filter _ (List.Nodup.map ?_ (List.Nodup.filter _ (.of_map _ apart)))
    exact fun one other same => congrArg Prod.fst same
  have placed : ∀ hit ∈ scored, Number.place hit.2 ≠ ⊥ := reaching_placed Number.floatLe_iff _
  refine ⟨ranking_perm filter similarity least records, ?_⟩
  rw [eligible_eq, ranking, List.pairwise_map]
  exact (sortDown_ranked Number.floatLe_iff once placed).imp fun both =>
    ⟨both.1, fun tied => (both.2 tied).map hitOf⟩

end

/-! ### Labels -/

def Precomputed.Labelled : Precomputed → Prop
  | .unit entry _ => ∃ fields, entry.metadata = .object fields
  | .described value => (fieldOr "metadata" .null value).isPresent = true →
      ∃ fields, fieldOr "metadata" .null value = .object fields

/-- Whatever this change puts has labels that a search can look at. -/
def Change.Labelled : Change → Prop
  | .add _ entries => ∀ entry ∈ entries, ∃ fields, entry.metadata = .object fields
  | .addPrecomputed items => ∀ item ∈ items, item.Labelled
  | .put _ stored => ∃ fields, stored.metadata = .object fields
  | .clear => True

theorem written_metadata {position : Nat} {batch : List Entry} {vectors : List (Option Embedding)}
    {record : String × Stored} (member : record ∈ written position batch vectors) :
    ∃ entry ∈ batch, record.2.metadata = entry.metadata := by
  obtain ⟨⟨⟨id, entry⟩, vector⟩, paired, shown⟩ := List.mem_filterMap.mp member
  obtain ⟨given, -, rfl⟩ := Option.map_eq_some_iff.mp shown
  obtain ⟨i, inside, named⟩ := List.mem_mapIdx.mp (List.of_mem_zip paired).1
  exact ⟨entry, (Prod.mk.inj named).2 ▸ List.getElem_mem inside, rfl⟩

theorem Service.writes_metadata (service : Service) {size fuel position : Nat}
    {entries : List Entry} {record : String × Stored}
    (member : record ∈ service.writes size fuel position entries) :
    ∃ entry ∈ entries, record.2.metadata = entry.metadata := by
  induction fuel generalizing position entries with
  | zero => cases member
  | succ fuel ih =>
    cases entries with
    | nil => cases member
    | cons entry rest =>
      simp only [writes] at member
      split at member
      · cases member
      · rcases List.mem_append.mp member with here | behind
        · obtain ⟨source, inside, same⟩ := written_metadata here
          exact ⟨source, List.mem_of_mem_take inside, same⟩
        · obtain ⟨source, inside, same⟩ := ih behind
          exact ⟨source, List.mem_of_mem_drop inside, same⟩

theorem Service.addWrites_objects (service : Service) {entries : List Entry} {ix : VectorIndex}
    (labelled : ∀ entry ∈ entries, ∃ fields, entry.metadata = .object fields) :
    Objects (service.addWrites entries ix) := by
  intro record member
  rw [addWrites] at member
  split at member
  · cases member
  · split at member
    · cases member
    · obtain ⟨entry, inside, same⟩ := service.writes_metadata member
      rw [same]
      exact labelled entry inside

theorem describedMetadata_object {value metadata : Document}
    (labelled : (Precomputed.described value).Labelled)
    (made : describedMetadata value = .ok metadata) : ∃ fields, metadata = .object fields := by
  simp only [describedMetadata, bind, Except.bind] at made
  split at made
  next own =>
    obtain rfl := Except.ok.inj made
    exact labelled own
  next =>
    split at made
    · cases made
    · split at made
      · cases made
      · exact ⟨_, (Except.ok.inj made).symm⟩

theorem Precomputed.record_labelled {item : Precomputed} (labelled : item.Labelled) {position : Nat}
    {record : String × Stored} (found : item.record position = .ok (some record)) :
    ∃ fields, record.2.metadata = .object fields := by
  cases item with
  | unit entry vector =>
    cases vector with
    | error fault => cases found
    | ok given =>
      obtain ⟨v, -, rfl⟩ := Option.map_eq_some_iff.mp (Except.ok.inj found)
      exact labelled
  | described value =>
    cases value with
    | object fields =>
      simp only [Precomputed.record, bind, Except.bind] at found
      split at found
      · cases found
      next metadata made =>
        split at found
        · cases found
        · obtain ⟨v, -, rfl⟩ := Option.map_eq_some_iff.mp (Except.ok.inj found)
          exact describedMetadata_object labelled made
    | _ => cases found

theorem givenWrites_objects {items : List Precomputed} (labelled : ∀ item ∈ items, item.Labelled)
    (position : Nat) : Objects (givenWrites position items) := by
  induction items generalizing position with
  | nil => simp [Objects, givenWrites]
  | cons item later ih =>
    rw [List.forall_mem_cons] at labelled
    rw [givenWrites]
    split
    next record found =>
      exact List.forall_mem_cons.mpr ⟨item.record_labelled labelled.1 found, ih labelled.2 _⟩
    next => exact ih labelled.2 _
    next => simp [Objects]

theorem Change.note_objects {change : Change} (labelled : change.Labelled) {ix : VectorIndex}
    {noted : List (String × Stored)} (before : Objects noted) : Objects (change.note ix noted) := by
  cases change with
  | add service entries =>
    exact List.forall_mem_append.mpr ⟨before, service.addWrites_objects labelled⟩
  | addPrecomputed items => exact List.forall_mem_append.mpr ⟨before, givenWrites_objects labelled 0⟩
  | put id stored =>
    exact List.forall_mem_append.mpr ⟨before, List.forall_mem_singleton.mpr labelled⟩
  | clear => simp [Objects, note]

theorem journal_objects {changes : List Change} (labelled : ∀ change ∈ changes, change.Labelled)
    {ix : VectorIndex} {noted : List (String × Stored)} (before : Objects noted) :
    Objects (journal ix noted changes) := by
  induction changes generalizing ix noted with
  | nil => exact before
  | cons change later ih =>
    rw [List.forall_mem_cons] at labelled
    exact ih labelled.2 (change.note_objects labelled.1 before)

theorem changed_objects (backend : Embedding.Backend) (batchSize : Int) {changes : List Change}
    (labelled : ∀ change ∈ changes, change.Labelled) :
    Objects ((VectorIndex.empty backend batchSize).changed changes).records := by
  intro record member
  rw [changed_records _ [] changes rfl] at member
  have noted : Objects (journal (.empty backend batchSize) [] changes) :=
    journal_objects labelled (by simp [Objects])
  exact noted record ((Keyed.mem_foldl_put [] _ record member).resolve_left (by simp))

/-! ### Searches -/

namespace VectorIndex

/-- The hits of a search where it is known how similar each record is to what is looked for. -/
def findBy (ix : VectorIndex) (similarity : Stored → Float) (limit : Int) (least : Float)
    (filter : Filter) : Except Fault (List Hit) :=
  (kept filter ix.records).map (rank similarity least limit.toNat)

theorem find_fst {ix : VectorIndex} (usable : ix.Usable) {query : Query} (some : 0 < query.limit)
    {wanted : Embedding} (answer : (ix.askOne query.text).1 = .ok wanted) :
    (ix.find query).1 = ix.findBy (fun stored => wanted.cosine stored.vector) query.limit
      query.least query.filter := by
  have asked : ({ ix with ready := true } : VectorIndex).askOne query.text = ix.askOne query.text :=
    askOne_congr rfl _
  rw [find, if_neg (Int.not_le.mpr some), prepare_usable usable]
  simp only [asked, findBy]
  cases given : ix.askOne query.text with
  | mk vector taken =>
    rw [given] at answer
    obtain rfl := answer
    cases kept query.filter ix.records <;> rfl

end VectorIndex

/-- What a search keeps that looks for a type. An empty type stands for any. -/
def typeFilter (type : String) : Filter :=
  if type.isEmpty then .all else .labelled ["purpose", "kind"] type

/-- The first items of a ranking, as many as there may be. -/
structure Best (items ranking : List Hit) (limit : Nat) (hits : List Hit) : Prop where
  first : hits = ranking.take limit
  apart : (hits.map (·.id)).Nodup
  descending : hits.Pairwise fun a b => floatLe b.similarity a.similarity = true
  above : ∀ omitted ∈ items, omitted ∉ hits → ∀ hit ∈ hits,
    floatLe omitted.similarity hit.similarity = true

theorem StableRanking.best {items ranking : List Hit} (stable : StableRanking items ranking)
    (apart : (items.map (·.id)).Nodup) (limit : Nat) :
    Best items ranking limit (ranking.take limit) := by
  have taken := List.take_sublist limit ranking
  have sorted := stable.sorted.imp And.left
  refine ⟨rfl, ?_, sorted.sublist taken, ?_⟩
  · exact ((stable.perm.map (·.id)).nodup_iff.mpr apart).sublist (taken.map (·.id))
  · intro omitted member absent hit shown
    have inside : omitted ∈ ranking := stable.perm.mem_iff.mpr member
    rw [← List.take_append_drop limit ranking] at sorted inside
    have behind := (List.mem_append.mp inside).resolve_left absent
    exact (List.pairwise_append.mp sorted).2.2 hit shown omitted behind

/-- A search finds the best of what may be shown, whatever went before: there is one way to rank the records
that stand, and the hits are the first of that ranking. -/
theorem search_best (backend : Embedding.Backend) (batchSize : Int) (changes : List Change)
    (similarity : Stored → Float) (least : Float) (type : String)
    (labelled : type = "" ∨ ∀ change ∈ changes, change.Labelled) :
    let ix := (VectorIndex.empty backend batchSize).changed changes
    let items := eligible (typeFilter type) similarity least
      (Keyed.standing (journal (.empty backend batchSize) [] changes))
    ∃ ranking, (∀ other, StableRanking items other ↔ other = ranking) ∧
      ∀ limit, 0 < limit → ∃ hits, ix.findBy similarity limit least (typeFilter type) = .ok hits ∧
        Best items ranking limit.toNat hits ∧
        (∀ more, limit ≤ more → ∃ longer,
          ix.findBy similarity more least (typeFilter type) = .ok longer ∧ hits <+: longer) ∧
        ∀ text wanted, ix.Usable → (ix.askOne text).1 = .ok wanted →
          (∀ stored, similarity stored = wanted.cosine stored.vector) →
          (ix.search text limit least type).1 = .ok hits := by
  intro ix items
  have records : ix.records = Keyed.standing (journal (.empty backend batchSize) [] changes) :=
    changed_standing backend batchSize changes
  have apart : (ix.records.map (·.1)).Nodup := changed_apart backend batchSize changes
  have legible : typeFilter type = .all ∨ Objects ix.records :=
    labelled.imp (fun any => by rw [any]; rfl) (changed_objects backend batchSize)
  have found (limit : Int) : ix.findBy similarity limit least (typeFilter type) =
      .ok ((ranking (typeFilter type) similarity least ix.records).take limit.toNat) := by
    rw [VectorIndex.findBy, kept_eq _ legible, Except.map, rank_take]
  have stable := ranking_stable (typeFilter type) similarity least ix.records apart
  have once := apart.sublist (eligible_ids (typeFilter type) similarity least ix.records)
  have same : items = eligible (typeFilter type) similarity least ix.records := by rw [records]
  rw [← same] at stable once
  refine ⟨ranking (typeFilter type) similarity least ix.records, fun other => ⟨fun another =>
    another.unique (.of_map _ once) stable, fun equal => equal ▸ stable⟩, ?_⟩
  intro limit some
  refine ⟨_, found limit, stable.best once limit.toNat, fun more enough => ⟨_, found more, ?_⟩, ?_⟩
  · exact List.take_prefix_take_left (Int.toNat_le_toNat enough)
  · intro text wanted usable answer known
    have likeness : similarity = fun stored => wanted.cosine stored.vector := funext known
    rw [← found limit, likeness]
    exact VectorIndex.find_fst usable some answer

def wide (width : Nat) (label : String) : Stored :=
  ⟨.ofList (List.replicate width 1), .object [("purpose", .text label)]⟩

/-- The width of an embedding. One without entries compares with nothing. -/
def widthOf (stored : Stored) : Float :=
  match stored.vector.shape with
  | [] | 0 :: _ => 0 / 0
  | width :: _ => Float.ofNat width

def wideChanges : List Change :=
  [.put "old" (wide 9 "view"), .clear, .put "first" (wide 1 "view"), .put "second" (wide 3 "view"),
   .put "bare" (wide 0 "view"), .put "other" (wide 5 "store"), .put "third" (wide 3 "VIEW"),
   .addPrecomputed [.described (.object
      [("id", .text "first"), ("embedding", .list [.int 1, .int 1, .int 1]),
        ("metadata", .object [("purpose", .text "View")])])],
   .put "last" (wide 4 "view")]

def wideHit (id : String) (width : Nat) (label : String) : Hit :=
  ⟨id, Float.ofNat width, (wide width label).metadata⟩

/-- A record that was put again keeps its place among those of its score. -/
theorem search_best_again :
    (∀ change ∈ wideChanges, change.Labelled) ∧
      ∃ hits, ((VectorIndex.empty (.hashing 8) 2).changed wideChanges).findBy widthOf 3 2
          (typeFilter " View ") = .ok hits ∧
        hits = [wideHit "last" 4 "view", wideHit "first" 3 "View", wideHit "second" 3 "view"] := by
  have labelled : ∀ change ∈ wideChanges, change.Labelled := by
    simp [wideChanges, Change.Labelled, Precomputed.Labelled, wide, fieldOr, Document.field?,
      Keyed.lookup]
  refine ⟨labelled, ?_⟩
  obtain ⟨ranking, unique, found⟩ :=
    search_best (.hashing 8) 2 wideChanges widthOf 2 " View " (.inr labelled)
  obtain ⟨hits, answer, best, -⟩ := found 3 (by decide)
  have stable : StableRanking
      [wideHit "first" 3 "View", wideHit "second" 3 "view", wideHit "third" 3 "VIEW",
        wideHit "last" 4 "view"]
      [wideHit "last" 4 "view", wideHit "first" 3 "View", wideHit "second" 3 "view",
        wideHit "third" 3 "VIEW"] := by
    have level : floatLe (Float.ofNat 3) (Float.ofNat 3) = true := by decide +kernel
    have above : floatLe (Float.ofNat 3) (Float.ofNat 4) = true := by decide +kernel
    have apart : floatLe (Float.ofNat 4) (Float.ofNat 3) = false := by decide +kernel
    refine ⟨(List.perm_append_singleton _ [_, _, _]).symm, ?_⟩
    simp [wideHit, level, above, apart]
  exact ⟨hits, answer, by rw [best.first, ← (unique _).mp stable]; rfl⟩

end CodeAtlas.Index
