import CodeAtlas.Proofs.Number.Order
import Mathlib.Data.List.Forall2

set_option autoImplicit false

/-! Rankings of the same items in another order: place by place the scores are tied, and only the limit can
tell apart which of the tied items are kept. -/

namespace CodeAtlas.Index

section

variable {α S K : Type} [LinearOrder K] {le : S → S → Bool} {place : S → WithBot K} {least : S}

/-- Scores are compared by their places in a line. A score that has none compares with nothing. -/
def Ranks (le : S → S → Bool) (place : S → WithBot K) : Prop :=
  ∀ a b, le a b = true ↔ place a ≠ ⊥ ∧ place a ≤ place b

theorem reaching_placed (ranks : Ranks le place) (scored : List (α × S)) :
    ∀ hit ∈ reaching le least scored, place hit.2 ≠ ⊥ := by
  intro hit member
  obtain ⟨some, reaches⟩ := (ranks least hit.2).mp (List.mem_filter.mp member).2
  exact ne_bot_of_le_ne_bot some reaches

/-- One item may stand before another one in a ranking. -/
def down (place : S → WithBot K) (a b : α × S) : Bool :=
  decide (place b.2 ≤ place a.2)

theorem down_trans (place : S → WithBot K) (a b c : α × S)
    (first : down place a b = true) (second : down place b c = true) : down place a c = true :=
  decide_eq_true ((of_decide_eq_true second).trans (of_decide_eq_true first))

theorem down_total (place : S → WithBot K) (a b : α × S) :
    (down place a b || down place b a) = true := by
  simpa [down] using le_total (place b.2) (place a.2)

-- A sort asks for an order in which all scores compare, as places do.
theorem sortDown_eq (ranks : Ranks le place) (scored : List (α × S))
    (placed : ∀ hit ∈ scored, place hit.2 ≠ ⊥) :
    sortDown le scored = scored.mergeSort (down place) := by
  have mapped := List.map_mergeSort (f := id) (l := scored) (r := fun a b => le b.2 a.2)
    (s := down place) fun a _ b member => by
      rw [Bool.eq_iff_iff, ranks, down, decide_eq_true_iff]
      exact and_iff_right (placed b member)
  rwa [List.map_id, List.map_id] at mapped

theorem sortDown_pairwise (ranks : Ranks le place) (scored : List (α × S))
    (placed : ∀ hit ∈ scored, place hit.2 ≠ ⊥) :
    (sortDown le scored).Pairwise fun a b => place b.2 ≤ place a.2 := by
  rw [sortDown_eq ranks scored placed]
  exact (List.pairwise_mergeSort (down_trans place) (down_total place) scored).imp of_decide_eq_true

-- Of two items that share a place, the one that stands before the other keeps standing there.
theorem sortDown_stable (ranks : Ranks le place) (scored : List (α × S))
    (placed : ∀ hit ∈ scored, place hit.2 ≠ ⊥) {a b : α × S} (tied : place b.2 ≤ place a.2)
    (before : [a, b].Sublist scored) : [a, b].Sublist (sortDown le scored) := by
  rw [sortDown_eq ranks scored placed]
  exact List.pair_sublist_mergeSort (down_trans place) (down_total place) (decide_eq_true tied) before

variable {one other : List (α × S)}

theorem ranked_perm (least : S) (perm : one.Perm other) :
    (sortDown le (reaching le least one)).Perm (sortDown le (reaching le least other)) :=
  (List.mergeSort_perm _ _).trans ((perm.filter _).trans (List.mergeSort_perm _ _).symm)

theorem best_places (ranks : Ranks le place) (perm : one.Perm other) (least : S) (limit : Nat) :
    (best le least limit one).map (fun hit => place hit.2) =
      (best le least limit other).map fun hit => place hit.2 := by
  have sorted (scored : List (α × S)) :
      ((sortDown le (reaching le least scored)).map fun hit => place hit.2).Pairwise (· ≥ ·) :=
    List.pairwise_map.mpr (sortDown_pairwise ranks _ (reaching_placed ranks scored))
  have whole := List.Perm.eq_of_pairwise (fun a b _ _ first second => le_antisymm second first)
    (sorted one) (sorted other) ((ranked_perm least perm).map _)
  simp only [best, List.map_take, whole]

theorem take_or_below {β : Type} {key : β → WithBot K} {items : List β}
    (sorted : items.Pairwise fun a b => key b ≤ key a) (limit : Nat) {x : β} (member : x ∈ items) :
    x ∈ items.take limit ∨
      (items.take limit).length = limit ∧ ∀ y ∈ items.take limit, key x ≤ key y := by
  rw [← List.take_append_drop limit items] at sorted member
  rcases List.mem_append.mp member with inside | behind
  · exact .inl inside
  · refine .inr ⟨List.length_take_of_le ?_, ?_⟩
    · have some := List.length_pos_of_mem behind
      rw [List.length_drop] at some
      omega
    · exact fun y taken => (List.pairwise_append.mp sorted).2.2 y taken x behind

/-- The list is full, and its last item shares a place with this one. -/
def Crowded (place : S → WithBot K) (limit : Nat) (hits : List (α × S)) (hit : α × S) : Prop :=
  hits.length = limit ∧ ∃ last, hits.getLast? = some last ∧ place hit.2 = place last.2

-- An item that is among the best in one order but not in the other has been crowded out.
theorem best_or_crowded (ranks : Ranks le place) (perm : one.Perm other) (least : S) (limit : Nat)
    {hit : α × S} (member : hit ∈ best le least limit one) :
    hit ∈ best le least limit other ∨ Crowded place limit (best le least limit other) hit := by
  have sorted : (sortDown le (reaching le least other)).Pairwise fun a b => place b.2 ≤ place a.2 :=
    sortDown_pairwise ranks _ (reaching_placed ranks other)
  have inside := (ranked_perm least perm).mem_iff.mp (List.mem_of_mem_take member)
  refine (take_or_below sorted limit inside).imp id fun ⟨full, below⟩ => ⟨full, ?_⟩
  have peer : place hit.2 ∈ (best le least limit other).map fun hit => place hit.2 := by
    rw [← best_places ranks perm]
    exact List.mem_map_of_mem member
  obtain ⟨equal, there, same⟩ := List.mem_map.mp peer
  have taken := sorted.sublist (List.take_sublist limit _)
  change (best le least limit other).Pairwise _ at taken
  change ∀ y ∈ best le least limit other, _ at below
  obtain ⟨front, last, parts⟩ := List.eq_nil_or_concat (best le least limit other)
    |>.resolve_left (List.ne_nil_of_mem there)
  rw [parts, List.concat_eq_append] at taken there below ⊢
  refine ⟨last, by simp, le_antisymm (below last (by simp)) ?_⟩
  rw [← same]
  rcases List.mem_append.mp there with before | here
  · exact (List.pairwise_append.mp taken).2.2 equal before last (by simp)
  · rw [List.mem_singleton.mp here]

end

open CodeAtlas.Number

/-- Scores of which neither is below the other. -/
def Tied (a b : Float) : Prop :=
  floatLe a b = true ∧ floatLe b a = true

theorem tied_of_place {a b : Float} (some : place a ≠ ⊥) (same : place a = place b) : Tied a b :=
  ⟨(floatLe_iff a b).mpr ⟨some, same.le⟩, (floatLe_iff b a).mpr ⟨same ▸ some, same.ge⟩⟩

/-- The answer is as long as it may be, and its last hit has the score of this one. -/
def CrowdedOut (limit : Nat) (answer : List Hit) (hit : Hit) : Prop :=
  answer.length = limit ∧ ∃ last, answer.getLast? = some last ∧ Tied hit.similarity last.similarity

/-- Answers that differ at most in how hits of one score are ordered, and in which hits with the score of
the last one are left out. -/
structure Matching (limit : Nat) (one other : List Hit) : Prop where
  tied : List.Forall₂ (fun a b => Tied a.similarity b.similarity) one other
  forth : ∀ hit ∈ one, hit ∈ other ∨ CrowdedOut limit other hit
  back : ∀ hit ∈ other, hit ∈ one ∨ CrowdedOut limit one hit

-- Without different hits of one score, the answers are the same.
theorem Matching.eq {limit : Nat} {one other : List Hit} (matching : Matching limit one other)
    (apart : ∀ a ∈ one, ∀ b ∈ other, Tied a.similarity b.similarity → a = b) : one = other := by
  have tied := matching.tied
  clear matching
  induction tied with
  | nil => rfl
  | cons first later ih =>
    rw [apart _ (by simp) _ (by simp) first,
      ih fun a inside b member =>
        apart a (List.mem_cons_of_mem _ inside) b (List.mem_cons_of_mem _ member)]

section

variable {one other : List (String × Stored)}

/-- What is shown of a record and its score. -/
def hitOf (item : (String × Stored) × Float) : Hit :=
  ⟨item.1.1, item.2, item.1.2.metadata⟩

theorem rank_eq (similarity : Stored → Float) (least : Float) (limit : Nat)
    (records : List (String × Stored)) : rank similarity least limit records =
      (best floatLe least limit (records.map fun record => (record, similarity record.2))).map
        hitOf := rfl

theorem Crowded.out {limit : Nat} {items : List ((String × Stored) × Float)}
    {item : (String × Stored) × Float} (crowded : Crowded Number.place limit items item)
    (some : Number.place item.2 ≠ ⊥) : CrowdedOut limit (items.map hitOf) (hitOf item) := by
  obtain ⟨full, last, found, same⟩ := crowded
  refine ⟨by rw [List.length_map, full], hitOf last, ?_, tied_of_place some same⟩
  rw [List.getLast?_map, found, Option.map_some]

theorem rank_matching (similarity : Stored → Float) (least : Float) (limit : Nat)
    (perm : one.Perm other) :
    Matching limit (rank similarity least limit one) (rank similarity least limit other) := by
  let scored (records : List (String × Stored)) :=
    records.map fun record => (record, similarity record.2)
  have placed (records : List (String × Stored)) (hit : (String × Stored) × Float)
      (member : hit ∈ best floatLe least limit (scored records)) : place hit.2 ≠ ⊥ :=
    reaching_placed floatLe_iff _ hit
      ((List.mergeSort_perm _ _).mem_iff.mp (List.mem_of_mem_take member))
  have stays {first second : List (String × Stored)} (perm : first.Perm second) (hit : Hit)
      (member : hit ∈ rank similarity least limit first) :
      hit ∈ rank similarity least limit second ∨
        CrowdedOut limit (rank similarity least limit second) hit := by
    rw [rank_eq] at member
    rw [rank_eq]
    obtain ⟨item, inside, rfl⟩ := List.mem_map.mp member
    refine (best_or_crowded floatLe_iff (perm.map _) least limit inside).imp ?_ ?_
    · exact List.mem_map_of_mem
    · exact fun crowded => crowded.out (placed first item inside)
  refine ⟨?_, stays perm, stays perm.symm⟩
  have places := best_places floatLe_iff (perm.map fun record => (record, similarity record.2))
    least limit
  rw [← List.forall₂_eq_eq_eq, List.forall₂_map_left_iff, List.forall₂_map_right_iff] at places
  rw [rank_eq, rank_eq, List.forall₂_map_left_iff, List.forall₂_map_right_iff]
  exact ((List.forall₂_and_left _ _).mpr ⟨placed one, places⟩).imp fun a b both =>
    tied_of_place both.1 both.2

end

-- Records of one score stay in the order in which they were stored.
theorem rank_level {similarity : Stored → Float} {least score : Float}
    {records : List (String × Stored)}
    (level : ∀ record ∈ records, similarity record.2 = score) (reaches : floatLe least score = true)
    (limit : Nat) : rank similarity least limit records =
      (records.take limit).map fun record => hitOf (record, score) := by
  obtain ⟨some, below⟩ := (floatLe_iff least score).mp reaches
  have peer : floatLe score score = true :=
    (floatLe_iff score score).mpr ⟨ne_bot_of_le_ne_bot some below, le_refl _⟩
  have scored : records.map (fun record => (record, similarity record.2)) =
      records.map fun record => (record, score) :=
    List.map_congr_left fun record member => by rw [level record member]
  have reached : reaching floatLe least (records.map fun record => (record, score)) =
      records.map fun record => (record, score) := by
    refine List.filter_eq_self.mpr fun hit member => ?_
    obtain ⟨record, -, rfl⟩ := List.mem_map.mp member
    exact reaches
  have sorted : sortDown floatLe (records.map fun record => (record, score)) =
      records.map fun record => (record, score) :=
    List.mergeSort_of_pairwise (List.pairwise_map.mpr (List.pairwise_of_forall fun _ _ => peer))
  rw [rank_eq, scored, best, reached, sorted, ← List.map_take, List.map_map]
  rfl

/-- Outcomes of a search for at most so many hits: the same fault, or answers that match. -/
inductive Agree (limit : Nat) : Except Fault (List Hit) → Except Fault (List Hit) → Prop
  | fault (fault : Fault) : Agree limit (.error fault) (.error fault)
  | hits {one other : List Hit} (matching : Matching limit one other) :
      Agree limit (.ok one) (.ok other)

/-- Records of which a search can see the labels. -/
def Objects (records : List (String × Stored)) : Prop :=
  ∀ record ∈ records, ∃ fields, record.2.metadata = .object fields

theorem filterAuxM_ok {α : Type} {test : α → Except Fault Bool} {keeps : α → Bool} (items : List α)
    (answers : ∀ x ∈ items, test x = .ok (keeps x)) (before : List α) :
    items.filterAuxM test before = .ok ((items.filter keeps).reverse ++ before) := by
  induction items generalizing before with
  | nil => rfl
  | cons x rest ih =>
    have later (before : List α) :=
      ih (fun y member => answers y (List.mem_cons_of_mem x member)) before
    simp only [List.filterAuxM, answers x (by simp), bind, Except.bind, List.filter_cons]
    cases keeps x with
    | true => simpa using later (x :: before)
    | false => exact later before

def Filter.passes (filter : Filter) (metadata : Document) : Bool :=
  match filter.keeps metadata with
  | .ok answer => answer
  | .error _ => false

/-- What is kept of records. Labels are looked for in objects only. -/
theorem kept_eq (filter : Filter) {records : List (String × Stored)}
    (legible : filter = .all ∨ Objects records) :
    kept filter records = .ok (records.filter fun record => filter.passes record.2.metadata) := by
  have answers : ∀ record ∈ records,
      filter.keeps record.2.metadata = .ok (filter.passes record.2.metadata) := by
    intro record member
    rcases legible with rfl | objects
    · rfl
    · obtain ⟨fields, metadata⟩ := objects record member
      rw [metadata]
      cases filter <;> rfl
  rw [kept, List.filterM, filterAuxM_ok records answers []]
  simp only [bind, Except.bind, pure, Except.pure, List.append_nil, List.reverse_reverse]

theorem kept_all (records : List (String × Stored)) : kept .all records = .ok records := by
  rw [kept_eq .all (.inl rfl)]
  exact congrArg Except.ok (List.filter_eq_self.mpr fun _ _ => rfl)

namespace VectorIndex

/-- The backend is prepared only if it can be. -/
def Settled (ix : VectorIndex) : Prop :=
  ix.backend.obstacle = none ∨ ix.ready = false

theorem Settled.prepare_eq {ix : VectorIndex} (settled : ix.Settled) :
    ix.prepare = ix.backend.initialize?.map fun _ => { ix with ready := true } := by
  rw [prepare]
  split
  next ready =>
    rcases settled with clear | unready
    · rw [Embedding.Backend.initialize?, clear, ← ready]
      rfl
    · simp [ready] at unready
  next => rfl

theorem askOne_congr {one other : VectorIndex} (same : other.backend = one.backend)
    (text : String) : other.askOne text = one.askOne text := by
  simp only [askOne, ask, same]

-- Indexes with the same records in another order answer each query alike, but for ties.
theorem find_agree {one other : VectorIndex} (same : other.backend = one.backend)
    (settled : one.Settled) (later : other.Settled) (perm : one.records.Perm other.records)
    (objects : Objects one.records) (query : Query) :
    Agree query.limit.toNat (one.find query).1 (other.find query).1 := by
  have again : Objects other.records := fun record member =>
    objects record (perm.mem_iff.mpr member)
  rw [find, find, settled.prepare_eq, later.prepare_eq, same]
  split
  · exact .hits ⟨.nil, by simp, by simp⟩
  · cases one.backend.initialize? with
    | error fault => exact .fault fault
    | ok _ =>
      have asked : ({ other with ready := true } : VectorIndex).askOne query.text =
          ({ one with ready := true } : VectorIndex).askOne query.text := askOne_congr same _
      simp only [Except.map, same] at asked ⊢
      rw [asked]
      cases ({ one with ready := true } : VectorIndex).askOne query.text with
      | mk answer taken =>
        cases answer with
        | error fault => exact .fault fault
        | ok wanted =>
          simp only [kept_eq query.filter (.inr objects), kept_eq query.filter (.inr again), bind,
            Except.bind, pure, Except.pure]
          exact .hits (rank_matching _ _ _ (perm.filter _))

end VectorIndex

end CodeAtlas.Index
