import CodeAtlas.Embedding.Backend

set_option autoImplicit false

/-! Backends that embed each text in one way. -/

namespace CodeAtlas.Embedding

/-- The backend embeds just the texts that `f` has an embedding for. A batch may fail although each of
its texts can be embedded alone. -/
structure Backend.Embeds (backend : Backend) (f : String → Option Embedding) : Prop where
  usable : backend.obstacle = none
  batch : ∀ texts vectors, backend.embed texts = .ok vectors → texts.map f = vectors.map some
  alone : ∀ text vector, f text = some vector → backend.embed [text] = .ok [vector]

/-- The backend has one answer to each text, in a batch or alone, whether it can be used or not. -/
structure Backend.Answers (backend : Backend) (f : String → Option Embedding) : Prop where
  batch : ∀ texts vectors, backend.embed texts = .ok vectors → texts.map f = vectors.map some
  alone : ∀ text vector, f text = some vector → backend.embed [text] = .ok [vector]

theorem Backend.Answers.embeds {backend : Backend} {f : String → Option Embedding}
    (answers : backend.Answers f) (usable : backend.obstacle = none) : backend.Embeds f :=
  ⟨usable, answers.batch, answers.alone⟩

theorem Backend.Embeds.answers {backend : Backend} {f : String → Option Embedding}
    (embeds : backend.Embeds f) : backend.Answers f :=
  ⟨embeds.batch, embeds.alone⟩

theorem mapM_hashed (dimensions : Int) (texts : List String) (vectors : List Embedding)
    (done : texts.mapM (hashed dimensions) = .ok vectors) :
    texts.map (fun text => (hashed dimensions text).toOption) = vectors.map some := by
  induction texts generalizing vectors with
  | nil =>
    obtain rfl := Except.ok.inj done
    rfl
  | cons text rest ih =>
    rw [List.mapM_cons] at done
    cases first : hashed dimensions text with
    | error fault => simp [first, bind, Except.bind] at done
    | ok vector =>
      cases later : rest.mapM (hashed dimensions) with
      | error fault => simp [first, later, bind, Except.bind] at done
      | ok others =>
        rw [first, later] at done
        obtain rfl := Except.ok.inj done
        rw [List.map_cons, List.map_cons, first, ih others later]
        rfl

theorem hashing_embeds (dimensions : Int) :
    (Backend.hashing dimensions).Embeds fun text => (hashed dimensions text).toOption := by
  refine ⟨rfl, mapM_hashed dimensions, ?_⟩
  intro text vector value
  cases found : hashed dimensions text with
  | error fault => simp [found, Except.toOption] at value
  | ok given =>
    rw [found] at value
    obtain rfl := Option.some.inj value
    simp only [Backend.hashing, List.mapM_cons, List.mapM_nil, found]
    rfl

theorem normalize_shape (v : Embedding) : v.normalize.shape = v.shape := by
  rw [Embedding.normalize]
  split <;> rfl

theorem counts_length {N : Type} [OfNat N 0] [OfNat N 1] [Add N] (size : Nat)
    (tokens : List String) : (counts N size tokens).length = size := by
  have kept (buckets : List N) : (tokens.foldl (hit size) buckets).length = buckets.length := by
    induction tokens generalizing buckets with
    | nil => rfl
    | cons token rest ih => exact (ih _).trans (List.length_modify ..)
  exact (kept _).trans List.length_replicate

theorem hashed_eq_embedded (dimensions : Int) (positive : 0 < dimensions) (text : String) :
    hashed dimensions text = .ok (embedded dimensions.toNat text) := by
  have enough : ¬dimensions < 0 := by omega
  have buckets : (dimensions == 0) = false := by simpa using Int.ne_of_gt positive
  simp only [hashed, if_neg enough, buckets, Bool.false_and, Bool.false_eq_true, if_false]

-- Where there are buckets, every text has an embedding with an entry for each.
theorem hashed_ok (dimensions : Int) (positive : 0 < dimensions) (text : String) :
    ∃ vector, hashed dimensions text = .ok vector ∧ vector.shape = [dimensions.toNat] := by
  refine ⟨_, hashed_eq_embedded dimensions positive text, ?_⟩
  rw [embedded, normalize_shape, Embedding.ofList, counts_length]

end CodeAtlas.Embedding
