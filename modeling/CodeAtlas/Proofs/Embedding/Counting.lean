import CodeAtlas.Proofs.Embedding.Backend
import Mathlib.Data.List.Induction

set_option autoImplicit false

/-! Buckets after the tokens of a text: they hold how often each was hit, in whatever order. -/

namespace CodeAtlas.Embedding

section

variable {N : Type} [OfNat N 0] [OfNat N 1] [Add N]

omit [OfNat N 0] in
theorem hit_hit (size : Nat) (buckets : List N) (token other : String) :
    hit size (hit size buckets token) other = hit size (hit size buckets other) token := by
  by_cases same : bucketOf size token = bucketOf size other
  · simp only [hit, same]
  · exact List.modify_modify_ne _ _ buckets same

theorem counts_perm (size : Nat) {tokens others : List String} (same : tokens.Perm others) :
    counts N size tokens = counts N size others :=
  same.foldl_eq' (fun token _ other _ buckets => hit_hit size buckets token other) _

variable (N) in
/-- The number of a type that so many steps of one lead to from zero. -/
def countedUp : Nat → N
  | 0 => 0
  | n + 1 => countedUp n + 1

theorem hit_map_countedUp (size : Nat) (buckets : List Nat) (token : String) :
    hit size (buckets.map (countedUp N)) token = (hit size buckets token).map (countedUp N) := by
  refine List.ext_getElem (by simp [hit]) fun bucket inside _ => ?_
  by_cases same : bucketOf size token = bucket
  · simp [hit, same, countedUp]
  · simp [hit, same]

-- In numbers of any type the buckets hold what they hold in whole numbers, counted up: where adding
-- one stops telling numbers apart, the bucket stops there.
theorem counts_eq_map (size : Nat) (tokens : List String) :
    counts N size tokens = (counts Nat size tokens).map (countedUp N) := by
  induction tokens using List.reverseRecOn with
  | nil => simp [counts, countedUp]
  | append_singleton tokens token ih =>
    simp only [counts, List.foldl_append, List.foldl_cons, List.foldl_nil] at ih ⊢
    rw [ih, hit_map_countedUp]

end

/-- Each bucket holds how many of the tokens belong to it, and nothing is lost. -/
structure Counted (size : Nat) (tokens : List String) (buckets : List Nat) : Prop where
  length : buckets.length = size
  total : sum buckets = tokens.length
  held : ∀ bucket (inside : bucket < buckets.length),
    buckets[bucket] = tokens.countP (bucketOf size · == bucket)

theorem sum_append (front back : List Nat) : sum (front ++ back) = sum front + sum back := by
  simp only [sum, ← List.sum_eq_foldl_nat, List.sum_append]

theorem sum_cons (n : Nat) (rest : List Nat) : sum (n :: rest) = n + sum rest := by
  simp only [sum, ← List.sum_eq_foldl_nat, List.sum_cons]

theorem bucketOf_lt {size : Nat} (positive : 0 < size) (token : String) :
    bucketOf size token < size :=
  Nat.mod_lt _ positive

theorem Counted.hit {size : Nat} {tokens : List String} {buckets : List Nat} (positive : 0 < size)
    (counted : Counted size tokens buckets) (token : String) :
    Counted size (tokens ++ [token]) (hit size buckets token) where
  length := (List.length_modify ..).trans counted.length
  total := by
    have inside : bucketOf size token < buckets.length :=
      counted.length ▸ bucketOf_lt positive token
    obtain ⟨front, n, back, parts, _, changed⟩ := List.exists_of_modify (· + 1) inside
    have before : sum buckets = sum front + (n + sum back) := by rw [parts, sum_append, sum_cons]
    have after : sum (Embedding.hit size buckets token) = sum front + (n + 1 + sum back) := by
      rw [Embedding.hit, changed, sum_append, sum_cons]
    have total := counted.total
    rw [after, List.length_append, List.length_singleton]
    omega
  held := by
    intro bucket inside
    have there : bucket < buckets.length := by simpa [Embedding.hit] using inside
    by_cases same : bucketOf size token = bucket
    · simp [Embedding.hit, same, counted.held bucket there]
    · simp [Embedding.hit, same, counted.held bucket there]

theorem counts_counted {size : Nat} (positive : 0 < size) (tokens : List String) :
    Counted size tokens (counts Nat size tokens) := by
  induction tokens using List.reverseRecOn with
  | nil => exact ⟨counts_length size [], by simp [counts, sum, ← List.sum_eq_foldl_nat], by simp [counts]⟩
  | append_singleton tokens token ih =>
    rw [counts, List.foldl_append]
    exact ih.hit positive token

theorem embed_eq_embedded (dimensions : Int) (positive : 0 < dimensions) (texts : List String) :
    (Backend.hashing dimensions).embed texts = .ok (texts.map (embedded dimensions.toNat)) := by
  rw [Backend.hashing, funext (hashed_eq_embedded dimensions positive)]
  exact List.mapM_pure

theorem counts_unhit {N : Type} [OfNat N 0] [OfNat N 1] [Add N] {size : Nat} (positive : 0 < size)
    (tokens : List String) (bucket : Nat) (inside : bucket < size)
    (unhit : ∀ token ∈ tokens, bucketOf size token ≠ bucket) :
    (counts N size tokens)[bucket]? = some 0 := by
  have counted := counts_counted positive tokens
  have there : bucket < (counts Nat size tokens).length := counted.length.symm ▸ inside
  have none : (counts Nat size tokens)[bucket] = 0 := by
    rw [counted.held bucket there, List.countP_eq_zero]
    simpa using unhit
  rw [counts_eq_map, List.getElem?_map, List.getElem?_eq_getElem there, none]
  rfl

/-- Two texts whose tokens are the same in some order have the same counts, in numbers of any type,
and the same embedding; a batch is embedded text by text; and the counts of a text come to the number
of its tokens, with nothing in a bucket that no token belongs to. -/
theorem hashing_counts_tokens (dimensions : Int) (positive : 0 < dimensions) :
    let size := dimensions.toNat
    let embed := (Backend.hashing dimensions).embed
    (∀ text other, (tokens text).Perm (tokens other) →
      (∀ (N : Type) [OfNat N 0] [OfNat N 1] [Add N],
        counts N size (tokens text) = counts N size (tokens other)) ∧
      embed [text] = embed [other]) ∧
    (∀ texts, embed texts = .ok (texts.map (embedded size))) ∧
    ∀ text,
      embed [text] = .ok [embedded size text] ∧
      embedded size text =
        normalize (ofList ((counts Nat size (tokens text)).map (countedUp Float32))) ∧
      sum (counts Nat size (tokens text)) = (tokens text).length ∧
      ∀ (N : Type) [OfNat N 0] [OfNat N 1] [Add N] (bucket : Nat), bucket < size →
        (∀ token ∈ tokens text, bucketOf size token ≠ bucket) →
        (counts N size (tokens text))[bucket]? = some 0 := by
  intro size embed
  have buckets : 0 < size := by omega
  have alone (text : String) : embed [text] = .ok [embedded size text] :=
    embed_eq_embedded dimensions positive [text]
  refine ⟨?_, embed_eq_embedded dimensions positive, ?_⟩
  · intro text other same
    refine ⟨fun N => counts_perm size same, ?_⟩
    rw [alone, alone, embedded, embedded, counts_perm size same]
  · intro text
    refine ⟨alone text, ?_, (counts_counted buckets (tokens text)).total, ?_⟩
    · rw [embedded, counts_eq_map]
    · intro N _ _ _ bucket inside unhit
      exact counts_unhit buckets (tokens text) bucket inside unhit

theorem hashing_counts_tokens_of_camel_and_snake :
    (tokens "parseFile").Perm (tokens "file_parse") ∧
      (Backend.hashing 4).embed ["parseFile"] = (Backend.hashing 4).embed ["file_parse"] ∧
      counts Nat 4 (tokens "parseFile") = [1, 0, 1, 0] ∧
      (counts Float32 4 (tokens "parseFile"))[1]? = some 0 := by
  have counted := hashing_counts_tokens 4 (by decide)
  have same : (tokens "parseFile").Perm (tokens "file_parse") := by decide +kernel
  have unhit : ∀ token ∈ tokens "parseFile", bucketOf 4 token ≠ 1 := by decide +kernel
  exact ⟨same, (counted.1 _ _ same).2, by decide +kernel,
    (counted.2.2 "parseFile").2.2.2 Float32 1 (by decide) unhit⟩

end CodeAtlas.Embedding
