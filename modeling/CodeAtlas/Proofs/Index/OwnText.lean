import CodeAtlas.Proofs.Embedding.Cosine
import CodeAtlas.Proofs.Embedding.Tokens
import CodeAtlas.Proofs.Index.Best

set_option autoImplicit false

/-! Units under their own search text, where a backend counts tokens. With counts and cosines taken without
rounding, no record is more similar to the text than that of the unit. -/

namespace CodeAtlas.Index

open CodeAtlas.Classify CodeAtlas.Embedding CodeAtlas.Text

/-! ### The text that a unit is found by -/

/-- What is stored under an identity, before its counts are made an embedding. -/
structure Tally where
  id : String
  counts : List Nat
  metadata : Document

def Tally.stored (t : Tally) : String × Stored :=
  (t.id, ⟨(Embedding.ofList (t.counts.map (countedUp Float32))).normalize, t.metadata⟩)

section

variable {dimensions : Int} {ix : VectorIndex} {held : List Tally} {units : List ClassifiedUnit}

end

/-! ### The ranking without rounding -/

section

variable {α S K : Type} [LinearOrder K] {le : S → S → Bool} {place : S → WithBot K} {least : S}

end

/-- A search for the counts of a record finds it with a cosine of one, which no record exceeds. What is
ranked before it has a positive multiple of its counts. -/
structure Leads (own : Tally) (records : List Tally) (hits : List (Tally × ℚ)) : Prop where
  found : (own, 1) ∈ hits
  most : ∀ other ∈ records, cosineSquare own.counts other.counts ≤ 1
  before : ∀ before after, hits = before ++ (own, 1) :: after →
    ∀ hit ∈ before, Multiple hit.1.counts own.counts

end CodeAtlas.Index
