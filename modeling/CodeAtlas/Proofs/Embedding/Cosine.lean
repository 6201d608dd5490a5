import CodeAtlas.Proofs.Embedding.Counting
import Mathlib.Algebra.Order.Field.Basic
import Mathlib.Data.Rat.Cast.Order
import Mathlib.Tactic.FieldSimp
import Mathlib.Tactic.Linarith
import Mathlib.Tactic.NormNum
import Mathlib.Tactic.Positivity
import Mathlib.Tactic.Ring

set_option autoImplicit false

/-! Cosines of vectors of counts without rounding: their squares are rational. -/

namespace CodeAtlas.Embedding

def dot (a b : List Nat) : Nat :=
  inner a b

-- The square of a cosine. It is zero where the vectors differ in length, or one of them is empty or
-- of length zero.
def cosineSquare (a b : List Nat) : ℚ :=
  if a.isEmpty || b.isEmpty || a.length != b.length then 0
  else if dot a a == 0 || dot b b == 0 then 0
  else (dot a b : ℚ) ^ 2 / (dot a a * dot b b)

/-- One vector of counts is a positive multiple of the other. -/
def Multiple (a b : List Nat) : Prop :=
  ∃ factor : ℚ, 0 < factor ∧ a.map (Nat.cast : Nat → ℚ) = b.map fun n : Nat => factor * n

section

variable {a b : List Nat}

end

end CodeAtlas.Embedding
