import CodeAtlas.Index.Search
import Mathlib

set_option autoImplicit false

/-! The order of floats: those that compare with anything stand in a line, in which the two zeros share a
place. -/

namespace CodeAtlas.Number

open CodeAtlas.Index Float.Model

/-- A place in the line: by what sort of number it is, then by its exponent and mantissa. -/
def spot (sort exponent mantissa : Int) : WithBot (Int ×ₗ Int ×ₗ Int) :=
  WithBot.some (toLex (sort, toLex (exponent, mantissa)))

theorem spot_ne_bot (sort exponent mantissa : Int) : spot sort exponent mantissa ≠ ⊥ :=
  WithBot.coe_ne_bot

theorem spot_le (s e m t k n : Int) :
    spot s e m ≤ spot t k n ↔ s < t ∨ s = t ∧ (e < k ∨ e = k ∧ m ≤ n) := by
  simp [spot, Prod.Lex.le_iff]

def placeOf : UnpackedFloat → WithBot (Int ×ₗ Int ×ₗ Int)
  | .notANumber => ⊥
  | .infinity .negative => spot (-2) 0 0
  | .finite .negative m e _ => spot (-1) (-e) (-m)
  | .zero _ => spot 0 0 0
  | .finite .positive m e _ => spot 1 e m
  | .infinity .positive => spot 2 0 0

/-- Where a float stands in the line. One that compares with nothing has no place there. -/
def place (x : Float) : WithBot (Int ×ₗ Int ×ₗ Int) :=
  placeOf x.toModel.unpack

theorem then_isLE (e k : Int) (m n : Nat) :
    ((compare e k).then (compare m n)).isLE = true ↔ e < k ∨ e = k ∧ m ≤ n := by
  rcases Int.lt_trichotomy e k with less | rfl | more
  · simp [Int.compare_eq_lt.mpr less, less]
  · simp [Nat.isLE_compare]
  · have apart : e ≠ k := Int.ne_of_gt more
    simp [Int.compare_eq_gt.mpr more, Int.not_lt.mpr (Int.le_of_lt more), apart]

theorem then_isGE (e k : Int) (m n : Nat) :
    ((compare e k).then (compare m n)).isGE = true ↔ k < e ∨ e = k ∧ n ≤ m := by
  rcases Int.lt_trichotomy e k with less | rfl | more
  · simp [Int.compare_eq_lt.mpr less, Int.not_lt.mpr (Int.le_of_lt less), Int.ne_of_lt less]
  · simp [Nat.isGE_compare]
  · simp [Int.compare_eq_gt.mpr more, more]

theorem le_iff_placeOf (x y : UnpackedFloat) :
    x.le y = true ↔ placeOf x ≠ ⊥ ∧ placeOf x ≤ placeOf y := by
  rcases x with s | - | s | ⟨s, m, e, hm⟩ <;> rcases y with t | - | t | ⟨t, n, k, hn⟩ <;>
    (try cases s) <;> (try cases t) <;>
    simp [UnpackedFloat.le, UnpackedFloat.compare, placeOf, spot_ne_bot, spot_le, then_isLE, then_isGE]
  all_goals decide

theorem floatLe_iff (a b : Float) : floatLe a b = true ↔ place a ≠ ⊥ ∧ place a ≤ place b := by
  have unfolded : floatLe a b = true ↔ Float.le a b = true := decide_eq_true_iff
  have modelled : Float.le a b = true ↔ a.toModel.unpack.le b.toModel.unpack = true :=
    decide_eq_true_iff
  rw [unfolded, modelled, le_iff_placeOf, place, place]

theorem isNaN_iff (x : Float) : x.isNaN = true ↔ place x = ⊥ := by
  have modelled : x.isNaN = x.toModel.unpack.isNaN := rfl
  rw [modelled, place]
  rcases x.toModel.unpack with s | - | s | ⟨s, m, e, hm⟩ <;> (try cases s) <;>
    simp [UnpackedFloat.isNaN, placeOf, spot_ne_bot]

-- A float is equal to itself if it compares with anything.
theorem beq_self_iff (x : Float) : (x == x) = true ↔ place x ≠ ⊥ := by
  have modelled : (x == x) = x.toModel.unpack.beq x.toModel.unpack := rfl
  rw [modelled, place]
  rcases x.toModel.unpack with s | - | s | ⟨s, m, e, hm⟩ <;> (try cases s) <;>
    simp [UnpackedFloat.beq, UnpackedFloat.compare, placeOf, spot_ne_bot]
  all_goals decide

/-! ### Comparisons -/

theorem compare_swap (x y : UnpackedFloat) : y.compare x = (x.compare y).map Ordering.swap := by
  rcases x with s | - | s | ⟨s, m, e, hm⟩ <;> rcases y with t | - | t | ⟨t, n, k, hn⟩ <;>
    (try cases s) <;> (try cases t) <;>
    simp [UnpackedFloat.compare, Ordering.swap_then, Int.compare_swap, Nat.compare_swap]
  all_goals decide

theorem compare_isSome (x y : UnpackedFloat) : (x.compare y).isSome = (!x.isNaN && !y.isNaN) := by
  rcases x with s | - | s | ⟨s, m, e, hm⟩ <;> rcases y with t | - | t | ⟨t, n, k, hn⟩ <;>
    (try cases s) <;> (try cases t) <;> rfl

theorem lt_iff_compare (x y : Float) :
    x < y ↔ x.toModel.unpack.compare y.toModel.unpack = some .lt := by
  have modelled : x < y ↔ x.toModel.unpack.lt y.toModel.unpack = true := decide_eq_true_iff
  rw [modelled, UnpackedFloat.lt, beq_iff_eq]

theorem le_iff_compare (x y : Float) :
    x ≤ y ↔ (x.toModel.unpack.compare y.toModel.unpack).any (·.isLE) = true := by
  have modelled : x ≤ y ↔ x.toModel.unpack.le y.toModel.unpack = true := decide_eq_true_iff
  rw [modelled, UnpackedFloat.le]

theorem comparable_iff (x y : Float) :
    (∃ order, x.toModel.unpack.compare y.toModel.unpack = some order) ↔
      x.isNaN = false ∧ y.isNaN = false := by
  rw [← Option.isSome_iff_exists, compare_isSome, Bool.and_eq_true, Bool.not_eq_true',
    Bool.not_eq_true']
  rfl

theorem numeric_of_lt {x y : Float} (less : x < y) : x.isNaN = false :=
  ((comparable_iff x y).mp ⟨_, (lt_iff_compare x y).mp less⟩).1

theorem numeric_of_le {x y : Float} (le : x ≤ y) : y.isNaN = false := by
  rw [le_iff_compare, Option.any_eq_true] at le
  obtain ⟨order, compared, -⟩ := le
  exact ((comparable_iff x y).mp ⟨order, compared⟩).2

-- Numbers stand in a line.
theorem le_of_not_lt {x y : Float} (first : x.isNaN = false) (second : y.isNaN = false)
    (late : ¬x < y) : y ≤ x := by
  obtain ⟨order, compared⟩ := (comparable_iff x y).mpr ⟨first, second⟩
  rw [lt_iff_compare, compared, Option.some_inj] at late
  rw [le_iff_compare, compare_swap, compared]
  cases order with
  | lt => exact absurd rfl late
  | eq | gt => rfl

end CodeAtlas.Number
