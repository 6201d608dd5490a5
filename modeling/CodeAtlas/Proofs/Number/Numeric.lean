import CodeAtlas.Number.Read
import CodeAtlas.Proofs.Number.Order

set_option autoImplicit false

/-! Floats that are numbers: those that decimal digits are read as, however many and with whatever
exponent. -/

namespace CodeAtlas.Number

open Float.Model (Format)
open Float.Model.UnpackedFloat

/-! ### Bits -/

theorem unpack_isNaN (bits : BitVec Format.binary64.numBits) :
    (unpack .binary64 bits).isNaN = true ↔ unpackExponent bits = -1#_ ∧ unpackMantissa bits ≠ 0#_ := by
  rw [unpack]
  split
  next full => split <;> simp_all [Float.Model.UnpackedFloat.isNaN]
  next part => split <;> (try split) <;> simp_all [Float.Model.UnpackedFloat.isNaN]

theorem packComponents_numeric (sign : Sign) {exponent : BitVec Format.binary64.exponentBits}
    {mantissa : BitVec Format.binary64.mantissaBitsWithoutImplicit}
    (part : exponent = -1#_ → mantissa = 0#_) :
    (unpack .binary64 (packComponents .binary64 sign exponent mantissa)).isNaN = false := by
  rw [← Bool.not_eq_true, unpack_isNaN, unpackExponent_packComponents, unpackMantissa_packComponents]
  exact fun ⟨full, nonzero⟩ => nonzero (part full)

-- Packing may round a number to an infinity or to zero, and makes nothing else of it.
theorem pack_isNaN (x : Float.Model.UnpackedFloat) : (Float.Model.pack x).isNaN = x.isNaN := by
  have packed : (Float.Model.pack x).isNaN = (unpack .binary64 (pack .binary64 x)).isNaN := rfl
  rw [packed]
  fun_cases pack with
  | case1 => decide
  | case2 sign => exact packComponents_numeric sign fun _ => rfl
  | case3 sign => exact packComponents_numeric sign fun _ => rfl
  | case4 sign m e positive biased large => exact packComponents_numeric sign fun _ => rfl
  | case5 sign m e positive size biased small normal =>
    refine packComponents_numeric sign fun full => ?_
    have value : biased % 2048 = 2047 := by simpa using congrArg BitVec.toNat full
    have room : ¬2048 ≤ biased + 1 := small
    omega
  | case6 sign m e positive size biased small tiny =>
    exact packComponents_numeric sign fun full => absurd full (by decide)

theorem roundWithAccuracy_numeric (spec : Format) (sign : Sign) (m : Nat) (e : Int) (accuracy : Accuracy) :
    (roundWithAccuracy spec sign m e accuracy).isNaN = false := by
  unfold roundWithAccuracy
  dsimp only
  split <;> rfl

theorem round_numeric (spec : Format) (sign : Sign) (m : Nat) (e : Int) :
    (round spec sign m e).isNaN = false :=
  roundWithAccuracy_numeric _ _ _ _ _

theorem ofNat_numeric (spec : Format) (n : Nat) : (ofNat spec n).isNaN = false := by
  unfold ofNat ofInt Float.Model.UnpackedFloat.normalize
  split
  · exact round_numeric _ _ _ _
  · rfl
  · exact round_numeric _ _ _ _

/-! ### Scales -/

-- Neither zero nor without bounds.
def isScale : Float.Model.UnpackedFloat → Bool
  | .finite .. => true
  | _ => false

section

variable (spec : Format) {x y : Float.Model.UnpackedFloat}

theorem mul_numeric (number : x.isNaN = false) (scale : isScale y = true) :
    (mul spec x y).isNaN = false := by
  cases y with
  | notANumber | infinity | zero => cases scale
  | finite =>
    cases x with
    | notANumber => cases number
    | infinity | zero => rfl
    | finite => exact roundWithAccuracy_numeric _ _ _ _ _

theorem div_numeric (number : x.isNaN = false) (scale : isScale y = true) :
    (div spec x y).isNaN = false := by
  cases y with
  | notANumber | infinity | zero => cases scale
  | finite =>
    cases x with
    | notANumber => cases number
    | infinity | zero => rfl
    | finite => exact roundWithAccuracy_numeric _ _ _ _ _

theorem ofScientific_numeric (m : Nat) (e : Int) : (ofScientific spec m e).isNaN = false := by
  unfold ofScientific
  split
  · rfl
  · split
    · rfl
    · split
      · rfl
      · split
        · exact mul_numeric spec rfl rfl
        · exact div_numeric spec rfl rfl

end

/-! ### Floats -/

theorem neg_isNaN (x : Float) : (-x).isNaN = x.isNaN := by
  have negated : (-x).isNaN = (Float.Model.pack x.toModel.unpack.neg).isNaN := rfl
  have own : x.isNaN = x.toModel.unpack.isNaN := rfl
  rw [negated, own, pack_isNaN]
  cases x.toModel.unpack <;> rfl

theorem powers_scale : ∀ e : Fin 23,
    isScale (Float.exactlyRepresentablePowersOfTen[e]).toModel.unpack = true := by
  decide +kernel

theorem wholeFloat_numeric (n : UInt64) : n.toFloat.toModel.unpack.isNaN = false := by
  have packed : n.toFloat.toModel.unpack.isNaN =
      (Float.Model.pack (ofNat .binary64 n.toNat)).isNaN := rfl
  rw [packed, pack_isNaN]
  exact ofNat_numeric _ _

theorem float_ofScientific_numeric (m : Nat) (sign : Bool) (e : Nat) :
    (Float.ofScientific m sign e).isNaN = false := by
  unfold Float.ofScientific
  split
  next small =>
    have whole := wholeFloat_numeric m.toUInt64
    have scale := powers_scale ⟨e, by omega⟩
    dsimp only
    split
    · exact (pack_isNaN _).trans (div_numeric _ whole scale)
    · exact (pack_isNaN _).trans (mul_numeric _ whole scale)
  next => exact (pack_isNaN _).trans (ofScientific_numeric _ _ _)

/-- Decimal digits are a number, an infinite one if need be. -/
theorem nearestFloat_numeric (negative : Bool) (digits : Nat) (scale : Int) :
    (nearestFloat negative digits scale).isNaN = false := by
  unfold nearestFloat
  extract_lets size magnitude
  have numeric : magnitude.isNaN = false := by
    unfold magnitude
    split
    · decide +kernel
    · split
      · decide +kernel
      · split <;> exact float_ofScientific_numeric _ _ _
  split
  · rw [neg_isNaN, numeric]
  · exact numeric

end CodeAtlas.Number
