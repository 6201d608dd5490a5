set_option autoImplicit false

/-! Binary floating-point numbers as exact values. -/

namespace CodeAtlas.Number

/-- A binary64 value. A finite one is `mantissa * 2 ^ exponent`, with its sign apart so that the two
zeros differ. -/
inductive Binary
  | notANumber
  | infinite (negative : Bool)
  | finite (negative : Bool) (mantissa : Nat) (exponent : Int)
  deriving DecidableEq, Repr

-- The 52 fraction bits get a leading one unless the exponent bits are zero.
def Binary.ofBits (bits : Nat) : Binary :=
  let negative := bits / Nat.pow 2 63 % 2 == 1
  let exponent : Nat := bits / Nat.pow 2 52 % 2048
  let fraction := bits % Nat.pow 2 52
  if exponent == 2047 then
    if fraction == 0 then .infinite negative else .notANumber
  else if exponent == 0 then .finite negative fraction (-1074)
  else .finite negative (Nat.pow 2 52 + fraction) ((exponent : Int) - 1075)

def Binary.ofFloat (x : Float) : Binary :=
  .ofBits x.toBits.toNat

def ratio (mantissa : Nat) (exponent : Int) : Nat × Nat :=
  if 0 ≤ exponent then (mantissa * Nat.pow 2 exponent.toNat, 1)
  else (mantissa, Nat.pow 2 (-exponent).toNat)

-- The whole number nearest to `num / den`, and of two the even one.
def roundDiv (num den : Nat) : Nat :=
  let quotient := num / den
  let twice := 2 * (num % den)
  if twice < den then quotient
  else if den < twice then quotient + 1
  else if quotient % 2 == 0 then quotient else quotient + 1

def truncate (negative : Bool) (mantissa : Nat) (exponent : Int) : Int :=
  let (num, den) := ratio mantissa exponent
  if negative then -(num / den : Nat) else (num / den : Nat)

end CodeAtlas.Number
