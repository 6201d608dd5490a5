import CodeAtlas.Number.Fixed

set_option autoImplicit false

/-! The fewest decimal digits that read back as the same binary number. -/

namespace CodeAtlas.Number

/-- The reals that round to `mantissa * 2 ^ exponent`, in units of `2 ^ (exponent - 2)`. The gap
below a power of two is half as wide. The ends belong to it when the mantissa is even. -/
structure Interval where
  low : Nat
  value : Nat
  high : Nat
  closed : Bool
  exponent : Int

def Interval.around (mantissa : Nat) (exponent : Int) : Interval :=
  let narrow := mantissa == Nat.pow 2 52 && exponent != -1074
  { low := 4 * mantissa - if narrow then 1 else 2
    value := 4 * mantissa
    high := 4 * mantissa + 2
    closed := mantissa % 2 == 0
    exponent := exponent - 2 }

def power (base : Nat) (exponent : Int) : Nat × Nat :=
  if 0 ≤ exponent then (base.pow exponent.toNat, 1) else (1, base.pow (-exponent).toNat)

def Interval.holds (i : Interval) (scale : Int) (digits : Nat) : Bool :=
  let (twoNum, twoDen) := power 2 i.exponent
  let (tenNum, tenDen) := power 10 scale
  let point := digits * tenNum * twoDen
  let low := i.low * twoNum * tenDen
  let high := i.high * twoNum * tenDen
  if i.closed then low ≤ point && point ≤ high else low < point && point < high

def Interval.scaled (i : Interval) (scale : Int) : Nat × Nat :=
  let (twoNum, twoDen) := power 2 i.exponent
  let (tenNum, tenDen) := power 10 scale
  (i.value * twoNum * tenDen, twoDen * tenNum)

def Interval.onGrid (i : Interval) (scale : Int) : Option Nat :=
  let (num, den) := i.scaled scale
  let nearest := roundDiv num den
  let floor := num / den
  if i.holds scale nearest then some nearest
  else if i.holds scale floor then some floor
  else if i.holds scale (floor + 1) then some (floor + 1)
  else none

def Interval.magnitude (i : Interval) : Int :=
  let (num, den) := i.scaled 0
  if den ≤ num then (Nat.toDigits 10 (num / den)).length - 1
  else
    let guess : Int := -((Nat.toDigits 10 (den / num)).length : Int)
    let (num', den') := i.scaled (guess + 1)
    if den' ≤ num' then guess + 1 else guess

def Interval.shortest (i : Interval) : Nat × Int :=
  let top := i.magnitude
  let grids := (List.range 17).map fun (k : Nat) => top - (k : Int)
  match grids.findSome? fun scale => (i.onGrid scale).map fun digits => (digits, scale) with
  | some found => found
  | none => (i.value, 0)

/-- How digits are laid out: plain notation from `10 ^ low` to below `10 ^ high`, an exponent of at
least `exponentWidth` digits elsewhere. -/
structure Layout where
  low : Int
  high : Int
  exponentWidth : Nat

def trimZeros : Nat → Nat → Int → Nat × Int
  | 0, digits, scale => (digits, scale)
  | fuel + 1, digits, scale =>
    if digits != 0 && digits % 10 == 0 then trimZeros fuel (digits / 10) (scale + 1)
    else (digits, scale)

def exponentText (width : Nat) (exponent : Int) : List Char :=
  (if exponent < 0 then '-' else '+') ::
    padLeft width '0' (Nat.toDigits 10 exponent.natAbs)

-- A whole number keeps one zero after its point; with an exponent it has no point.
def Layout.write (layout : Layout) (digits : Nat) (scale : Int) : List Char :=
  let (digits, scale) := trimZeros 20 digits scale
  let shown := Nat.toDigits 10 digits
  let top := scale + shown.length - 1
  if layout.low ≤ top && top < layout.high then
    if 0 ≤ scale then shown ++ List.replicate scale.toNat '0' ++ ['.', '0']
    else placed (-scale).toNat digits
  else
    match shown with
    | [] => []
    | [digit] => digit :: 'e' :: exponentText layout.exponentWidth top
    | digit :: more => digit :: '.' :: more ++ 'e' :: exponentText layout.exponentWidth top

def plainLayout : Layout :=
  { low := -4, high := 16, exponentWidth := 2 }

def shortestText (negative : Bool) (mantissa : Nat) (exponent : Int) : List Char :=
  signed negative <|
    if mantissa == 0 then ['0', '.', '0']
    else
      let (digits, scale) := (Interval.around mantissa exponent).shortest
      plainLayout.write digits scale

end CodeAtlas.Number
