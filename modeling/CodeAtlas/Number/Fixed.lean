import CodeAtlas.Number.Binary

set_option autoImplicit false

/-! Numbers written with a fixed count of decimal places. -/

namespace CodeAtlas.Number

def padLeft (width : Nat) (fill : Char) (digits : List Char) : List Char :=
  List.replicate (width - digits.length) fill ++ digits

def placed (places units : Nat) : List Char :=
  if places == 0 then Nat.toDigits 10 units
  else Nat.toDigits 10 (units / Nat.pow 10 places) ++
    '.' :: padLeft places '0' (Nat.toDigits 10 (units % Nat.pow 10 places))

def signed (negative : Bool) (text : List Char) : List Char :=
  if negative then '-' :: text else text

-- The exact value is rounded, a half to the even neighbour. The sign stays also where only zeros
-- are left.
def Binary.fixed (places : Nat) : Binary → List Char
  | .notANumber => ['n', 'a', 'n']
  | .infinite negative => signed negative ['i', 'n', 'f']
  | .finite negative mantissa exponent =>
    let (num, den) := ratio mantissa exponent
    signed negative (placed places (roundDiv (num * Nat.pow 10 places) den))

def fixed (places : Nat) (x : Float) : String :=
  String.ofList ((Binary.ofFloat x).fixed places)

end CodeAtlas.Number
