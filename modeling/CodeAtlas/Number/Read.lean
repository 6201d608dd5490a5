import CodeAtlas.Number.Binary
import CodeAtlas.Text.Blank
import CodeAtlas.Text.Digit

set_option autoImplicit false

/-! Numbers read from text: digits of any script, single underscores between digits, white space
around. -/

namespace CodeAtlas.Number

open CodeAtlas.Text

-- White space that may stand around a number: all but the four ASCII separators.
def isMargin (c : Char) : Bool :=
  isBlank c && !(28 ≤ c.toNat && c.toNat ≤ 31)

def unmargined (text : List Char) : List Char :=
  ((text.dropWhile isMargin).reverse.dropWhile isMargin).reverse

def readSign : List Char → Bool × List Char
  | '-' :: rest => (true, rest)
  | '+' :: rest => (false, rest)
  | text => (false, text)

/-- Digits with the value read so far, how many there were, and the rest. -/
structure Digits where
  value : Nat
  count : Nat
  rest : List Char

-- An underscore is passed over only between two digits.
def readDigits (value count : Nat) : List Char → Digits
  | [] => ⟨value, count, []⟩
  | c :: rest =>
    match digit? c with
    | some d => readDigits (10 * value + d) (count + 1) rest
    | none =>
      if c = '_' && count != 0 then
        match rest with
        | next :: more =>
          match digit? next with
          | some d => readDigits (10 * value + d) (count + 1) more
          | none => ⟨value, count, c :: rest⟩
        | [] => ⟨value, count, c :: rest⟩
      else ⟨value, count, c :: rest⟩

def digitLimit : Nat := 4300

def readInt (text : List Char) : Option Int :=
  let (negative, rest) := readSign (unmargined text)
  let digits := readDigits 0 0 rest
  if digits.count == 0 || digitLimit < digits.count || !digits.rest.isEmpty then none
  else some (if negative then -(digits.value : Int) else digits.value)

-- The binary number nearest to `digits * 10 ^ scale`. Far out of range the answer needs no
-- arithmetic.
def nearestFloat (negative : Bool) (digits : Nat) (scale : Int) : Float :=
  let size : Int := (Nat.toDigits 10 digits).length + scale
  let magnitude : Float :=
    if digits == 0 || size < -330 then 0.0
    else if 330 < size then 1.0 / 0.0
    else if scale < 0 then Float.ofScientific digits true (-scale).toNat
    else Float.ofScientific digits false scale.toNat
  if negative then -magnitude else magnitude

def readFraction (whole : Digits) : Digits × Nat :=
  match whole.rest with
  | '.' :: rest =>
    match rest with
    | '_' :: _ => ({ whole with rest := rest }, 0)
    | _ =>
      let part := readDigits whole.value 0 rest
      ({ part with count := whole.count + part.count }, part.count)
  | _ => (whole, 0)

-- The exponent and the rest, or nothing where digits are missing.
def readExponent : List Char → Option (Int × List Char)
  | c :: rest =>
    if c = 'e' || c = 'E' then
      let (negative, rest) := readSign rest
      let digits := readDigits 0 0 rest
      if digits.count == 0 then none
      else some (if negative then -(digits.value : Int) else digits.value, digits.rest)
    else some (0, c :: rest)
  | [] => some (0, [])

def readDecimal (negative : Bool) (text : List Char) : Option Float :=
  let (digits, places) := readFraction (readDigits 0 0 text)
  if digits.count == 0 then none
  else
    match readExponent digits.rest with
    | some (exponent, []) => some (nearestFloat negative digits.value (exponent - places))
    | _ => none

def asciiLower (text : List Char) : List Char :=
  text.map fun c => if 'A' ≤ c && c ≤ 'Z' then Char.ofNat (c.toNat + 32) else c

def infinity : Float := 1.0 / 0.0

def notANumber : Float := 0.0 / 0.0

def readFloat (text : List Char) : Option Float :=
  let (negative, rest) := readSign (unmargined text)
  let word := String.ofList (asciiLower rest)
  if word == "inf" || word == "infinity" then some (if negative then -infinity else infinity)
  else if word == "nan" then some notANumber
  else readDecimal negative rest

def ofInt? (n : Int) : Option Float :=
  let x := nearestFloat (n < 0) n.natAbs 0
  if x.isInf then none else some x

-- The number nearest to one with so many decimal places, a half to the even neighbour.
def roundTo (places : Nat) (x : Float) : Float :=
  match Binary.ofFloat x with
  | .finite negative mantissa exponent =>
    let (num, den) := ratio mantissa exponent
    nearestFloat negative (roundDiv (num * Nat.pow 10 places) den) (-(places : Int))
  | _ => x

end CodeAtlas.Number
