import CodeAtlas.Digest.Block
import CodeAtlas.Embedding.Cache
import CodeAtlas.Number.Read

set_option autoImplicit false

/-! Arrays of numbers as the bytes of array files: a mark, a version, a header that is written as a
mapping, and the numbers. -/

namespace CodeAtlas.Embedding.ArrayFile

open CodeAtlas.Number

def mark : List UInt8 :=
  [0x93, 0x4e, 0x55, 0x4d, 0x50, 0x59]

def natLowFirst (bytes : List UInt8) : Nat :=
  bytes.foldr (fun byte n => n * 256 + byte.toNat) 0

/-- Numbers of so many bytes each. -/
inductive NumberType
  | single
  | double
  | whole (bytes : Nat)
  deriving DecidableEq, Repr

def NumberType.size : NumberType → Nat
  | .single => 4
  | .double => 8
  | .whole bytes => bytes

def signedWhole (size n : Nat) : Int :=
  if 2 * n < Nat.pow 256 size then n else (n : Int) - (Nat.pow 256 size : Nat)

def NumberType.read (type : NumberType) (bytes : List UInt8) : Float32 :=
  let n := natLowFirst bytes
  match type with
  | .single => Float32.ofBits (UInt32.ofNat n)
  | .double => (Float.ofBits (UInt64.ofNat n)).toFloat32
  | .whole size =>
    let value := signedWhole size n
    (nearestFloat (value < 0) value.natAbs 0).toFloat32

def typeNames : List (String × NumberType) :=
  [("<f4", .single), ("<f8", .double), ("<i8", .whole 8), ("<i4", .whole 4), ("<i2", .whole 2),
   ("|i1", .whole 1)]

structure Header where
  type : NumberType
  shape : List Nat

def behind (name : String) : List Char → Option (List Char)
  | [] => none
  | c :: rest =>
    if name.toList.isPrefixOf (c :: rest) then
      some (((c :: rest).drop name.length).dropWhile fun c => c = ':' || c = ' ')
    else behind name rest

def quoted? : List Char → Option String
  | '\'' :: rest => some (String.ofList (rest.takeWhile (· != '\'')))
  | _ => none

def sizes? : List Char → Option (List Nat)
  | '(' :: rest =>
    let inside := String.ofList (rest.takeWhile (· != ')'))
    if rest.contains ')' then
      ((Text.splitWhere (· == ',') inside.toList).map fun part => Text.trim part)
        |>.filter (!·.isEmpty)
        |>.mapM fun part => (readInt part).bind fun n => if 0 ≤ n then some n.toNat else none
    else none
  | _ => none

def header? (text : List Char) : Option Header := do
  let name ← quoted? (← behind "'descr'" text)
  let type ← Keyed.lookup name typeNames
  let order ← behind "'fortran_order'" text
  let shape ← sizes? (← behind "'shape'" text)
  if "False".toList.isPrefixOf order || ("True".toList.isPrefixOf order && shape.length ≤ 1) then
    some ⟨type, shape⟩
  else none

def split? (bytes : List UInt8) : Option (List UInt8 × List UInt8) :=
  if !mark.isPrefixOf bytes then none
  else
    match bytes.drop 6 with
    | 1 :: 0 :: a :: b :: rest => cut (natLowFirst [a, b]) rest
    | 2 :: 0 :: a :: b :: c :: d :: rest => cut (natLowFirst [a, b, c, d]) rest
    | 3 :: 0 :: a :: b :: c :: d :: rest => cut (natLowFirst [a, b, c, d]) rest
    | _ => none
where
  cut (size : Nat) (rest : List UInt8) : Option (List UInt8 × List UInt8) :=
    if rest.length < size then none else some (rest.take size, rest.drop size)

def charsOf (bytes : List UInt8) : List Char :=
  bytes.map fun byte => Char.ofNat byte.toNat

-- The array in a file, unless the file is damaged.
def read (bytes : List UInt8) : Kept :=
  let found := do
    let (head, body) ← split? bytes
    let header ← header? (charsOf head)
    let count := header.shape.foldl (· * ·) 1
    let size := header.type.size
    if body.length < count * size then none
    else
      let parts := Digest.chunksOf size count (body.take (count * size))
      some (Embedding.mk header.shape (parts.map header.type.read))
  match found with
  | some vector => .vector vector
  | none => .unreadable

def shapeText : List Nat → String
  | [] => "()"
  | [n] => s!"({n},)"
  | shape =>
    let inside := Text.join ", " (shape.map fun n => s!"{n}")
    s!"({inside})"

def headerText (shape : List Nat) : List Char :=
  let text := "\x7b'descr': '<f4', 'fortran_order': False, 'shape': ".toList ++
    (shapeText shape).toList ++ ", \x7d".toList
  let fill := (63 - (10 + text.length) % 64) % 64
  text ++ List.replicate fill ' ' ++ ['\n']

def write (v : Embedding) : List UInt8 :=
  let head := headerText v.shape
  mark ++ [1, 0] ++ Digest.lowFirst 2 head.length ++ head.map (fun c => UInt8.ofNat c.toNat) ++
    v.entries.flatMap fun x => Digest.lowFirst 4 x.toBits.toNat

end CodeAtlas.Embedding.ArrayFile
