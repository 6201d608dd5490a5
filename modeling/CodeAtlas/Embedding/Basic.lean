import CodeAtlas.Fault
import CodeAtlas.Number.Read

set_option autoImplicit false

/-! Embeddings: single-precision numbers laid out along axes. A text has an embedding of one axis. -/

namespace CodeAtlas

structure Embedding where
  shape : List Nat
  entries : List Float32

namespace Embedding

open CodeAtlas.Number

def ofList (entries : List Float32) : Embedding :=
  ⟨[entries.length], entries⟩

def isEmpty (v : Embedding) : Bool :=
  v.entries.isEmpty

section

variable {N : Type} [OfNat N 0] [Add N]

def sum (xs : List N) : N :=
  xs.foldl (· + ·) 0

def inner [Mul N] (a b : List N) : N :=
  sum (List.zipWith (· * ·) a b)

end

def norm (v : Embedding) : Float32 :=
  (inner v.entries v.entries).sqrt

-- The embedding of length one in the same direction. One whose length counts as zero stays.
def normalize (v : Embedding) : Embedding :=
  let length := v.norm
  if length == 0 then v else { v with entries := v.entries.map (· / length) }

-- The cosine of two embeddings. It is zero if they differ in shape, or one of them is empty or of
-- length zero.
def cosine (a b : Embedding) : Float :=
  if a.isEmpty || b.isEmpty || a.shape != b.shape then 0
  else if a.norm == 0 || b.norm == 0 then 0
  else (inner a.entries b.entries / (a.norm * b.norm)).toFloat

def productOf : List Nat → Except Fault Unit
  | [] => .ok ()
  | [_] => .ok ()
  | shape =>
    match shape.reverse with
    | last :: next :: _ =>
      if last != next then .error .badValue
      else if shape.all (· == 1) then .ok ()
      else .error .wrongType
    | _ => .ok ()

def cosine? (a b : Embedding) : Except Fault Float :=
  if a.isEmpty || a.shape != b.shape || a.norm == 0 || b.norm == 0 then .ok 0
  else (productOf a.shape).map fun _ => a.cosine b

def entryOf : Document → Except Fault Float32
  | .null => .ok notANumber.toFloat32
  | .bool b => .ok (if b then 1 else 0)
  | .int n =>
    match ofInt? n with
    | some x => .ok x.toFloat32
    | none => .error .tooLarge
  | .float x => .ok x.toFloat32
  | .text s =>
    match readFloat s.toList with
    | some x => .ok x.toFloat32
    | none => .error .badValue
  | _ => .error .wrongType

def stack : List Embedding → Except Fault Embedding
  | [] => .ok ⟨[0], []⟩
  | first :: rest =>
    if rest.all (·.shape == first.shape) then
      .ok ⟨(rest.length + 1) :: first.shape, first.entries ++ rest.flatMap (·.entries)⟩
    else .error .badValue

mutual

def ofDocument : Document → Except Fault Embedding
  | .list items => do stack (← ofItems items)
  | value => do pure ⟨[], [← entryOf value]⟩

def ofItems : List Document → Except Fault (List Embedding)
  | [] => .ok []
  | item :: items => do
    let first ← ofDocument item
    let rest ← ofItems items
    pure (first :: rest)

end

end Embedding

end CodeAtlas
