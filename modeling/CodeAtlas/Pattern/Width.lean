import CodeAtlas.Pattern.Basic

set_option autoImplicit false

/-! How many characters a pattern can take. -/

namespace CodeAtlas.Pattern

/-- The least and the greatest count; a greatest count of `widthLimit` stands for any. -/
structure Width where
  least : Nat
  most : Nat
  deriving DecidableEq, Repr

def widthLimit : Nat := Nat.pow 2 64

namespace Width

def zero : Width := ⟨0, 0⟩

def one : Width := ⟨1, 1⟩

def add (a b : Width) : Width :=
  ⟨min (a.least + b.least) widthLimit, min (a.most + b.most) widthLimit⟩

def either (a b : Width) : Width :=
  ⟨min a.least b.least, max a.most b.most⟩

def times (w : Width) (least : Nat) : Option Nat → Width
  | some most => ⟨min (w.least * least) widthLimit, min (w.most * most) widthLimit⟩
  | none => ⟨min (w.least * least) widthLimit, if w.most == 0 then 0 else widthLimit⟩

end Width

def width (closed : List (Nat × Width)) : Pattern → Width
  | .empty => .zero
  | .set _ => .one
  | .anchor _ => .zero
  | .seq first second => (width closed first).add (width closed second)
  | .choice first second => (width closed first).either (width closed second)
  | .loop body least most _ => (width closed body).times least most
  | .group _ body => width closed body
  | .again index _ => ((closed.find? fun (other, _) => other == index).map (·.2)).getD .zero
  | .ahead _ _ => .zero
  | .behind _ _ _ => .zero
  | .atomic body => width closed body
  | .given _ yes no => (width closed yes).either (width closed no)

end CodeAtlas.Pattern
