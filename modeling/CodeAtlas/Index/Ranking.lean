set_option autoImplicit false

/-! Rankings: the best-scored items first, equal scores in their old order. -/

namespace CodeAtlas.Index

variable {α S : Type}

-- Items whose score reaches `least`. A score that compares with nothing does not.
def reaching (le : S → S → Bool) (least : S) (scored : List (α × S)) : List (α × S) :=
  scored.filter fun hit => le least hit.2

def sortDown (le : S → S → Bool) (scored : List (α × S)) : List (α × S) :=
  scored.mergeSort fun a b => le b.2 a.2

def best (le : S → S → Bool) (least : S) (limit : Nat) (scored : List (α × S)) : List (α × S) :=
  (sortDown le (reaching le least scored)).take limit

end CodeAtlas.Index
