set_option autoImplicit false

/-! Values under keys, in the order in which the keys came first. -/

namespace CodeAtlas.Keyed

variable {α β : Type} [BEq α]

-- A key that is already there keeps its place and takes the new value.
def put (key : α) (value : β) : List (α × β) → List (α × β)
  | [] => [(key, value)]
  | (other, old) :: rest =>
    if other == key then (other, value) :: rest else (other, old) :: put key value rest

def lookup (key : α) : List (α × β) → Option β
  | [] => none
  | (other, value) :: rest => if other == key then some value else lookup key rest

def erase (key : α) (entries : List (α × β)) : List (α × β) :=
  entries.filter fun entry => !(entry.1 == key)

def ofList (entries : List (α × β)) : List (α × β) :=
  entries.foldl (fun kept (key, value) => put key value kept) []

end CodeAtlas.Keyed
