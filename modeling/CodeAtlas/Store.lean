import CodeAtlas.Keyed

set_option autoImplicit false

/-! The store of units: those of each file, files in the order in which they came first. -/

namespace CodeAtlas

structure Store (U : Type) where
  files : List (String × List U)

namespace Store

variable {U : Type}

def empty : Store U :=
  ⟨[]⟩

-- The units of a file take the place of its earlier ones.
def replace (s : Store U) (path : String) (units : List U) : Store U :=
  ⟨Keyed.put path units s.files⟩

def remove (s : Store U) (path : String) : Store U :=
  ⟨Keyed.erase path s.files⟩

def has (s : Store U) (path : String) : Bool :=
  (Keyed.lookup path s.files).isSome

def units (s : Store U) (path : String) : List U :=
  (Keyed.lookup path s.files).getD []

def paths (s : Store U) : List String :=
  s.files.map (·.1)

def all (s : Store U) : List U :=
  s.files.flatMap (·.2)

def size (s : Store U) : Nat :=
  s.all.length

end Store

end CodeAtlas
