set_option autoImplicit false

/-! Sets of code points, written as ranges. -/

namespace CodeAtlas.Text

def inRanges (ranges : List (Nat × Nat)) (code : Nat) : Bool :=
  ranges.any fun (low, high) => low ≤ code && code ≤ high

-- A run holds its first end and every `step`th code point after it, up to its last end.
def inRuns (runs : List (Nat × Nat × Nat)) (code : Nat) : Bool :=
  runs.any fun (low, high, step) => low ≤ code && code ≤ high && (code - low) % step == 0

end CodeAtlas.Text
