import CodeAtlas.Text.Lower

set_option autoImplicit false

/-! Characters that are equal when case is ignored. -/

namespace CodeAtlas.Pattern

open CodeAtlas.Text

def companions : List (Nat × List Nat) :=
  [(105, [305]), (115, [383]), (181, [956]), (305, [105]), (383, [115]), (837, [953, 8126]),
   (912, [8147]), (944, [8163]), (946, [976]), (949, [1013]), (952, [977]), (953, [837, 8126]),
   (954, [1008]), (956, [181]), (960, [982]), (961, [1009]), (962, [963]), (963, [962]),
   (966, [981]), (976, [946]), (977, [952]), (981, [966]), (982, [960]), (1008, [954]),
   (1009, [961]), (1013, [949]), (1074, [7296]), (1076, [7297]), (1086, [7298]), (1089, [7299]),
   (1090, [7300, 7301]), (1098, [7302]), (1123, [7303]), (7296, [1074]), (7297, [1076]),
   (7298, [1086]), (7299, [1089]), (7300, [1090, 7301]), (7301, [1090, 7300]), (7302, [1098]),
   (7303, [1123]), (7304, [42571]), (7777, [7835]), (7835, [7777]), (8126, [837, 953]),
   (8147, [912]), (8163, [944]), (42571, [7304]), (64261, [64262]), (64262, [64261])]

/-- How a comparison treats case. -/
inductive Folding
  | exact
  | ascii
  | unicode
  deriving DecidableEq, Repr

def asciiLowerChar (c : Char) : Char :=
  if c.toNat < 128 then lowerChar c else c

namespace Folding

def fold : Folding → Char → Char
  | .exact, c => c
  | .ascii, c => asciiLowerChar c
  | .unicode, c => lowerChar c

-- The lower-case characters that stand for `c` in a set.
def mates : Folding → Nat → List Nat
  | .unicode, c => c :: ((companions.find? fun (code, _) => code == c).map (·.2)).getD []
  | _, c => [c]

def same (folding : Folding) (folded written : Char) : Bool :=
  (folding.mates (folding.fold written).toNat).contains folded.toNat

def sources (code : Nat) : List Nat :=
  (if lowerChar (Char.ofNat code) = Char.ofNat code then [code] else []) ++
  (if 97 ≤ code && code ≤ 122 then [code - 32] else []) ++
  lowerRuns.filterMap fun (low, high, step, distance) =>
    let source := ((code : Int) - distance).toNat
    if low ≤ source && source ≤ high && (source - low) % step == 0 then some source else none

-- Some character from `low` to `high` folds to the same as the folded one.
def within (folding : Folding) (folded low high : Char) : Bool :=
  match folding with
  | .exact => low ≤ folded && folded ≤ high
  | .ascii =>
    (low ≤ folded && folded ≤ high) ||
      (97 ≤ folded.toNat && folded.toNat ≤ 122 &&
        low.toNat ≤ folded.toNat - 32 && folded.toNat - 32 ≤ high.toNat)
  | .unicode =>
    (folding.mates folded.toNat).any fun mate =>
      (sources mate).any fun source => low.toNat ≤ source && source ≤ high.toNat

end Folding

end CodeAtlas.Pattern
