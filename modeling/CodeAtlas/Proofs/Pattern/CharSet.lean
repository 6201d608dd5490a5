import CodeAtlas.Pattern.Basic

set_option autoImplicit false

/-! Sets of characters that keep clear of ranges of code points. -/

namespace CodeAtlas.Pattern

open CodeAtlas.Text

def ClassItem.avoids (ranges : List (Nat × Nat)) : ClassItem → Bool
  | .char c => !inRanges ranges c.toNat
  | .range low high => ranges.all fun (first, last) => high.toNat < first || last < low.toNat
  | .named _ _ => false

-- No character of the set lies in the ranges. Only sets that list what they hold are looked at.
def CharSet.avoids (ranges : List (Nat × Nat)) (s : CharSet) : Bool :=
  s.positive && s.folding == .exact && s.items.all (·.avoids ranges)

theorem exact_same (c written : Char) : Folding.exact.same c written = (c.toNat == written.toNat) := by
  simp only [Folding.same, Folding.fold, Folding.mates, List.contains_cons, List.contains_nil,
    Bool.or_false]

theorem exact_within (c low high : Char) :
    Folding.exact.within c low high = true ↔ low.toNat ≤ c.toNat ∧ c.toNat ≤ high.toNat := by
  simp only [Folding.within, Bool.and_eq_true, decide_eq_true_eq]
  rfl

theorem CharSet.char_holds (c d : Char) : (CharSet.char c).holds d = true ↔ d = c := by
  simp only [CharSet.holds, CharSet.char, CharSet.itemHolds, Folding.fold, exact_same, List.any_cons,
    List.any_nil, Bool.or_false, beq_true, beq_iff_eq]
  exact Char.toNat_inj

theorem CharSet.avoids_holds {ranges : List (Nat × Nat)} {s : CharSet} {c : Char}
    (avoids : s.avoids ranges = true) (holds : s.holds c = true) : inRanges ranges c.toNat = false := by
  obtain ⟨positive, items, folding, ascii⟩ := s
  simp only [CharSet.avoids, Bool.and_eq_true, beq_iff_eq, List.all_eq_true] at avoids
  obtain ⟨⟨rfl, rfl⟩, clear⟩ := avoids
  simp only [CharSet.holds, Folding.fold, beq_true, List.any_eq_true] at holds
  obtain ⟨item, member, held⟩ := holds
  have apart := clear item member
  cases item with
  | char written =>
    simp only [CharSet.itemHolds, exact_same, beq_iff_eq] at held
    simpa [ClassItem.avoids, held] using apart
  | range low high =>
    simp only [CharSet.itemHolds, exact_within] at held
    simp only [ClassItem.avoids, List.all_eq_true, Bool.or_eq_true, decide_eq_true_eq] at apart
    simp only [inRanges, List.any_eq_false, Bool.and_eq_true, decide_eq_true_eq]
    rintro ⟨first, last⟩ inside ⟨above, below⟩
    have := apart ⟨first, last⟩ inside
    omega
  | named positive name => simp [ClassItem.avoids] at apart

end CodeAtlas.Pattern
