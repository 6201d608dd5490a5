import CodeAtlas.Bundles.Slug
import CodeAtlas.Proofs.Text.Capital
import CodeAtlas.Proofs.Text.Trim

set_option autoImplicit false

/-! Slugs hold no white space, no underscore and no capital, and such a text is its own slug. -/

namespace CodeAtlas.Bundles

open CodeAtlas.Text

/-- A text as slugs are. -/
def Slugged (text : List Char) : Prop :=
  ∀ c ∈ text, isBlank c = false ∧ c ≠ '_' ∧ isCapital c = false

instance (text : List Char) : Decidable (Slugged text) :=
  List.decidableBAll (fun c => isBlank c = false ∧ c ≠ '_' ∧ isCapital c = false) text

theorem Slugged.append {first rest : List Char} (start : Slugged first) (more : Slugged rest) :
    Slugged (first ++ rest) := by
  intro c member
  cases List.mem_append.mp member with
  | inl early => exact start c early
  | inr late => exact more c late

theorem Slugged.of_append {first rest : List Char} (slugged : Slugged (first ++ rest)) :
    Slugged rest :=
  fun c member => slugged c (List.mem_append_right first member)

theorem mem_dashed {text : List Char} {c : Char} (member : c ∈ dashed text) :
    c = '-' ∨ c ∈ text ∧ isBlank c = false ∧ c ≠ '_' := by
  have widen (first : Char) {rest : List Char}
      (found : c = '-' ∨ c ∈ rest ∧ isBlank c = false ∧ c ≠ '_') :
      c = '-' ∨ c ∈ first :: rest ∧ isBlank c = false ∧ c ≠ '_' := by
    obtain dash | ⟨later, plain⟩ := found
    · exact .inl dash
    · exact .inr ⟨List.mem_cons_of_mem first later, plain⟩
  fun_induction dashed text with
  | case1 => cases member
  | case2 first rest blank more ih => exact widen first (ih member)
  | case3 first rest blank last ih =>
    cases List.mem_cons.mp member with
    | inl dash => exact .inl dash
    | inr later => exact widen first (ih later)
  | case4 first rest inked ih =>
    cases List.mem_cons.mp member with
    | inl here =>
      by_cases underscore : first = '_'
      · exact .inl (by simpa [underscore] using here)
      · rw [if_neg underscore] at here
        subst here
        exact .inr ⟨List.mem_cons_self, by simpa using inked, underscore⟩
    | inr later => exact widen first (ih later)

theorem dashed_eq_nil (text : List Char) : dashed text = [] ↔ text = [] := by
  fun_induction dashed text with
  | case1 => simp
  | case2 first rest blank more ih =>
    have longer : rest ≠ [] := by
      rintro rfl
      simp at more
    simp [ih, longer]
  | case3 => simp
  | case4 => simp

theorem dashed_of_slugged {text : List Char} (slugged : Slugged text) : dashed text = text := by
  induction text with
  | nil => rfl
  | cons c rest ih =>
    obtain ⟨inked, plain, -⟩ := slugged c List.mem_cons_self
    have others := ih fun d member => slugged d (List.mem_cons_of_mem c member)
    simp [dashed, inked, plain, others]

theorem trim_of_slugged {text : List Char} (slugged : Slugged text) : trim text = text := by
  have inked (c : Char) (member : c ∈ text) : isBlank c = false := (slugged c member).1
  cases text with
  | nil => rfl
  | cons c rest =>
    have last := List.dropLast_concat_getLast (List.cons_ne_nil c rest)
    apply Inked.trim_eq
    constructor
    · exact ⟨c, rest, rfl, inked c List.mem_cons_self⟩
    · exact ⟨_, _, last.symm, inked _ (List.getLast_mem _)⟩

theorem slugged_slugOf (label : List Char) : Slugged (slugOf label) := by
  intro c member
  obtain rfl | ⟨lowered, inked, plain⟩ := mem_dashed member
  · decide +kernel
  · exact ⟨inked, plain, not_capital_lowerChars lowered⟩

theorem slugOf_of_slugged {text : List Char} (slugged : Slugged text) : slugOf text = text := by
  have plain (c : Char) (member : c ∈ text) : isCapital c = false := (slugged c member).2.2
  rw [slugOf, trim_of_slugged slugged, lowerChars_of_not_capital plain, dashed_of_slugged slugged]

theorem slugOf_eq_nil (label : List Char) : slugOf label = [] ↔ ∀ c ∈ label, isBlank c = true := by
  rw [slugOf, dashed_eq_nil, lowerChars_eq_nil, trim_eq_nil]

end CodeAtlas.Bundles
