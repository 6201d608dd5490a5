import CodeAtlas.Proofs.Pattern.CharSet
import CodeAtlas.Proofs.Pattern.Cut
import CodeAtlas.Proofs.Pattern.Matches
import CodeAtlas.Proofs.Text.Trim
import CodeAtlas.Source.Extract

set_option autoImplicit false

/-! Where declarations start: every shape that finds units begins with the margin of a line, and its
match has ink at both ends and a name. -/

namespace CodeAtlas.Source

open CodeAtlas.Pattern CodeAtlas.Text

/-- A shape that begins with the margin of a line. The rest of it has ink at both ends and looks at
nothing but what it takes. -/
structure Margined (p : Pattern) (body : Pattern) : Prop where
  shape : p = .seq (.anchor .lineStart) (.seq Shape.margin body)
  full : nullable body = false
  heads_inked : (heads body).all (·.avoids blankRanges) = true
  tails_inked : (tails body).all (·.avoids blankRanges) = true
  plain : simple body = true

/-- A shape behind the margin of a line whose first group is a name. -/
structure Lined (p : Pattern) (body : Pattern) : Prop extends Margined p body where
  names : always 1 p = true
  named : bodies 1 p = [Shape.identifier Shape.nameStart]

theorem declarationShapes_lined (shape : DeclarationShape) (member : shape ∈ declarationShapes)
    (finds : shape.refines = false) : ∃ body, Lined shape.pattern body := by
  simp only [declarationShapes, List.mem_cons, List.not_mem_nil, or_false] at member
  rcases member with rfl | rfl | rfl | rfl
  · exact ⟨_, ⟨rfl, by decide, by decide, by decide, rfl⟩, by decide, rfl⟩
  · exact ⟨_, ⟨rfl, by decide, by decide, by decide, rfl⟩, by decide, rfl⟩
  · exact ⟨_, ⟨rfl, by decide, by decide, by decide, rfl⟩, by decide, rfl⟩
  · simp at finds

theorem Margined.inked {p body : Pattern} (lined : Margined p body) {taken : List Char}
    (takes : Takes body taken) : Inked taken := by
  have nonempty := takes.nonempty lined.full
  constructor
  · obtain ⟨c, rest, rfl⟩ := List.exists_cons_of_ne_nil nonempty
    exact ⟨c, rest, rfl, inSome_inked lined.heads_inked (takes.head c rfl)⟩
  · refine ⟨taken.dropLast, taken.getLast nonempty, ?_, ?_⟩
    · exact (List.dropLast_concat_getLast nonempty).symm
    · exact inSome_inked lined.tails_inked (takes.last _ (List.getLast?_eq_some_getLast nonempty))

theorem margin_holds (c : Char) :
    (Shape.setOf [.char ' ', .char '\t']).holds c = isMargin c := by
  rw [Bool.eq_iff_iff]
  simp only [CharSet.holds, Shape.setOf, CharSet.itemHolds, Folding.fold, exact_same, List.any_cons,
    List.any_nil, Bool.or_false, beq_true, Bool.or_eq_true, beq_iff_eq, isMargin, decide_eq_true_eq]
  exact or_congr Char.toNat_inj Char.toNat_inj

theorem margin_takes {taken : List Char} (takes : Takes Shape.margin taken) (c : Char)
    (member : c ∈ taken) : isMargin c = true := by
  obtain ⟨s, inside, holds⟩ := takes.each c member
  obtain rfl : s = Shape.setOf [.char ' ', .char '\t'] := by
    simpa [Shape.margin, Shape.many, alphabet] using inside
  rwa [← margin_holds]

theorem isBlank_of_isMargin (c : Char) (margin : isMargin c = true) : isBlank c = true := by
  simp only [isMargin, Bool.or_eq_true, decide_eq_true_eq] at margin
  rcases margin with rfl | rfl <;> decide

/-- A match at the start of a line: its margin, and the signature behind that. -/
structure Opens (m : Match) (margin signature : List Char) : Prop where
  text_eq : m.text = margin ++ signature
  plain : ∀ c ∈ margin, isMargin c = true
  inked : Inked signature
  at_line : m.start.before = [] ∨ ∃ rest, m.start.before = '\n' :: rest

-- A match goes over its margin, and then its body takes the signature.
theorem Margined.split {p body : Pattern} (lined : Margined p body) {text : List Char} {m : Match}
    (matched : Matches p text m) : ∃ margin signature between, Opens m margin signature ∧
      Passes { m.start with groups := [] } margin between ∧ Passes between signature m.stop ∧
        Reaches body between m.stop := by
  have reached := matched.reached
  have passes := matched.passes
  rw [lined.shape] at reached
  obtain ⟨_, ⟨at_line, rfl⟩, between, first, second⟩ := reached
  obtain ⟨margin, marginPassed, marginTakes⟩ := reaches_takes _ _ _ first
  obtain ⟨signature, signaturePassed, signatureTakes⟩ := reaches_takes _ _ _ second
  refine ⟨margin, signature, between, ⟨?_, margin_takes marginTakes, lined.inked signatureTakes, ?_⟩,
    marginPassed, signaturePassed, second⟩
  · exact passes.unique (marginPassed.trans signaturePassed)
  · simp only [Anchor.holds] at at_line
    split at at_line
    next start => exact .inl start
    next c rest start =>
      rw [decide_eq_true_eq] at at_line
      exact .inr ⟨rest, by rw [start, at_line]⟩

theorem Margined.opens {p body : Pattern} (lined : Margined p body) {text : List Char} {m : Match}
    (matched : Matches p text m) : ∃ margin signature, Opens m margin signature := by
  obtain ⟨margin, signature, -, opens, -⟩ := lined.split matched
  exact ⟨margin, signature, opens⟩

theorem Opens.unitStart_eq {m : Match} {margin signature : List Char}
    (opens : Opens m margin signature) : unitStart m = m.index + margin.length := by
  obtain ⟨c, rest, same, ink⟩ := opens.inked.first
  have blank (c : Char) (member : c ∈ margin) : isBlank c = true :=
    isBlank_of_isMargin c (opens.plain c member)
  have stops : (c :: rest).takeWhile isBlank = [] := by simp [ink]
  rw [unitStart, opens.text_eq, List.takeWhile_append_of_pos blank, same, stops, List.append_nil]

-- The name of a declaration is taken as an identifier.
theorem Lined.declaredName {p body : Pattern} (lined : Lined p body) {text : List Char} {m : Match}
    (matched : Matches p text m) : ∃ name, Takes (Shape.identifier Shape.nameStart) name ∧
      declaredName m = some (String.ofList name) := by
  obtain ⟨inner, member, name, takes, holds⟩ :=
    captured_takes 1 p lined.names _ _ matched.reached
  rw [lined.named, List.mem_singleton] at member
  subst member
  refine ⟨name, takes, ?_⟩
  have nonempty : name ≠ [] := takes.nonempty (by decide)
  have first : m.group? 1 = some name := holds
  simp [CodeAtlas.Source.declaredName, first, nonempty]

end CodeAtlas.Source
