import CodeAtlas.Proofs.Pattern.Taken

set_option autoImplicit false

/-! The texts that a pattern takes, written out piece by piece. -/

namespace CodeAtlas.Pattern

/-- The texts that a pattern can take, whatever stands around them. -/
def Spells : Pattern → List Char → Prop
  | .empty, text | .anchor _, text | .ahead _ _, text | .behind _ _ _, text => text = []
  | .set s, text => ∃ c, text = [c] ∧ s.holds c = true
  | .seq first second, text => ∃ one two, text = one ++ two ∧ Spells first one ∧ Spells second two
  | .choice first second, text | .given _ first second, text =>
    Spells first text ∨ Spells second text
  | .loop body least most _, text => ∃ pieces : List (List Char),
    text = pieces.flatten ∧ Allowed least most pieces.length ∧ ∀ piece ∈ pieces, Spells body piece
  | .group _ body, text | .atomic body, text => Spells body text
  | .again _ _, _ => True

theorem Rounds.spells {body : Pattern}
    (each : ∀ a b, Reaches body a b → ∃ taken, Passes a taken b ∧ Spells body taken) {count : Nat}
    {a b : Cursor} (rounds : Rounds (Reaches body) count a b) :
    ∃ pieces : List (List Char), Passes a pieces.flatten b ∧ pieces.length = count ∧
      ∀ piece ∈ pieces, Spells body piece := by
  induction rounds with
  | none cursor => exact ⟨[], .of_same rfl rfl, rfl, by simp⟩
  | more first _ ih =>
    obtain ⟨piece, passed, spells⟩ := each _ _ first
    obtain ⟨pieces, later, rfl, all⟩ := ih
    refine ⟨piece :: pieces, passed.trans later, rfl, ?_⟩
    intro other member
    rcases List.mem_cons.mp member with rfl | member
    · exact spells
    · exact all other member

theorem reaches_spells (p : Pattern) (cursor later : Cursor) (reached : Reaches p cursor later) :
    ∃ taken, Passes cursor taken later ∧ Spells p taken := by
  induction p generalizing cursor later with
  | empty => exact ⟨[], .of_same (by rw [reached]) (by rw [reached]), rfl⟩
  | set s =>
    obtain ⟨c, step, holds⟩ := reached
    exact ⟨[c], .of_advance step, c, rfl, holds⟩
  | anchor a =>
    obtain ⟨-, rfl⟩ := reached
    exact ⟨[], .of_same rfl rfl, rfl⟩
  | seq first second ihFirst ihSecond =>
    obtain ⟨between, one, two⟩ := reached
    obtain ⟨a, passedFirst, spellsFirst⟩ := ihFirst _ _ one
    obtain ⟨b, passedSecond, spellsSecond⟩ := ihSecond _ _ two
    exact ⟨a ++ b, passedFirst.trans passedSecond, a, b, rfl, spellsFirst, spellsSecond⟩
  | choice first second ihFirst ihSecond =>
    rcases reached with reached | reached
    · obtain ⟨taken, passed, spells⟩ := ihFirst _ _ reached
      exact ⟨taken, passed, .inl spells⟩
    · obtain ⟨taken, passed, spells⟩ := ihSecond _ _ reached
      exact ⟨taken, passed, .inr spells⟩
  | loop body least most greed ih =>
    obtain ⟨count, allowed, rounds⟩ := reached
    obtain ⟨pieces, passed, rfl, each⟩ := rounds.spells ih
    exact ⟨pieces.flatten, passed, pieces, rfl, allowed, each⟩
  | group index body ih =>
    obtain ⟨inner, reached, rfl⟩ := reached
    obtain ⟨taken, passed, spells⟩ := ih _ inner reached
    exact ⟨taken, passed, spells⟩
  | again index folding =>
    obtain ⟨text, -, skipped⟩ := reached
    obtain ⟨⟨taken, passed⟩, -⟩ := skipText_passes folding text cursor later skipped
    exact ⟨taken, passed, trivial⟩
  | ahead positive body ih =>
    cases positive with
    | true =>
      obtain ⟨inner, -, rfl⟩ := reached
      exact ⟨[], .of_same rfl rfl, rfl⟩
    | false => exact ⟨[], .of_same (by rw [reached]) (by rw [reached]), rfl⟩
  | behind positive width body ih =>
    cases positive with
    | true =>
      obtain ⟨earlier, inner, -, -, rfl⟩ := reached
      exact ⟨[], .of_same rfl rfl, rfl⟩
    | false => exact ⟨[], .of_same (by rw [reached]) (by rw [reached]), rfl⟩
  | atomic body ih => exact ih _ _ reached
  | given index yes no ihYes ihNo =>
    simp only [Reaches] at reached
    split at reached
    · obtain ⟨taken, passed, spells⟩ := ihYes _ _ reached
      exact ⟨taken, passed, .inl spells⟩
    · obtain ⟨taken, passed, spells⟩ := ihNo _ _ reached
      exact ⟨taken, passed, .inr spells⟩

theorem spells_each (p : Pattern) (text : List Char) (spells : Spells p text) (c : Char)
    (member : c ∈ text) : InSome (alphabet p) c := by
  induction p generalizing text with
  | empty | anchor | ahead | behind =>
    obtain rfl := spells
    cases member
  | set s =>
    obtain ⟨d, rfl, holds⟩ := spells
    obtain rfl := List.mem_singleton.mp member
    exact ⟨s, by simp [alphabet], holds⟩
  | seq first second ihFirst ihSecond =>
    obtain ⟨one, two, rfl, spellsFirst, spellsSecond⟩ := spells
    rcases List.mem_append.mp member with member | member
    · exact (ihFirst _ spellsFirst member).mono (by simp +contextual [alphabet])
    · exact (ihSecond _ spellsSecond member).mono (by simp +contextual [alphabet])
  | choice first second ihFirst ihSecond | given _ first second ihFirst ihSecond =>
    rcases spells with spells | spells
    · exact (ihFirst _ spells member).mono (by simp +contextual [alphabet])
    · exact (ihSecond _ spells member).mono (by simp +contextual [alphabet])
  | loop body least most greed ih =>
    obtain ⟨pieces, rfl, -, each⟩ := spells
    obtain ⟨piece, inside, member⟩ := List.mem_flatten.mp member
    exact ih piece (each piece inside) member
  | group index body ih => exact ih text spells member
  | atomic body ih => exact ih text spells member
  | again => exact ⟨.any, by simp [alphabet], rfl⟩

-- A character that no set of a pattern holds stands in no text that the pattern spells.
theorem not_mem_of_spells {p : Pattern} {text : List Char} {c : Char}
    (clear : (alphabet p).all (fun s => !s.holds c) = true) (spells : Spells p text) : c ∉ text := by
  intro member
  obtain ⟨s, inside, holds⟩ := spells_each p text spells c member
  simpa [holds] using List.all_eq_true.mp clear s inside

-- A round of a loop that may be left out is taken once or not at all.
theorem spells_maybe {body : Pattern} {greed : Greed} {text : List Char}
    (spells : Spells (.loop body 0 (some 1) greed) text) : text = [] ∨ Spells body text := by
  obtain ⟨pieces, rfl, allowed, each⟩ := spells
  have few : pieces.length ≤ 1 := by simpa using allowed.2 1 rfl
  match pieces, few with
  | [], _ => exact .inl rfl
  | [piece], _ => exact .inr (by simpa using each piece (by simp))

theorem maybe_spells_nil {body : Pattern} {greed : Greed} : Spells (.loop body 0 (some 1) greed) [] :=
  ⟨[], rfl, ⟨Nat.le_refl 0, fun _ _ => Nat.zero_le _⟩, by simp⟩

theorem maybe_spells {body : Pattern} {greed : Greed} {text : List Char} (spells : Spells body text) :
    Spells (.loop body 0 (some 1) greed) text := by
  refine ⟨[text], by simp, ⟨Nat.zero_le _, ?_⟩, by simpa using spells⟩
  rintro limit same
  obtain rfl := Option.some.inj same
  exact Nat.le_refl 1

end CodeAtlas.Pattern
