import CodeAtlas.Proofs.Pattern.CharSet
import CodeAtlas.Proofs.Pattern.Reach

set_option autoImplicit false

/-! What can be read off a pattern about the texts that it takes: whether they can be empty, the
characters at their ends and inside, and the groups they close. -/

namespace CodeAtlas.Pattern

open CodeAtlas.Text

def nullable : Pattern → Bool
  | .empty | .anchor _ | .again _ _ | .ahead _ _ | .behind _ _ _ => true
  | .set _ => false
  | .seq first second => nullable first && nullable second
  | .choice first second => nullable first || nullable second
  | .loop body least _ _ => least == 0 || nullable body
  | .group _ body | .atomic body => nullable body
  | .given _ yes no => nullable yes || nullable no

/-- The first character of a text that is taken is in one of these. -/
def heads : Pattern → List CharSet
  | .empty | .anchor _ | .ahead _ _ | .behind _ _ _ => []
  | .set s => [s]
  | .seq first second => if nullable first then heads first ++ heads second else heads first
  | .choice first second => heads first ++ heads second
  | .loop body _ _ _ | .group _ body | .atomic body => heads body
  | .again _ _ => [.any]
  | .given _ yes no => heads yes ++ heads no

-- The last character of a text that is taken is in one of these.
def tails : Pattern → List CharSet
  | .empty | .anchor _ | .ahead _ _ | .behind _ _ _ => []
  | .set s => [s]
  | .seq first second => if nullable second then tails first ++ tails second else tails second
  | .choice first second => tails first ++ tails second
  | .loop body _ _ _ | .group _ body | .atomic body => tails body
  | .again _ _ => [.any]
  | .given _ yes no => tails yes ++ tails no

-- Each character of a text that is taken is in one of these.
def alphabet : Pattern → List CharSet
  | .empty | .anchor _ | .ahead _ _ | .behind _ _ _ => []
  | .set s => [s]
  | .seq first second | .choice first second => alphabet first ++ alphabet second
  | .loop body _ _ _ | .group _ body | .atomic body => alphabet body
  | .again _ _ => [.any]
  | .given _ yes no => alphabet yes ++ alphabet no

theorem heads_seq_subset {p q : Pattern} {s : CharSet} (member : s ∈ heads (.seq p q)) :
    s ∈ heads p ∨ s ∈ heads q := by
  unfold heads at member
  split at member
  · exact List.mem_append.mp member
  · exact .inl member

theorem tails_seq_subset {p q : Pattern} {s : CharSet} (member : s ∈ tails (.seq p q)) :
    s ∈ tails p ∨ s ∈ tails q := by
  unfold tails at member
  split at member
  · exact List.mem_append.mp member
  · exact .inr member

def InSome (sets : List CharSet) (c : Char) : Prop :=
  ∃ s ∈ sets, s.holds c = true

theorem InSome.mono {small large : List CharSet} {c : Char} (inside : InSome small c)
    (covers : ∀ s ∈ small, s ∈ large) : InSome large c := by
  obtain ⟨s, member, holds⟩ := inside
  exact ⟨s, covers s member, holds⟩

theorem inSome_inked {sets : List CharSet} {c : Char}
    (clear : sets.all (·.avoids blankRanges) = true) (inside : InSome sets c) : isBlank c = false := by
  obtain ⟨s, member, holds⟩ := inside
  exact CharSet.avoids_holds (List.all_eq_true.mp clear s member) holds

/-- What is known of a text that a pattern takes. -/
structure Takes (p : Pattern) (taken : List Char) : Prop where
  nonempty : nullable p = false → taken ≠ []
  head : ∀ c, taken.head? = some c → InSome (heads p) c
  last : ∀ c, taken.getLast? = some c → InSome (tails p) c
  each : ∀ c ∈ taken, InSome (alphabet p) c

namespace Takes

variable {p q : Pattern} {one two : List Char}

theorem of_nil (empty : nullable p = true) : Takes p [] :=
  ⟨by simp [empty], by simp, by simp, by simp⟩

theorem mono (taken : Takes p one) (nonempty : nullable q = false → nullable p = false)
    (heads_le : ∀ s ∈ heads p, s ∈ heads q) (tails_le : ∀ s ∈ tails p, s ∈ tails q)
    (alphabet_le : ∀ s ∈ alphabet p, s ∈ alphabet q) : Takes q one where
  nonempty := fun full => taken.nonempty (nonempty full)
  head := fun c first => (taken.head c first).mono heads_le
  last := fun c final => (taken.last c final).mono tails_le
  each := fun c member => (taken.each c member).mono alphabet_le

theorem seq (first : Takes p one) (second : Takes q two) : Takes (.seq p q) (one ++ two) where
  nonempty := by
    intro full
    simp only [nullable, Bool.and_eq_false_iff] at full
    rcases full with full | full
    · simp [first.nonempty full]
    · simp [second.nonempty full]
  head := by
    intro c start
    cases one with
    | nil =>
      have empty : nullable p = true := by
        by_contra full
        exact first.nonempty (by simpa using full) rfl
      exact (second.head c start).mono (by simp +contextual [heads, empty])
    | cons a rest =>
      refine (first.head c start).mono fun s member => ?_
      unfold heads
      split <;> simp [member]
  last := by
    intro c final
    cases two with
    | nil =>
      have empty : nullable q = true := by
        by_contra full
        exact second.nonempty (by simpa using full) rfl
      rw [List.append_nil] at final
      exact (first.last c final).mono (by simp +contextual [tails, empty])
    | cons a rest =>
      simp only [List.getLast?_append, List.getLast?_cons, Option.some_or] at final
      rw [← List.getLast?_cons] at final
      refine (second.last c final).mono fun s member => ?_
      unfold tails
      split <;> simp [member]
  each := by
    intro c member
    rcases List.mem_append.mp member with member | member
    · exact (first.each c member).mono (by simp +contextual [alphabet])
    · exact (second.each c member).mono (by simp +contextual [alphabet])

end Takes

theorem Rounds.takes {body : Pattern} (most : Option Nat) (greed : Greed)
    (each : ∀ a b, Reaches body a b → ∃ taken, Passes a taken b ∧ Takes body taken)
    {count : Nat} {a b : Cursor} (rounds : Rounds (Reaches body) count a b) :
    ∃ taken, Passes a taken b ∧ Takes (.loop body 0 most greed) taken ∧
      (0 < count → nullable body = false → taken ≠ []) := by
  induction rounds with
  | none cursor => exact ⟨[], .of_same rfl rfl, .of_nil rfl, by simp⟩
  | more first _ ih =>
    obtain ⟨one, passed, taken⟩ := each _ _ first
    obtain ⟨two, restPassed, rest, -⟩ := ih
    refine ⟨one ++ two, passed.trans restPassed, ?_, ?_⟩
    · refine (taken.seq rest).mono (by simp [nullable]) ?_ ?_ ?_
      · intro s member
        simpa [heads] using heads_seq_subset member
      · intro s member
        simpa [tails] using tails_seq_subset member
      · simp [alphabet]
    · intro _ full
      simp [taken.nonempty full]

theorem reaches_takes (p : Pattern) (cursor later : Cursor) (reached : Reaches p cursor later) :
    ∃ taken, Passes cursor taken later ∧ Takes p taken := by
  induction p generalizing cursor later with
  | empty => exact ⟨[], .of_same (by rw [reached]) (by rw [reached]), .of_nil rfl⟩
  | set s =>
    obtain ⟨c, step, holds⟩ := reached
    have inside : InSome [s] c := ⟨s, by simp, holds⟩
    refine ⟨[c], .of_advance step, by simp, ?_, ?_, ?_⟩ <;>
      simpa [heads, tails, alphabet] using inside
  | anchor a =>
    obtain ⟨-, rfl⟩ := reached
    exact ⟨[], .of_same rfl rfl, .of_nil rfl⟩
  | seq first second ihFirst ihSecond =>
    obtain ⟨between, one, two⟩ := reached
    obtain ⟨a, passedFirst, takenFirst⟩ := ihFirst _ _ one
    obtain ⟨b, passedSecond, takenSecond⟩ := ihSecond _ _ two
    exact ⟨a ++ b, passedFirst.trans passedSecond, takenFirst.seq takenSecond⟩
  | choice first second ihFirst ihSecond =>
    rcases reached with reached | reached
    · obtain ⟨taken, passed, fits⟩ := ihFirst _ _ reached
      refine ⟨taken, passed, fits.mono ?_ ?_ ?_ ?_⟩ <;>
        simp +contextual [nullable, heads, tails, alphabet]
    · obtain ⟨taken, passed, fits⟩ := ihSecond _ _ reached
      refine ⟨taken, passed, fits.mono ?_ ?_ ?_ ?_⟩ <;>
        simp +contextual [nullable, heads, tails, alphabet]
  | loop body least most greed ih =>
    obtain ⟨count, allowed, rounds⟩ := reached
    obtain ⟨taken, passed, fits, full⟩ := rounds.takes most greed ih
    refine ⟨taken, passed, ?_, fits.head, fits.last, fits.each⟩
    intro nonempty
    simp only [nullable, Bool.or_eq_false_iff, beq_eq_false_iff_ne] at nonempty
    exact full (by have := allowed.1; omega) nonempty.2
  | group index body ih =>
    obtain ⟨inner, reached, rfl⟩ := reached
    obtain ⟨taken, passed, fits⟩ := ih _ inner reached
    exact ⟨taken, passed, fits.nonempty, fits.head, fits.last, fits.each⟩
  | again index folding =>
    obtain ⟨text, -, skipped⟩ := reached
    obtain ⟨⟨taken, passed⟩, -⟩ := skipText_passes folding text cursor later skipped
    have any (c : Char) : InSome [.any] c := ⟨.any, by simp, rfl⟩
    exact ⟨taken, passed, by simp [nullable], fun c _ => any c, fun c _ => any c, fun c _ => any c⟩
  | ahead positive body ih =>
    cases positive with
    | true =>
      obtain ⟨inner, -, rfl⟩ := reached
      exact ⟨[], .of_same rfl rfl, .of_nil rfl⟩
    | false => exact ⟨[], .of_same (by rw [reached]) (by rw [reached]), .of_nil rfl⟩
  | behind positive width body ih =>
    cases positive with
    | true =>
      obtain ⟨earlier, inner, -, -, rfl⟩ := reached
      exact ⟨[], .of_same rfl rfl, .of_nil rfl⟩
    | false => exact ⟨[], .of_same (by rw [reached]) (by rw [reached]), .of_nil rfl⟩
  | atomic body ih =>
    obtain ⟨taken, passed, fits⟩ := ih _ _ reached
    exact ⟨taken, passed, fits.nonempty, fits.head, fits.last, fits.each⟩
  | given index yes no ihYes ihNo =>
    simp only [Reaches] at reached
    split at reached
    · obtain ⟨taken, passed, fits⟩ := ihYes _ _ reached
      refine ⟨taken, passed, fits.mono ?_ ?_ ?_ ?_⟩ <;>
        simp +contextual [nullable, heads, tails, alphabet]
    · obtain ⟨taken, passed, fits⟩ := ihNo _ _ reached
      refine ⟨taken, passed, fits.mono ?_ ?_ ?_ ?_⟩ <;>
        simp +contextual [nullable, heads, tails, alphabet]

end CodeAtlas.Pattern
