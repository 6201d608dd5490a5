import CodeAtlas.Proofs.Pattern.Found
import CodeAtlas.Proofs.Source.Shape

set_option autoImplicit false

/-! Matches at the start of a line: behind the margin a shape takes the same, wherever the line stands
and however the text goes on behind the match. -/

namespace CodeAtlas.Source

open CodeAtlas.Pattern CodeAtlas.Text

/-- A place at the start of a line, in front of a margin and of a text that begins in ink. -/
structure AtLine (cursor : Cursor) (margin rest : List Char) : Prop where
  line : Anchor.holds cursor .lineStart = true
  after : cursor.after = margin ++ rest
  plain : ∀ c ∈ margin, isMargin c = true
  ink : ∃ c more, rest = c :: more ∧ isBlank c = false

theorem AtLine.stops {cursor : Cursor} {margin rest : List Char} (starts : AtLine cursor margin rest) :
    (margin ++ rest).takeWhile isMargin = margin ∧ (margin ++ rest).dropWhile isMargin = rest := by
  obtain ⟨c, more, rfl, ink⟩ := starts.ink
  have other : isMargin c = false := by
    by_contra inside
    rw [isBlank_of_isMargin c (by simpa using inside)] at ink
    cases ink
  constructor
  · rw [List.takeWhile_append_of_pos starts.plain, List.takeWhile_cons_of_neg (by simp [other]),
      List.append_nil]
  · rw [List.dropWhile_append_of_pos starts.plain, List.dropWhile_cons_of_neg (by simp [other])]

section

variable {p body : Pattern}

-- A shape takes the whole margin, as the rest of it begins in ink.
theorem Margined.matchAt_eq (lined : Margined p body) {cursor : Cursor} {margin rest : List Char}
    (starts : AtLine cursor margin rest) : matchAt p cursor =
      run body (.between (margin.reverse ++ cursor.before) rest []) fun stop => some ⟨cursor, stop⟩ := by
  have holds : (Shape.setOf [.char ' ', .char '\t']).holds = isMargin := funext margin_holds
  have anchored : matchAt p cursor = run (Shape.margin)
      (.between cursor.before (margin ++ rest) []) fun later =>
        run body later fun stop => some ⟨cursor, stop⟩ := by
    rw [lined.shape, ← starts.after]
    have bare : ({ cursor with groups := [] } : Cursor) = .between cursor.before cursor.after [] :=
      Cursor.eq_between { cursor with groups := [] }
    rw [← bare]
    exact if_pos starts.line
  have stuck : Stuck (Shape.setOf [.char ' ', .char '\t']) cursor.before [] (margin ++ rest)
      fun later => run body later fun stop => some (⟨cursor, stop⟩ : Match) := by
    intro one c two split
    rw [holds, starts.stops.1] at split
    refine run_none lined.full ?_ _
    intro d first
    obtain rfl : c = d := by simpa [Cursor.between] using first
    intro inside
    have ink := inSome_inked lined.heads_inked inside
    rw [isBlank_of_isMargin c (starts.plain c (by simp [split]))] at ink
    cases ink
  rw [anchored, Shape.margin, Shape.many, run_many_set _ _ _ _ _ stuck, holds, starts.stops.1,
    starts.stops.2]

-- The margin and what stands in front of it do not matter, nor does what stands behind the match.
theorem Margined.agree (lined : Margined p body) {a b : Cursor} {margin margin' rest tail : List Char}
    (long : AtLine a margin (rest ++ tail)) (short : AtLine b margin' rest) :
    Agree (fun m m' => Cut tail m.stop m'.stop) (fun m => m.stop.left < tail.length)
      (matchAt p a) (matchAt p b) := by
  rw [lined.matchAt_eq long, lined.matchAt_eq short]
  refine run_follows body lined.plain _ _ ?_ _ _ ⟨rfl, rfl⟩ ?_
  · intro l m gone made
    obtain rfl := Option.some.inj made
    exact gone
  · intro l s cut _ _
    refine ⟨fun none => (nomatch none), fun m made => .inr ⟨⟨b, s⟩, rfl, ?_⟩⟩
    obtain rfl := Option.some.inj made
    exact cut

theorem Opens.atLine {text : List Char} {m : Match} {margin signature : List Char}
    (opens : Opens m margin signature) (matched : Matches p text m) :
    AtLine m.start margin (signature ++ m.stop.after) := by
  obtain ⟨c, more, same, ink⟩ := opens.inked.first
  refine ⟨?_, ?_, opens.plain, c, more ++ m.stop.after, by rw [same]; rfl, ink⟩
  · rcases opens.at_line with start | ⟨rest, start⟩
    · simp [Anchor.holds, start]
    · simp [Anchor.holds, start]
  · have after : m.start.after = m.text ++ m.stop.after := matched.passes.2
    rw [after, opens.text_eq, List.append_assoc]

theorem AtLine.of_same {a b : Cursor} {margin rest : List Char} (starts : AtLine a margin rest)
    (before : a.before = b.before) (after : a.after = b.after) : AtLine b margin rest := by
  refine ⟨?_, after ▸ starts.after, starts.plain, starts.ink⟩
  have line := starts.line
  simp only [Anchor.holds] at line ⊢
  rwa [before] at line

-- Two searches at one place find the same.
theorem Margined.same (lined : Margined p body) {a b : Cursor} (before : a.before = b.before)
    (after : a.after = b.after) {m : Match} (found : matchAt p a = some m) :
    ∃ m', matchAt p b = some m' ∧ Cut [] m.stop m'.stop := by
  have matched := matchAt_matches p (a.before.reverse ++ a.after) a m rfl found
  obtain ⟨margin, signature, opens⟩ := lined.opens matched
  have starts := opens.atLine matched
  rw [matchAt_start found] at starts
  have long : AtLine a margin (signature ++ m.stop.after ++ []) := by rwa [List.append_nil]
  have agree := lined.agree long (starts.of_same before after)
  exact (agree.something m found).resolve_left (Nat.not_lt_zero _)

theorem Margined.steady (lined : Margined p body) : Steady p := by
  intro a b before after hit
  obtain ⟨m, found⟩ := Option.isSome_iff_exists.mp hit
  obtain ⟨m', found', -⟩ := lined.same before after found
  rw [found']
  rfl

end

end CodeAtlas.Source
