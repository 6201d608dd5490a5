import CodeAtlas.Proofs.Pattern.Greedy
import CodeAtlas.Proofs.Pattern.Taken

set_option autoImplicit false

/-! Matches in a text and in a beginning of it: a match that ends within the beginning is the match
that is found there, and a text without a match has no beginning with one. -/

namespace CodeAtlas.Pattern

/-- Whether each way through a pattern takes a character, even if its loops take none. -/
def moves : Pattern → Bool
  | .set _ => true
  | .seq first second => moves first || moves second
  | .choice first second => moves first && moves second
  | .group _ body => moves body
  | _ => false

/-- A pattern that looks at nothing but the characters it takes, each round of a loop at some. -/
def simple : Pattern → Bool
  | .empty | .set _ => true
  | .seq first second | .choice first second => simple first && simple second
  | .loop body _ _ greed => greed != .possessive && moves body && simple body
  | .group _ body => simple body
  | _ => false

/-- One place, in a text and in the beginning of it that ends before `tail`. -/
structure Cut (tail : List Char) (long short : Cursor) : Prop where
  after : long.after = short.after ++ tail
  groups : long.groups = short.groups

section

variable {tail : List Char} {long short l s : Cursor}

theorem left_of_after (after : long.after = short.after ++ tail) :
    long.left = short.left + tail.length := by
  rw [long.left_eq, short.left_eq, after, List.length_append]

theorem upTo_of_after (opened : long.after = short.after ++ tail) (closed : l.after = s.after ++ tail) :
    long.upTo l = short.upTo s := by
  have width : long.left - l.left = short.left - s.left := by
    rw [left_of_after opened, left_of_after closed]
    omega
  rw [Cursor.upTo, Cursor.upTo, width, opened, List.take_append_of_le_length]
  rw [← short.left_eq]
  omega

theorem Cut.left_eq (cut : Cut tail long short) : long.left = short.left + tail.length :=
  left_of_after cut.after

theorem Cut.close (opened : Cut tail long short) (closed : Cut tail l s) (index : Nat) :
    Cut tail (l.close index long) (s.close index short) :=
  ⟨closed.after, by
    simp only [Cursor.close, upTo_of_after opened.after closed.after, closed.groups]⟩

end

/-- What a search finds in a text and in a beginning of it: where the text has nothing, the beginning
has nothing, and what ends within the beginning is found in both. -/
structure Agree {α β : Type} (same : α → β → Prop) (beyond : α → Prop) (long : Option α)
    (short : Option β) : Prop where
  nothing : long = none → short = none
  something : ∀ a, long = some a → beyond a ∨ ∃ b, short = some b ∧ same a b

section

variable {α β : Type} {same : α → β → Prop} {beyond : α → Prop}

theorem Agree.none : Agree same beyond none none :=
  ⟨fun _ => rfl, fun _ found => nomatch found⟩

theorem Agree.or {long long' : Option α} {short short' : Option β}
    (first : Agree same beyond long short) (second : Agree same beyond long' short') :
    Agree same beyond (long.or long') (short.or short') := by
  constructor
  · intro nothing
    obtain ⟨none, none'⟩ := Option.or_eq_none_iff.mp nothing
    rw [first.nothing none, second.nothing none', Option.or_none]
  · intro a found
    rcases Option.or_eq_some_iff.mp found with found | ⟨none, found⟩
    · refine (first.something a found).imp_right ?_
      rintro ⟨b, found, agrees⟩
      exact ⟨b, by rw [found, Option.some_or], agrees⟩
    · rw [first.nothing none, Option.none_or]
      exact second.something a found

end

theorem run_left {α : Type} (p : Pattern) :
    Sound (run (α := α) p) fun cursor later => later.left ≤ cursor.left := by
  intro cursor next answer found
  obtain ⟨later, reached, done⟩ := run_sound p cursor next answer found
  obtain ⟨taken, passed, -⟩ := reaches_takes p cursor later reached
  have lengths : cursor.left = taken.length + later.left := by
    rw [later.left_eq, cursor.left_eq, passed.2, List.length_append]
  exact ⟨later, by simp only; omega, done⟩

theorem iterate_left {α : Type} (body : Pattern) (least : Nat) (most : Option Nat) (lazy : Bool)
    (fuel count : Nat) (mark : Option Nat) :
    Sound (iterate (run (α := α) body) least most lazy fuel count mark)
      fun cursor later => later.left ≤ cursor.left := by
  induction fuel generalizing count mark with
  | zero => exact fun cursor next answer found => ⟨cursor, Nat.le_refl _, found⟩
  | succ fuel ih =>
    intro cursor next answer found
    have round (mark : Option Nat) (step : (run body cursor fun later =>
        iterate (run body) least most lazy fuel (count + 1) mark later next) = some answer) :
        ∃ later, later.left ≤ cursor.left ∧ next later = some answer := by
      obtain ⟨between, le, rest⟩ := run_left body _ _ _ step
      obtain ⟨later, le', done⟩ := ih (count + 1) mark _ _ _ rest
      exact ⟨later, Nat.le_trans le' le, done⟩
    rw [iterate_succ] at found
    simp only at found
    split at found
    · exact round _ found
    · split at found
      · split at found
        · rcases Option.or_eq_some_iff.mp found with step | ⟨-, step⟩
          · exact ⟨cursor, Nat.le_refl _, step⟩
          · exact round _ step
        · rcases Option.or_eq_some_iff.mp found with step | ⟨-, step⟩
          · exact round _ step
          · exact ⟨cursor, Nat.le_refl _, step⟩
      · exact ⟨cursor, Nat.le_refl _, found⟩

section

variable {α β : Type} {same : α → β → Prop} {beyond : α → Prop} {tail : List Char}

/-- At each place the steps agree, if what follows does. A search that has gone over the end of the
beginning must not come back. -/
def Follows (same : α → β → Prop) (beyond : α → Prop) (tail : List Char) (p : Pattern) : Prop :=
  ∀ (next : Cursor → Option α) (next' : Cursor → Option β),
    (∀ l a, l.left < tail.length → next l = some a → beyond a) →
    ∀ long short, Cut tail long short →
      (∀ l s, Cut tail l s → l.left ≤ long.left → (moves p = true → l.left < long.left) →
        Agree same beyond (next l) (next' s)) →
      Agree same beyond (run p long next) (run p short next')

theorem set_follows (s : CharSet) : Follows same beyond tail (.set s) := by
  intro next next' past long short cut rest
  have width : long.left = short.after.length + tail.length := by rw [cut.left_eq, short.left_eq]
  rw [long.eq_between, short.eq_between, cut.after]
  cases start : short.after with
  | nil =>
    rw [run_set_nil]
    refine ⟨fun _ => rfl, fun a found => .inl ?_⟩
    cases tail with
    | nil => cases found
    | cons c tail =>
      rw [List.nil_append, run_set_cons] at found
      split at found
      · exact past _ a (by simp [Cursor.between]) found
      · cases found
  | cons c after =>
    rw [start] at width
    rw [List.cons_append, run_set_cons, run_set_cons]
    split
    · refine rest _ _ ⟨rfl, cut.groups⟩ ?_ fun _ => ?_ <;>
        simp only [Cursor.between, width, List.length_append, List.length_cons] <;> omega
    · exact .none

-- The fuel on either side lasts longer than the text, and each round takes a character of it.
theorem iterate_follows {body : Pattern} (follows : Follows same beyond tail body)
    (full : moves body = true) (least : Nat) (most : Option Nat) (lazy : Bool) (fuel fuel' count : Nat)
    (mark mark' : Option Nat) (marks : mark = mark'.map (· + tail.length)) (next : Cursor → Option α)
    (next' : Cursor → Option β) (past : ∀ l a, l.left < tail.length → next l = some a → beyond a)
    (long short : Cursor) (cut : Cut tail long short) (enough : long.left < fuel)
    (enough' : short.left < fuel')
    (rest : ∀ l s, Cut tail l s → l.left ≤ long.left → Agree same beyond (next l) (next' s)) :
    Agree same beyond (iterate (run body) least most lazy fuel count mark long next)
      (iterate (run body) least most lazy fuel' count mark' short next') := by
  induction fuel generalizing fuel' count mark mark' long short with
  | zero => omega
  | succ fuel ih =>
    obtain ⟨fuel', rfl⟩ := Nat.exists_eq_add_one.mpr (Nat.zero_lt_of_lt enough')
    have width := cut.left_eq
    have round (mark mark' : Option Nat) (marks : mark = mark'.map (· + tail.length)) :
        Agree same beyond
          (run body long fun later => iterate (run body) least most lazy fuel (count + 1) mark later next)
          (run body short fun later =>
            iterate (run body) least most lazy fuel' (count + 1) mark' later next') := by
      refine follows _ _ ?_ long short cut ?_
      · intro l a gone found
        obtain ⟨later, le, done⟩ := iterate_left body least most lazy fuel (count + 1) mark l next a found
        exact past later a (Nat.lt_of_le_of_lt le gone) done
      · intro l s cut' _ less
        have shorter := less full
        have width' := cut'.left_eq
        exact ih fuel' (count + 1) mark mark' marks l s cut' (by omega) (by omega) fun l' s' cut'' le =>
          rest l' s' cut'' (by omega)
    have done : Agree same beyond (next long) (next' short) := rest long short cut (Nat.le_refl _)
    have again : (mark != some long.left) = (mark' != some short.left) := by
      rw [marks, width]
      cases mark' <;> simp [bne]
    have counted : some long.left = (some short.left).map (· + tail.length) := by rw [width]; rfl
    rw [iterate_succ, iterate_succ]
    simp only [again]
    split
    · exact round mark mark' marks
    · split
      · split
        · exact done.or (round _ _ counted)
        · exact (round _ _ counted).or done
      · exact done

end

theorem run_follows {α β : Type} {same : α → β → Prop} {beyond : α → Prop} {tail : List Char}
    (p : Pattern) (plain : simple p = true) : Follows same beyond tail p := by
  induction p with
  | empty =>
    intro next next' past long short cut rest
    exact rest long short cut (Nat.le_refl _) (fun full => absurd full Bool.false_ne_true)
  | set s => exact set_follows s
  | seq first second ihFirst ihSecond =>
    simp only [simple, Bool.and_eq_true] at plain
    intro next next' past long short cut rest
    refine ihFirst plain.1 _ _ ?_ long short cut ?_
    · intro l a gone found
      obtain ⟨later, le, done⟩ := run_left second l next a found
      exact past later a (Nat.lt_of_le_of_lt le gone) done
    · intro l s cut' le less
      refine ihSecond plain.2 next next' past l s cut' fun l' s' cut'' le' less' => ?_
      refine rest l' s' cut'' (Nat.le_trans le' le) fun full => ?_
      simp only [moves, Bool.or_eq_true] at full
      rcases full with full | full
      · have := less full
        omega
      · have := less' full
        omega
  | choice first second ihFirst ihSecond =>
    simp only [simple, Bool.and_eq_true] at plain
    intro next next' past long short cut rest
    simp only [run, Option.orElse_eq_orElse, Option.orElse_eq_or]
    refine (ihFirst plain.1 next next' past long short cut fun l s cut' le less => ?_).or
      (ihSecond plain.2 next next' past long short cut fun l s cut' le less => ?_)
    · exact rest l s cut' le fun full => less (Bool.and_eq_true_iff.mp full).1
    · exact rest l s cut' le fun full => less (Bool.and_eq_true_iff.mp full).2
  | loop body least most greed ih =>
    simp only [simple, Bool.and_eq_true, bne_iff_ne, ne_eq] at plain
    obtain ⟨⟨kept, full⟩, plain⟩ := plain
    intro next next' past long short cut rest
    have loop (lazy : Bool) : Agree same beyond
        (iterate (run body) least most lazy (loopFuel least long) 0 none long next)
        (iterate (run body) least most lazy (loopFuel least short) 0 none short next') := by
      refine iterate_follows (ih plain) full least most lazy _ _ 0 none none rfl next next' past long
        short cut ?_ ?_ fun l s cut' le => rest l s cut' le fun never => absurd never Bool.false_ne_true
      · unfold loopFuel
        omega
      · unfold loopFuel
        omega
    cases greed with
    | greedy => exact loop false
    | lazy => exact loop true
    | possessive => exact absurd rfl kept
  | group index body ih =>
    intro next next' past long short cut rest
    refine ih plain (fun later => next (later.close index long))
      (fun later => next' (later.close index short))
      (fun l a gone found => past (l.close index long) a gone found) long short
      cut fun l s cut' le less => ?_
    exact rest _ _ (cut.close cut' index) le less
  | anchor | again | ahead | behind | atomic | given => cases plain

end CodeAtlas.Pattern
