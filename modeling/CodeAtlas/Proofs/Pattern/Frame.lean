import CodeAtlas.Proofs.Pattern.Cut
import CodeAtlas.Proofs.Pattern.Found
import Mathlib.Data.List.Forall2

set_option autoImplicit false

/-! Searches in a text and in the same text within a frame of white space: the same matches are found,
moved by what stands in front. -/

namespace CodeAtlas.Pattern

open CodeAtlas.Text

/-- White space around a text: whole lines in front of it, and nothing behind it on its last line. -/
structure Frame (front tail : List Char) : Prop where
  front_blank : ∀ c ∈ front, isBlank c = true
  front_line : front = [] ∨ ∃ init, front = init ++ ['\n']
  tail_blank : ∀ c ∈ tail, isBlank c = true
  tail_line : tail = [] ∨ ∃ rest, tail = '\n' :: rest

/-- One place, in a text and in the text with something around it. -/
structure Framed (front tail : List Char) (long short : Cursor) : Prop where
  before : long.before = short.before ++ front.reverse
  after : long.after = short.after ++ tail

/-- One match, in a text and in the text with something around it. -/
structure FramedMatch (front tail : List Char) (m m' : Match) : Prop where
  start : Framed front tail m.start m'.start
  stop : Framed front tail m.stop m'.stop
  groups : m.stop.groups = m'.stop.groups

section

variable {front tail : List Char} {long short : Cursor} {m m' : Match}

theorem Framed.index_eq (framed : Framed front tail long short) :
    long.index = front.length + short.index := by
  rw [long.index_eq, short.index_eq, framed.before, List.length_append, List.length_reverse,
    Nat.add_comm]

theorem Framed.advance (framed : Framed front tail long short) (more : 0 < short.left) :
    ∃ c next c' next', long.advance = some (c, next) ∧ short.advance = some (c', next') ∧
      Framed front tail next next' ∧ long.left = next.left + 1 ∧ short.left = next'.left + 1 := by
  have wide := left_of_after framed.after
  obtain ⟨c, next, step, -, left⟩ := advance_of_left (a := long) (by omega)
  obtain ⟨c', next', step', -, left'⟩ := advance_of_left more
  have passed := Passes.of_advance step
  have passed' := Passes.of_advance step'
  have after := framed.after
  rw [passed.2, passed'.2] at after
  obtain ⟨rfl, rest⟩ := List.cons.inj after
  refine ⟨c, next, c, next', step, step', ⟨?_, rest⟩, left, left'⟩
  rw [passed.1, passed'.1, framed.before]
  rfl

theorem FramedMatch.index_eq (same : FramedMatch front tail m m') :
    m.index = front.length + m'.index :=
  same.start.index_eq

theorem FramedMatch.endIndex_eq (same : FramedMatch front tail m m') :
    m.endIndex = front.length + m'.endIndex :=
  same.stop.index_eq

theorem FramedMatch.text_eq (same : FramedMatch front tail m m') : m.text = m'.text :=
  upTo_of_after same.start.after same.stop.after

theorem FramedMatch.group?_eq (same : FramedMatch front tail m m') (index : Nat) :
    m.group? index = m'.group? index := by
  simp only [Match.group?, Cursor.group?, same.groups]

end

-- What a match takes from here ends in ink.
theorem matchAt_last {p : Pattern} (full : nullable p = false)
    (inked : (tails p).all (·.avoids blankRanges) = true) {cursor : Cursor} {m : Match}
    (found : matchAt p cursor = some m) :
    ∃ init c, cursor.after = init ++ c :: m.stop.after ∧ isBlank c = false := by
  obtain ⟨stop, reached, made⟩ := run_sound p _ _ _ found
  obtain rfl := Option.some.inj made
  obtain ⟨taken, passed, takes⟩ := reaches_takes p _ _ reached
  obtain ⟨init, c, rfl⟩ := (List.eq_nil_or_concat taken).resolve_left (takes.nonempty full)
  refine ⟨init, c, ?_, inSome_inked inked (takes.last c (by simp))⟩
  have after : cursor.after = init.concat c ++ stop.after := passed.2
  rw [after]
  simp

/-- A pattern that ends in ink, that begins nowhere in the white space in front of a text, and that looks
at nothing around what it takes. -/
structure Frameable (front tail : List Char) (p : Pattern) : Prop where
  full : nullable p = false
  inked : (tails p).all (·.avoids blankRanges) = true
  apart : ∀ {cursor : Cursor} {one more : List Char}, one ≠ [] → one <:+ front →
    cursor.after = one ++ more → matchAt p cursor = none
  agree : ∀ {long short : Cursor}, Framed front tail long short →
    Agree (fun m m' => Cut tail m.stop m'.stop) (fun m => m.stop.left < tail.length)
      (matchAt p long) (matchAt p short)

section

variable {front tail : List Char} {p : Pattern}

theorem matchAt_framed (fits : Frameable front tail p) (frame : Frame front tail)
    {long short : Cursor} (framed : Framed front tail long short) :
    Option.Rel (FramedMatch front tail) (matchAt p long) (matchAt p short) := by
  have agree := fits.agree framed
  cases found : matchAt p long with
  | none =>
    rw [agree.nothing found]
    exact .none
  | some m =>
    obtain ⟨init, c, after, ink⟩ := matchAt_last fits.full fits.inked found
    -- A match that goes on behind the text ends in white space.
    have inside : ¬m.stop.left < tail.length := by
      intro beyond
      rw [m.stop.left_eq] at beyond
      have whole : c :: m.stop.after <:+ long.after := ⟨init, after.symm⟩
      have last : tail <:+ long.after := ⟨short.after, framed.after.symm⟩
      have short := List.suffix_of_suffix_length_le whole last (by rwa [List.length_cons])
      rw [frame.tail_blank c (short.subset List.mem_cons_self)] at ink
      cases ink
    obtain ⟨m', found', cut⟩ := (agree.something m found).resolve_left inside
    rw [found']
    have passes := (matchAt_matches p _ long m rfl found).passes
    have passes' := (matchAt_matches p _ short m' rfl found').passes
    have start := matchAt_start found
    have start' := matchAt_start found'
    have starts : Framed front tail m.start m'.start := by rwa [start, start']
    have text : m.text = m'.text := upTo_of_after starts.after cut.after
    refine .some ⟨starts, ⟨?_, cut.after⟩, cut.groups⟩
    rw [passes.1, passes'.1, text, List.append_assoc]
    exact congrArg _ starts.before

theorem findFrom_blank (full : nullable p = false)
    (inked : (tails p).all (·.avoids blankRanges) = true) (places : Nat) {cursor : Cursor}
    (blank : ∀ c ∈ cursor.after, isBlank c = true) : findFrom p places cursor = none := by
  induction places generalizing cursor with
  | zero => rfl
  | succ places ih =>
    rw [findFrom]
    cases found : matchAt p cursor with
    | some m =>
      obtain ⟨init, c, after, ink⟩ := matchAt_last full inked found
      rw [blank c (by simp [after])] at ink
      cases ink
    | none =>
      apply Option.bind_eq_none_iff.mpr
      rintro ⟨c, next⟩ step
      refine ih fun d member => blank d ?_
      rw [(Passes.of_advance step).2]
      exact List.mem_append_right _ member

theorem findFrom_framed (fits : Frameable front tail p) (frame : Frame front tail)
    {places places' : Nat} {long short : Cursor} (framed : Framed front tail long short)
    (enough : long.left < places) (enough' : short.left < places') :
    Option.Rel (FramedMatch front tail) (findFrom p places long) (findFrom p places' short) := by
  induction places generalizing places' long short with
  | zero => omega
  | succ places ih =>
    obtain ⟨places', rfl⟩ := Nat.exists_eq_add_one.mpr (Nat.zero_lt_of_lt enough')
    rcases Nat.eq_zero_or_pos short.left with done | more
    · -- Behind the text there is nothing but white space.
      rw [short.left_eq] at done
      have empty := List.length_eq_zero_iff.mp done
      have after := framed.after
      rw [empty, List.nil_append] at after
      rw [findFrom_blank fits.full fits.inked _ (by rw [after]; exact frame.tail_blank),
        findFrom_blank fits.full fits.inked _ (by simp [empty])]
      exact .none
    · obtain ⟨c, next, c', next', step, step', framed', left, left'⟩ := framed.advance more
      have later := ih framed' (show next.left < places by omega) (show next'.left < places' by omega)
      have here := matchAt_framed fits frame framed
      rw [findFrom, findFrom, step, step']
      generalize matchAt p long = first, matchAt p short = second at here
      cases here with
      | none => exact later
      | some same => exact .some same

-- The search goes on behind a match.
theorem goes_on (full : nullable p = false) {places : Nat} {cursor : Cursor} {m : Match}
    (found : findFrom p places cursor = some m) :
    resume m = some m.stop ∧ m.stop.left < cursor.left := by
  have within : cursor.Within (cursor.before.reverse ++ cursor.after) := rfl
  have matched := findFrom_matches p _ places cursor m within found
  obtain ⟨resumes, moved⟩ := resume_of_full full matched
  have late := findFrom_late found
  have size := within.size
  have size' := (resume_within matched m.stop resumes).size
  have stop : m.endIndex = m.stop.index := rfl
  exact ⟨resumes, by omega⟩

theorem findAllFrom_framed (fits : Frameable front tail p) (frame : Frame front tail)
    {fuel fuel' : Nat} {long short : Cursor} (framed : Framed front tail long short)
    (enough : long.left < fuel) (enough' : short.left < fuel') :
    List.Forall₂ (FramedMatch front tail) (findAllFrom p fuel long) (findAllFrom p fuel' short) := by
  induction fuel generalizing fuel' long short with
  | zero => omega
  | succ fuel ih =>
    obtain ⟨fuel', rfl⟩ := Nat.exists_eq_add_one.mpr (Nat.zero_lt_of_lt enough')
    have next := findFrom_framed fits frame framed (Nat.lt_succ_self _) (Nat.lt_succ_self _)
    rw [findAllFrom, findAllFrom, findNext, findNext]
    cases found : findFrom p (long.left + 1) long <;> cases found' : findFrom p (short.left + 1) short <;>
      rw [found, found'] at next
    next => exact .nil
    next => cases next
    next => cases next
    next m m' =>
      obtain ⟨same⟩ := next
      obtain ⟨resumes, less⟩ := goes_on fits.full found
      obtain ⟨resumes', less'⟩ := goes_on fits.full found'
      simp only [resumes, resumes']
      exact .cons same (ih same.stop (by omega) (by omega))

-- The search goes over what stands in front of the text.
theorem findFrom_front (fits : Frameable front tail p) {one more : List Char} (last : one <:+ front)
    {cursor : Cursor} (after : cursor.after = one ++ more) : ∃ later, Passes cursor one later ∧
      ∀ places, findFrom p (one.length + places) cursor = findFrom p places later := by
  induction one generalizing cursor with
  | nil => exact ⟨cursor, .of_same rfl rfl, fun places => by rw [List.length_nil, Nat.zero_add]⟩
  | cons c one ih =>
    have some : 0 < cursor.left := by
      rw [cursor.left_eq, after]
      exact Nat.succ_pos _
    obtain ⟨d, next, step, -, -⟩ := advance_of_left some
    have passed := Passes.of_advance step
    have whole := passed.2
    rw [after] at whole
    obtain ⟨rfl, rest⟩ := List.cons.inj whole
    obtain ⟨later, beyond, same⟩ := ih ((List.suffix_cons c one).trans last) rest.symm
    refine ⟨later, passed.trans beyond, fun places => ?_⟩
    rw [List.length_cons, Nat.add_right_comm, findFrom, fits.apart (List.cons_ne_nil c one) last after,
      step]
    exact same places

/-- A pattern finds the same in a text and in the text within a frame. -/
theorem findAll_framed (fits : Frameable front tail p) (frame : Frame front tail)
    (text : List Char) :
    List.Forall₂ (FramedMatch front tail) (p.findAll (front ++ (text ++ tail))) (p.findAll text) := by
  have whole : (Cursor.start (front ++ (text ++ tail))).after = front ++ (text ++ tail) := rfl
  obtain ⟨later, passed, same⟩ := findFrom_front fits (List.suffix_refl front) whole
  have before : later.before = front.reverse := by simpa [Cursor.start] using passed.1
  have after : later.after = text ++ tail := (List.append_cancel_left passed.2).symm
  have framed : Framed front tail later (.start text) := ⟨by simpa [Cursor.start] using before, after⟩
  have wide : (front ++ (text ++ tail)).length = front.length + later.left := by
    rw [later.left_eq, after, List.length_append]
  have first : findNext p (.start (front ++ (text ++ tail))) = findNext p later := by
    have left : (Cursor.start (front ++ (text ++ tail))).left = front.length + later.left := wide
    rw [findNext, left, Nat.add_assoc, same, findNext]
  have skipped (fuel : Nat) : findAllFrom p (fuel + 1) (.start (front ++ (text ++ tail))) =
      findAllFrom p (fuel + 1) later := by
    rw [findAllFrom, first, findAllFrom]
  rw [findAll, skipped]
  exact findAllFrom_framed fits frame framed (by omega) (Nat.lt_succ_self _)

theorem agree_of_simple (plain : simple p = true) {long short : Cursor}
    (framed : Framed front tail long short) :
    Agree (fun m m' => Cut tail m.stop m'.stop) (fun m => m.stop.left < tail.length)
      (matchAt p long) (matchAt p short) := by
  refine run_follows p plain _ _ ?_ _ _ ⟨framed.after, rfl⟩ fun l s cut _ _ => ?_
  · intro l m gone made
    obtain rfl := Option.some.inj made
    exact gone
  · refine ⟨fun none => (nomatch none), fun m made => .inr ⟨⟨short, s⟩, rfl, ?_⟩⟩
    obtain rfl := Option.some.inj made
    exact cut

-- An anchor in front of the rest may look around, if it sees the same there.
theorem agree_of_anchored (plain : simple p = true) {a : Anchor} {long short : Cursor}
    (framed : Framed front tail long short)
    (same : a.holds { long with groups := [] } = a.holds { short with groups := [] }) :
    Agree (fun m m' => Cut tail m.stop m'.stop) (fun m => m.stop.left < tail.length)
      (matchAt (.seq (.anchor a) p) long) (matchAt (.seq (.anchor a) p) short) := by
  simp only [matchAt, run, same]
  split
  · exact agree_of_simple plain framed
  · exact .none

-- A line that starts with the text starts behind the lines in front of it.
theorem lineStart_framed (frame : Frame front tail) {long short : Cursor}
    (framed : Framed front tail long short) :
    Anchor.holds long .lineStart = Anchor.holds short .lineStart := by
  simp only [Anchor.holds, framed.before]
  cases short.before with
  | cons c before => rfl
  | nil =>
    rcases frame.front_line with none | ⟨init, lines⟩
    · simp [none]
    · simp [lines]

end

end CodeAtlas.Pattern
