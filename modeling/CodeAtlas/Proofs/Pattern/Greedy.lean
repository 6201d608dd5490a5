import CodeAtlas.Proofs.Pattern.Reach

set_option autoImplicit false

/-! Loops over a set of characters that take as much as they can. -/

namespace CodeAtlas.Pattern

/-- The place between two texts, the first of which is given nearest character first. -/
def Cursor.between (before after : List Char) (groups : List (Nat × List Char)) : Cursor :=
  ⟨before, after, before.length, after.length, groups, Nat.add_zero _, Nat.add_zero _⟩

theorem Cursor.eq_between (cursor : Cursor) :
    cursor = .between cursor.before cursor.after cursor.groups := by
  obtain ⟨before, after, index, left, groups, rfl, rfl⟩ := cursor
  rfl

variable {α : Type} (s : CharSet) (before : List Char) (groups : List (Nat × List Char))

theorem run_set_nil (next : Cursor → Option α) :
    run (.set s) (.between before [] groups) next = none := rfl

theorem run_set_cons (c : Char) (after : List Char) (next : Cursor → Option α) :
    run (.set s) (.between before (c :: after) groups) next =
      if s.holds c then next (.between (c :: before) after groups) else none := rfl

theorem run_seq (first second : Pattern) (cursor : Cursor) (next : Cursor → Option α) :
    run (.seq first second) cursor next =
      run first cursor fun later => run second later next := rfl

-- The continuation fails at every place of the longest run but the last.
def Stuck (after : List Char) (next : Cursor → Option α) : Prop :=
  ∀ one c two, after.takeWhile s.holds = one ++ c :: two →
    next (.between (one.reverse ++ before) (c :: two ++ after.dropWhile s.holds) groups) = none

theorem Stuck.here {s : CharSet} {before : List Char} {groups : List (Nat × List Char)} {c : Char}
    {after : List Char} {next : Cursor → Option α} (stuck : Stuck s before groups (c :: after) next)
    (holds : s.holds c = true) : next (.between before (c :: after) groups) = none := by
  have first := stuck [] c (after.takeWhile s.holds) (by simp [holds])
  simpa [holds, List.takeWhile_append_dropWhile] using first

theorem Stuck.later {s : CharSet} {before : List Char} {groups : List (Nat × List Char)} {c : Char}
    {after : List Char} {next : Cursor → Option α} (stuck : Stuck s before groups (c :: after) next)
    (holds : s.holds c = true) : Stuck s (c :: before) groups after next := by
  intro one d two split
  have rest := stuck (c :: one) d two (by simp [holds, split])
  simpa [holds] using rest

/-- The places where a loop over a set can stop, furthest first. -/
def stops : List Char → List Char → List Cursor
  | before, [] => [.between before [] groups]
  | before, c :: after =>
    (if s.holds c then stops (c :: before) after else []) ++ [.between before (c :: after) groups]

theorem stops_ended {s : CharSet} {after : List Char}
    (ends : ∀ c ∈ after.head?, s.holds c = false) (before : List Char)
    (groups : List (Nat × List Char)) :
    stops s groups before after = [.between before after groups] := by
  cases after with
  | nil => rfl
  | cons c after => simp [stops, ends c rfl]

theorem stops_append {s : CharSet} {front : List Char} (held : ∀ c ∈ front, s.holds c = true)
    (before after : List Char) (groups : List (Nat × List Char)) :
    ∃ nearer, stops s groups before (front ++ after) =
      stops s groups (front.reverse ++ before) after ++ nearer := by
  induction front generalizing before with
  | nil => exact ⟨[], (List.append_nil _).symm⟩
  | cons c front ih =>
    obtain ⟨nearer, split⟩ := ih (fun d member => held d (List.mem_cons_of_mem c member)) (c :: before)
    refine ⟨nearer ++ [.between before (c :: (front ++ after)) groups], ?_⟩
    rw [List.cons_append, stops, if_pos (held c List.mem_cons_self), split]
    simp

theorem iterate_stops (fuel least count : Nat) (mark : Option Nat) (after : List Char)
    (enough : after.length < fuel) (done : least ≤ count) (fresh : mark ≠ some after.length)
    (next : Cursor → Option α) :
    iterate (run (.set s)) least none false fuel count mark (.between before after groups) next =
      (stops s groups before after).findSome? next := by
  induction after generalizing before fuel count mark with
  | nil =>
    obtain ⟨fuel, rfl⟩ := Nat.exists_eq_add_one.mpr enough
    simp only [iterate_succ, run_set_nil, Option.none_or]
    simp [stops, Nat.not_lt.mpr done]
  | cons c after ih =>
    obtain ⟨fuel, rfl⟩ := Nat.exists_eq_add_one.mpr (Nat.zero_lt_of_lt enough)
    have goes : (mayRepeat none count && mark != some (c :: after).length) = true := by
      simpa [mayRepeat] using fresh
    have left : (Cursor.between before (c :: after) groups).left = (c :: after).length := rfl
    simp only [iterate_succ, if_neg (Nat.not_lt.mpr done), left, goes, if_true, run_set_cons,
      Bool.false_eq_true, if_false]
    by_cases holds : s.holds c = true
    · rw [if_pos holds, ih (c :: before) fuel _ _ (by simpa using enough) (by omega) (by simp)]
      simp [stops, holds]
    · rw [if_neg holds, Option.none_or]
      simp [stops, holds]

theorem run_many_stops (after : List Char) (next : Cursor → Option α) :
    run (.loop (.set s) 0 none .greedy) (.between before after groups) next =
      (stops s groups before after).findSome? next := by
  refine iterate_stops s before groups _ 0 0 none after ?_ (Nat.le_refl 0) (by simp) next
  simp only [loopFuel, Cursor.between]
  omega

theorem run_several_stops (c : Char) (after : List Char) (next : Cursor → Option α) :
    run (.loop (.set s) 1 none .greedy) (.between before (c :: after) groups) next =
      if s.holds c then (stops s groups (c :: before) after).findSome? next else none := by
  have first : run (.loop (.set s) 1 none .greedy) (.between before (c :: after) groups) next =
      if s.holds c then
        iterate (run (.set s)) 1 none false (1 + (after.length + 1) + 1) 1 none
          (.between (c :: before) after groups) next
      else none := rfl
  rw [first, iterate_stops s _ groups _ 1 1 none after (by omega) (Nat.le_refl 1) (by simp)]

theorem run_several_ended {s : CharSet} {after : List Char}
    (ends : ∀ c ∈ after.head?, s.holds c = false) (before : List Char)
    (groups : List (Nat × List Char)) (next : Cursor → Option α) :
    run (.loop (.set s) 1 none .greedy) (.between before after groups) next = none := by
  cases after with
  | nil => rfl
  | cons c after => rw [run_several_stops, ends c rfl]; rfl

-- What a loop takes where whatever it takes will do.
theorem run_several_longest {s : CharSet} {front after : List Char} (nonempty : front ≠ [])
    (held : ∀ c ∈ front, s.holds c = true) (ends : ∀ c ∈ after.head?, s.holds c = false)
    (before : List Char) (groups : List (Nat × List Char)) (answer : Cursor → α) :
    run (.loop (.set s) 1 none .greedy) (.between before (front ++ after) groups)
        (fun stop => some (answer stop)) =
      some (answer (.between (front.reverse ++ before) after groups)) := by
  obtain ⟨c, front, rfl⟩ := List.exists_cons_of_ne_nil nonempty
  have later := fun d member => held d (List.mem_cons_of_mem c member)
  obtain ⟨nearer, split⟩ := stops_append later (c :: before) after groups
  rw [List.cons_append, run_several_stops, if_pos (held c List.mem_cons_self), split,
    stops_ended ends]
  simp

theorem run_not_ahead (after : List Char) (next : Cursor → Option α) :
    run (.ahead false (.set s)) (.between before after groups) next =
      if after.head?.any s.holds then none else next (.between before after groups) := by
  cases after with
  | nil => rfl
  | cons c after =>
    simp only [run]
    cases holds : s.holds c <;> simp [Cursor.between, Cursor.advance, holds]

theorem run_maybe_cons (c : Char) (after : List Char) (next : Cursor → Option α) :
    run (.loop (.set s) 0 (some 1) .greedy) (.between before (c :: after) groups) next =
      if s.holds c then
        (next (.between (c :: before) after groups)).or (next (.between before (c :: after) groups))
      else next (.between before (c :: after) groups) := by
  have rounds : run (.loop (.set s) 0 (some 1) .greedy) (.between before (c :: after) groups) next =
      iterate (run (.set s)) 0 (some 1) false (0 + after.length + 1 + 1 + 1) 0 none
        (.between before (c :: after) groups) next := rfl
  have last (later : Cursor) (fuel : Nat) (mark : Option Nat) :
      iterate (run (.set s)) 0 (some 1) false (fuel + 1) 1 mark later next = next later :=
    iterate_succ ..
  have goes (left : Nat) : (mayRepeat (some 1) 0 && (none : Option Nat) != some left) = true := rfl
  rw [rounds, iterate_succ]
  simp only [Nat.lt_irrefl, if_false, goes, if_true, Bool.false_eq_true, run_set_cons, last]
  split
  · rfl
  · exact Option.none_or

theorem findSome?_stops {s : CharSet} {before : List Char} {groups : List (Nat × List Char)}
    {after : List Char} {next : Cursor → Option α} (stuck : Stuck s before groups after next) :
    (stops s groups before after).findSome? next =
      next (.between ((after.takeWhile s.holds).reverse ++ before) (after.dropWhile s.holds)
        groups) := by
  induction after generalizing before with
  | nil => simp [stops]
  | cons c after ih =>
    by_cases holds : s.holds c = true
    · rw [stops, if_pos holds, List.findSome?_append, ih (stuck.later holds), List.findSome?_singleton,
        stuck.here holds, Option.or_none]
      simp [holds]
    · simp [stops, holds]

-- Where nothing but the longest run lets the rest match, a loop takes just that.
theorem run_many_set (after : List Char) (next : Cursor → Option α)
    (stuck : Stuck s before groups after next) :
    run (.loop (.set s) 0 none .greedy) (.between before after groups) next =
      next (.between ((after.takeWhile s.holds).reverse ++ before) (after.dropWhile s.holds)
        groups) := by
  rw [run_many_stops, findSome?_stops stuck]

end CodeAtlas.Pattern
