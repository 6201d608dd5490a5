import CodeAtlas.Pattern.Reader
import CodeAtlas.Proofs.Pattern.CharSet
import CodeAtlas.Proofs.Pattern.Greedy
import CodeAtlas.Proofs.Text.Runs

set_option autoImplicit false

/-! How many matches a search finds, and the search for a word that stands alone. -/

namespace CodeAtlas.Pattern

open CodeAtlas.Text

/-! ### Numbers of matches -/

/-- The match is not empty, and the number for a place is one more than that for the place behind it. -/
structure Adds (count : List Char → List Char → Nat) (before after : List Char) (m : Match) : Prop where
  moved : m.start.index < m.stop.index
  shorter : m.stop.after.length < after.length
  number : count before after = count m.stop.before m.stop.after + 1

/-- A number for each place of a text, given what is before and after it: how many matches there are
from there on. -/
structure Tally (p : Pattern) (count : List Char → List Char → Nat) : Prop where
  ended : ∀ before, count before [] = 0
  missed : ∀ before c after groups, matchAt p (.between before (c :: after) groups) = none →
    count before (c :: after) = count (c :: before) after
  found : ∀ before after groups m, matchAt p (.between before after groups) = some m →
    Adds count before after m

section

variable {p : Pattern} {count : List Char → List Char → Nat}

-- What the search for one match comes to.
def Counted (count : List Char → List Char → Nat) (before after : List Char) : Option Match → Prop
  | none => count before after = 0
  | some m => Adds count before after m

theorem Counted.skip {before after : List Char} {c : Char} {found : Option Match}
    (same : count before (c :: after) = count (c :: before) after)
    (later : Counted count (c :: before) after found) : Counted count before (c :: after) found := by
  cases found with
  | none => exact same.trans later
  | some m => exact ⟨later.moved, Nat.lt_succ_of_lt later.shorter, same.trans later.number⟩

theorem Tally.findFrom (tally : Tally p count) (places : Nat) (before after : List Char)
    (groups : List (Nat × List Char)) (enough : after.length < places) :
    Counted count before after (findFrom p places (.between before after groups)) := by
  induction after generalizing before places with
  | nil =>
    obtain ⟨places, rfl⟩ := Nat.exists_eq_add_one.mpr enough
    rw [Pattern.findFrom]
    split
    next m here => exact tally.found before [] groups m here
    next => exact tally.ended before
  | cons c after ih =>
    obtain ⟨places, rfl⟩ := Nat.exists_eq_add_one.mpr (Nat.zero_lt_of_lt enough)
    rw [Pattern.findFrom]
    split
    next m here => exact tally.found before (c :: after) groups m here
    next none =>
      have later := ih places (c :: before) (by simpa using enough)
      exact later.skip (tally.missed before c after groups none)

theorem Tally.length_findAllFrom (tally : Tally p count) (fuel : Nat) (before after : List Char)
    (groups : List (Nat × List Char)) (enough : after.length < fuel) :
    (findAllFrom p fuel (.between before after groups)).length = count before after := by
  induction fuel generalizing before after groups with
  | zero => omega
  | succ fuel ih =>
    have next : Counted count before after (findNext p (.between before after groups)) :=
      tally.findFrom (after.length + 1) before after groups (Nat.lt_succ_self _)
    rw [findAllFrom]
    generalize findNext p (.between before after groups) = result at next
    cases result with
    | none => exact next.symm
    | some m =>
      have goes : resume m = some (.between m.stop.before m.stop.after m.stop.groups) := by
        have apart : (m.stop.index == m.start.index) = false := by
          simpa using Nat.ne_of_gt next.moved
        rw [resume, apart, ← m.stop.eq_between]
        rfl
      simp only [goes]
      rw [List.length_cons, ih _ _ _ (Nat.lt_of_lt_of_le next.shorter (Nat.le_of_lt_succ enough)), next.number]

theorem Tally.length_findAll (tally : Tally p count) (text : List Char) :
    (p.findAll text).length = count [] text :=
  tally.length_findAllFrom (text.length + 1) [] text [] (Nat.lt_succ_self _)

end

/-! ### Words that stand alone -/

/-- The characters one by one, with an edge of a word at both ends. -/
def standing (word : List Char) : Pattern :=
  .seq (.anchor (.wordEdge false))
    (word.foldr (fun c rest => .seq (.set (.char c)) rest) (.anchor (.wordEdge false)))

example : Pattern.read {} "\\bawait\\b".toList = .ok (standing "await".toList) := by cbv

theorem run_letters {α : Type} (word : List Char) (last : Pattern) (before after : List Char)
    (groups : List (Nat × List Char)) (next : Cursor → Option α) :
    run (word.foldr (fun c rest => .seq (.set (.char c)) rest) last) (.between before after groups) next =
      if word.isPrefixOf after
      then run last (.between (word.reverse ++ before) (after.drop word.length) groups) next else none := by
  induction word generalizing before after with
  | nil => rfl
  | cons c word ih =>
    rw [List.foldr_cons, run_seq]
    cases after with
    | nil => rfl
    | cons d after =>
      rw [run_set_cons]
      by_cases same : d = c
      · subst same
        rw [if_pos ((CharSet.char_holds d d).mpr rfl), ih]
        simp
      · rw [if_neg (mt (CharSet.char_holds c d).mp same)]
        simp [Ne.symm same]

theorem wordAt_append {word : List Char} (some : word ≠ []) (chars : ∀ c ∈ word, isWord c = true)
    (rest : List Char) : wordAt false (word ++ rest) = true := by
  cases word with
  | nil => exact absurd rfl some
  | cons c word => exact chars c List.mem_cons_self

theorem wordAt_behind {word : List Char} (some : word ≠ []) (chars : ∀ c ∈ word, isWord c = true)
    (before : List Char) : wordAt false (word.reverse ++ before) = true :=
  wordAt_append (by simpa using some) (by simpa using chars) before

theorem dropWhile_outside {text : List Char} (outside : wordAt false text = false) :
    text.dropWhile isWord = text := by
  cases text with
  | nil => rfl
  | cons c text => exact List.dropWhile_cons_of_neg (ne_true_of_eq_false outside)

theorem wordAt_dropWhile (text : List Char) : wordAt false (text.dropWhile isWord) = false := by
  have stops := List.head?_dropWhile_not isWord text
  cases rest : text.dropWhile isWord with
  | nil => rfl
  | cons c rest =>
    have outside : isWord c = false := by simpa [rest] using stops
    exact outside

/-- The words behind a place. One that has begun before it is left out. -/
def wordsFrom (before after : List Char) : List (List Char) :=
  runsOf isWord (if wordAt false before then after.dropWhile isWord else after)

theorem wordsFrom_inside {before : List Char} (within : wordAt false before = true) (after : List Char) :
    wordsFrom before after = runsOf isWord (after.dropWhile isWord) := by
  rw [wordsFrom, if_pos within]

theorem wordsFrom_fresh {before : List Char} (fresh : wordAt false before = false) (after : List Char) :
    wordsFrom before after = runsOf isWord after := by
  rw [wordsFrom, if_neg (ne_true_of_eq_false fresh)]

theorem wordsFrom_outside {c : Char} (outside : isWord c = false) (before after : List Char) :
    wordsFrom before (c :: after) = wordsFrom (c :: before) after := by
  have ended : (c :: after).dropWhile isWord = c :: after := dropWhile_outside outside
  have fresh : wordAt false (c :: before) = false := outside
  rw [wordsFrom, ended, ite_self, runsOf_outside outside, wordsFrom_fresh fresh]

theorem wordsFrom_within {c : Char} (inside : isWord c = true) {before : List Char}
    (within : wordAt false before = true) (after : List Char) :
    wordsFrom before (c :: after) = wordsFrom (c :: before) after := by
  have goes : wordAt false (c :: before) = true := inside
  rw [wordsFrom_inside within, wordsFrom_inside goes, List.dropWhile_cons_of_pos inside]

theorem wordsFrom_first {c : Char} (inside : isWord c = true) {before : List Char}
    (fresh : wordAt false before = false) (after : List Char) :
    wordsFrom before (c :: after) = (c :: after).takeWhile isWord :: wordsFrom (c :: before) after := by
  have goes : wordAt false (c :: before) = true := inside
  have begins : (c :: after).takeWhile isWord ≠ [] := by simp [inside]
  rw [wordsFrom_fresh fresh, runsOf_takeWhile begins, wordsFrom_inside goes,
    List.dropWhile_cons_of_pos inside]

section

variable {word : List Char}

-- The first word of a text ends where no word goes on.
theorem takeWhile_word (chars : ∀ c ∈ word, isWord c = true) (rest : List Char) :
    (word ++ rest).takeWhile isWord = word ↔ wordAt false rest = false := by
  rw [List.takeWhile_append_of_pos chars]
  cases rest with
  | nil => simp [wordAt]
  | cons c rest => simp [wordAt, isWordIn, List.takeWhile_cons]

theorem matchAt_standing (some : word ≠ []) (chars : ∀ c ∈ word, isWord c = true)
    (before after : List Char) (groups : List (Nat × List Char)) :
    matchAt (standing word) (.between before after groups) =
      if wordAt false before = false ∧ after.takeWhile isWord = word
      then .some ⟨.between before after groups, .between (word.reverse ++ before) (after.dropWhile isWord) []⟩
      else none := by
  have start : matchAt (standing word) (.between before after groups) =
      if wordAt false before != wordAt false after then
        run (word.foldr (fun c rest => .seq (.set (.char c)) rest) (.anchor (.wordEdge false)))
          (.between before after []) fun stop => .some ⟨.between before after groups, stop⟩
      else none := rfl
  rw [start, run_letters]
  by_cases starts : word.isPrefixOf after = true
  · obtain ⟨rest, rfl⟩ := List.isPrefixOf_iff_prefix.mp starts
    have stop (next : Cursor → Option Match) :
        run (.anchor (.wordEdge false)) (.between (word.reverse ++ before) rest []) next =
          if wordAt false (word.reverse ++ before) != wordAt false rest
          then next (.between (word.reverse ++ before) rest []) else none := rfl
    rw [if_pos starts, List.drop_left, stop, wordAt_behind some chars, wordAt_append some chars]
    by_cases outside : wordAt false rest = false
    · have whole := (takeWhile_word chars rest).mpr outside
      rw [List.dropWhile_append_of_pos chars, dropWhile_outside outside]
      cases wordAt false before <;> simp [whole, outside]
    · have part := mt (takeWhile_word chars rest).mp outside
      rw [if_neg (mt And.right part), eq_true_of_ne_false outside]
      simp
  · rw [if_neg starts, ite_self, if_neg]
    rintro ⟨-, first⟩
    exact starts (List.isPrefixOf_iff_prefix.mpr (first ▸ List.takeWhile_prefix isWord))

theorem tally_standing (some : word ≠ []) (chars : ∀ c ∈ word, isWord c = true) :
    Tally (standing word) fun before after => (wordsFrom before after).count word where
  ended before := by
    simp [wordsFrom, runsOf]
  missed before c after groups missed := by
    rw [matchAt_standing some chars] at missed
    cases inside : isWord c with
    | false => simp only [wordsFrom_outside inside]
    | true =>
      cases within : wordAt false before with
      | true => simp only [wordsFrom_within inside within]
      | false =>
        -- A word begins here, so one that does not match is another word.
        have other : (c :: after).takeWhile isWord ≠ word := by
          intro same
          simp [within, same] at missed
        rw [wordsFrom_first inside within, List.count_cons_of_ne other]
  found before after groups m here := by
    rw [matchAt_standing some chars] at here
    split at here
    next place =>
      obtain rfl := Option.some.inj here
      obtain ⟨fresh, first⟩ := place
      have split : after = word ++ after.dropWhile isWord := by
        rw [← first, List.takeWhile_append_dropWhile]
      have longer : after.length = word.length + (after.dropWhile isWord).length := by
        rw [← List.length_append, ← split]
      have wide : 0 < word.length := List.length_pos_of_ne_nil some
      refine ⟨?_, ?_, ?_⟩
      · simp only [Cursor.between, List.length_append, List.length_reverse]
        omega
      · simp only [Cursor.between]
        omega
      · have stays := dropWhile_outside (wordAt_dropWhile after)
        simp only [Cursor.between]
        rw [wordsFrom_fresh fresh, runsOf_takeWhile (by rwa [first]), first, List.count_cons_self,
          wordsFrom_inside (wordAt_behind some chars before), stays]
    next => cases here

/-- A search finds a word just as often as it is one of the words of the text. -/
theorem length_findAll_standing (some : word ≠ []) (chars : ∀ c ∈ word, isWord c = true)
    (text : List Char) : ((standing word).findAll text).length = (runsOf isWord text).count word :=
  (tally_standing some chars).length_findAll text

end

end CodeAtlas.Pattern
