import CodeAtlas.Proofs.Source.Marks

set_option autoImplicit false

/-! What the end of a block depends on: nothing but the characters from the delimiter that opens it
to the one that closes it. -/

namespace CodeAtlas.Source

-- The depth behind a marked character; nothing if it closes the block.
def Delimiters.depthBehind (d : Delimiters) (depth : Int) : Char × Mark → Option Int
  | (c, .code) => d.depthAfter depth c
  | _ => some depth

theorem closeMarked_behind (d : Delimiters) (depth : Int) (index : Nat) (m : Char × Mark)
    (ms : List (Char × Mark)) : closeMarked d depth index (m :: ms) =
      match d.depthBehind depth m with
      | none => some (index + 1)
      | some next => closeMarked d next (index + 1) ms := by
  obtain ⟨c, mark⟩ := m
  cases mark <;> rfl

theorem depthBehind_none {d : Delimiters} {depth : Int} {m : Char × Mark}
    (closes : d.depthBehind depth m = none) : m = (d.closing, .code) := by
  obtain ⟨c, mark⟩ := m
  cases mark with
  | literal | comment => cases closes
  | code =>
    simp only [Delimiters.depthBehind, Delimiters.depthAfter] at closes
    split at closes
    · cases closes
    · split at closes
      next same => rw [same]
      next => cases closes

theorem closeMarked_shift (d : Delimiters) (depth : Int) (base index : Nat)
    (ms : List (Char × Mark)) :
    closeMarked d depth (base + index) ms = (closeMarked d depth index ms).map (base + ·) := by
  induction ms generalizing depth index with
  | nil => rfl
  | cons m ms ih =>
    simp only [closeMarked_behind]
    split
    · rfl
    · exact ih _ (index + 1)

-- What stands behind the end does not matter.
theorem closeMarked_append {d : Delimiters} {depth : Int} {index stop : Nat}
    {ms : List (Char × Mark)} (closes : closeMarked d depth index ms = some stop)
    (more : List (Char × Mark)) : closeMarked d depth index (ms ++ more) = some stop := by
  induction ms generalizing depth index with
  | nil => cases closes
  | cons m ms ih =>
    rw [List.cons_append, closeMarked_behind]
    rw [closeMarked_behind] at closes
    split at closes
    · exact closes
    · exact ih closes

-- The end comes just behind a closing that is code.
theorem closeMarked_split {d : Delimiters} {depth : Int} {index stop : Nat}
    {ms : List (Char × Mark)} (closes : closeMarked d depth index ms = some stop) :
    ∃ front back, ms = front ++ (d.closing, .code) :: back ∧ stop = index + front.length + 1 ∧
      closeMarked d depth index (front ++ [(d.closing, .code)]) = some stop := by
  induction ms generalizing depth index with
  | nil => cases closes
  | cons m ms ih =>
    rw [closeMarked_behind] at closes
    split at closes
    next closed =>
      obtain rfl := depthBehind_none closed
      refine ⟨[], ms, rfl, (Option.some.inj closes).symm, ?_⟩
      rw [List.nil_append, closeMarked_behind, closed]
      exact closes
    next next goes =>
      obtain ⟨front, back, split, length, inside⟩ := ih closes
      refine ⟨m :: front, back, by rw [split, List.cons_append], ?_, ?_⟩
      · rw [length, List.length_cons]
        omega
      · rw [List.cons_append, closeMarked_behind, goes]
        exact inside

theorem closeMarked_last {d : Delimiters} {c : Char} (other : c ≠ d.closing) (mark : Mark)
    (depth : Int) (index : Nat) (ms : List (Char × Mark)) :
    closeMarked d depth index (ms ++ [(c, mark)]) = closeMarked d depth index ms := by
  induction ms generalizing depth index with
  | nil =>
    rw [List.nil_append, closeMarked_behind]
    split
    next closed => exact absurd (congrArg Prod.fst (depthBehind_none closed)) other
    next => rfl
  | cons m ms ih => simp only [List.cons_append, closeMarked_behind, ih]

-- Of the mark of a character the next one decides only at a slash.
theorem step_mark (mode : Mode) (c : Char) (next other : Option Char) :
    (mode.step c next).1 = (mode.step c other).1 ∨ c = '/' := by
  by_cases slash : c = '/'
  · exact .inr slash
  · left
    cases mode with
    | code => simp [Mode.step, slash]
    | comment =>
      simp only [Mode.step]
      split <;> split <;> rfl
    | literal quote | hidden quote | line | opening | closing => rfl

-- The marks of a text are those of its beginning, the mark of a last slash apart.
theorem marked_cut (mode : Mode) (text : List Char) (c : Char) (rest : List Char) :
    ∃ front m n back, marked mode (text ++ [c]) = front ++ [(c, m)] ∧
      marked mode (text ++ c :: rest) = front ++ (c, n) :: back ∧ (m = n ∨ c = '/') := by
  induction text generalizing mode with
  | nil => exact ⟨[], _, _, _, rfl, rfl, step_mark mode c none rest.head?⟩
  | cons a text ih =>
    have next : (text ++ c :: rest).head? = (text ++ [c]).head? := by
      cases text <;> rfl
    obtain ⟨front, m, n, back, short, long, same⟩ := ih (mode.step a (text ++ [c]).head?).2
    refine ⟨(a, (mode.step a (text ++ [c]).head?).1) :: front, m, n, back, ?_, ?_, same⟩
    · simp only [List.cons_append, marked, short]
    · simp only [List.cons_append, marked, next, long]

theorem marked_chars (mode : Mode) (text : List Char) :
    (marked mode text).map (·.1) = text := by
  induction text generalizing mode with
  | nil => rfl
  | cons c rest ih => simp only [marked, List.map_cons, ih]

section

variable {d : Delimiters} {depth : Int} {index stop : Nat} {mode : Mode}

-- A block that ends in a text ends there in any longer text.
theorem closeMarked_extend (plain : d.closing ≠ '/') {text : List Char}
    (closes : closeMarked d depth index (marked mode text) = some stop) (more : List Char) :
    closeMarked d depth index (marked mode (text ++ more)) = some stop := by
  cases more with
  | nil => rwa [List.append_nil]
  | cons e more =>
    rcases List.eq_nil_or_concat text with rfl | ⟨init, c, rfl⟩
    · cases closes
    · obtain ⟨front, m, n, back, short, long, same⟩ := marked_cut mode init c (e :: more)
      rw [List.concat_eq_append] at closes ⊢
      rw [List.append_assoc, List.singleton_append, long]
      rw [short] at closes
      rcases same with rfl | rfl
      · rw [List.append_cons]
        exact closeMarked_append closes back
      · rw [closeMarked_last plain.symm] at closes
        exact closeMarked_append closes _

-- A block that ends in a text ends in the part of it that goes just so far.
theorem closeMarked_restrict (plain : d.closing ≠ '/') {text : List Char}
    (closes : closeMarked d depth index (marked mode text) = some stop) :
    closeMarked d depth index (marked mode (text.take (stop - index))) = some stop := by
  obtain ⟨front, back, split, length, inside⟩ := closeMarked_split closes
  have chars : text = front.map (·.1) ++ d.closing :: back.map (·.1) := by
    rw [← marked_chars mode text, split, List.map_append, List.map_cons]
  obtain ⟨front', m, n, back', short, long, same⟩ :=
    marked_cut mode (front.map (·.1)) d.closing (back.map (·.1))
  have size : front'.length = front.length := by
    simpa using (congrArg List.length short).symm
  rw [← chars, split] at long
  obtain ⟨rfl, rest⟩ := List.append_inj long size.symm
  obtain rfl : Mark.code = n := (Prod.mk.inj (List.cons.inj rest).1).2
  obtain rfl := same.resolve_right plain
  have cut : text.take (stop - index) = front.map (·.1) ++ [d.closing] := by
    have width : stop - index = front.length + 1 := by omega
    rw [chars, width, List.append_cons, List.take_left' (by simp)]
  rw [cut, short]
  exact inside

end

theorem findClosing_shift (d : Delimiters) (before text : List Char) (index : Nat) :
    findClosing d (before ++ text) (before.length + index) =
      (findClosing d text index).map (before.length + ·) := by
  rw [findClosing_eq_closeMarked, findClosing_eq_closeMarked, List.drop_length_add_append,
    closeMarked_shift]

section

variable {d : Delimiters} {text : List Char} {index stop : Nat}

theorem findClosing_extend (plain : d.closing ≠ '/')
    (closes : findClosing d text index = some stop) (more : List Char) :
    findClosing d (text ++ more) index = some stop := by
  have bounds := findClosing_bounds d text index stop closes
  rw [findClosing_eq_closeMarked] at closes ⊢
  rw [List.drop_append_of_le_length (by omega)]
  exact closeMarked_extend plain closes more

theorem findClosing_restrict (plain : d.closing ≠ '/')
    (closes : findClosing d text index = some stop) :
    findClosing d (text.take stop) index = some stop := by
  rw [findClosing_eq_closeMarked] at closes ⊢
  rw [List.drop_take]
  exact closeMarked_restrict plain closes

theorem findClosing_closing (closes : findClosing d text index = some stop) :
    text[stop - 1]? = some d.closing := by
  rw [findClosing_eq_closeMarked] at closes
  obtain ⟨front, back, split, length, -⟩ := closeMarked_split closes
  have chars : text.drop index = front.map (·.1) ++ d.closing :: back.map (·.1) := by
    rw [← marked_chars .code (text.drop index), split, List.map_append, List.map_cons]
  have place : stop - 1 = index + front.length := by omega
  rw [place, ← List.getElem?_drop, chars]
  simp

-- Where a block does not end in a text, it does not end in a part of it.
theorem findClosing_take_none (plain : d.closing ≠ '/') (unclosed : findClosing d text index = none)
    (k : Nat) : findClosing d (text.take k) index = none := by
  cases closes : findClosing d (text.take k) index with
  | none => rfl
  | some stop =>
    have longer := findClosing_extend plain closes (text.drop k)
    rw [List.take_append_drop, unclosed] at longer
    cases longer

theorem findClosing_take_short (plain : d.closing ≠ '/')
    (closes : findClosing d text index = some stop) {k : Nat} (short : k < stop) :
    findClosing d (text.take k) index = none := by
  cases early : findClosing d (text.take k) index with
  | none => rfl
  | some stop' =>
    have longer := findClosing_extend plain early (text.drop k)
    rw [List.take_append_drop, closes] at longer
    obtain rfl := Option.some.inj longer
    have bounds := findClosing_bounds _ _ _ _ early
    rw [List.length_take] at bounds
    omega

end

/-- All that the end of a block says about other texts. -/
structure Enclosed (d : Delimiters) (text : List Char) (index stop : Nat) : Prop where
  behind : index < stop
  within : stop ≤ text.length
  closing : text[stop - 1]? = some d.closing
  extended : ∀ more, findClosing d (text.take stop ++ more) index = some stop
  shortened : ∀ k, k < stop → findClosing d (text.take k) index = none
  shifted : ∀ before,
    findClosing d (before ++ text) (before.length + index) = some (before.length + stop)

-- The end of a block depends on the block alone, and a block without an end has none in any part.
theorem findClosing_local (d : Delimiters) (usual : d = braces ∨ d = parentheses)
    (text : List Char) (index : Nat) :
    (∀ stop, findClosing d text index = some stop → Enclosed d text index stop) ∧
      (findClosing d text index = none →
        ∀ k, findClosing d (text.take k) index = none) := by
  have plain : d.closing ≠ '/' := by
    rcases usual with rfl | rfl <;> decide
  constructor
  · intro stop closes
    obtain ⟨behind, within⟩ := findClosing_bounds d text index stop closes
    constructor
    · exact behind
    · exact within
    · exact findClosing_closing closes
    · exact findClosing_extend plain (findClosing_restrict plain closes)
    · intro k short
      exact findClosing_take_short plain closes short
    · intro before
      rw [findClosing_shift, closes]
      rfl
  · intro unclosed k
    exact findClosing_take_none plain unclosed k

theorem findClosing_local_nested : findClosing braces nestedText 1 = some 28 ∧
    Enclosed braces nestedText 1 28 ∧ findClosing parentheses "f(')".toList 1 = none ∧
      ∀ k, findClosing parentheses ("f(')".toList.take k) 1 = none := by
  have closes : findClosing braces nestedText 1 = some 28 := by decide
  have unclosed : findClosing parentheses "f(')".toList 1 = none := by decide
  exact ⟨closes, (findClosing_local braces (.inl rfl) nestedText 1).1 28 closes, unclosed,
    (findClosing_local parentheses (.inr rfl) "f(')".toList 1).2 unclosed⟩

end CodeAtlas.Source
