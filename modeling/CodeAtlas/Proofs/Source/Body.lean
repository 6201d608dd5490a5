import CodeAtlas.Proofs.Source.Locality
import CodeAtlas.Proofs.Source.Span

set_option autoImplicit false

/-! Where a body ends: it is found in the text that goes from the declaration up to there, as in the
text around it. -/

namespace CodeAtlas.Source

open CodeAtlas.Text

theorem indexWhere_shift (pass : Char → Bool) (base start : Nat) (text : List Char) :
    indexWhere pass (base + start) text = (indexWhere pass start text).map (base + ·) := by
  induction text generalizing start with
  | nil => rfl
  | cons c text ih =>
    simp only [indexWhere]
    split
    · rfl
    · exact ih (start + 1)

theorem indexWhere_append (pass : Char → Bool) (start : Nat) (one two : List Char) :
    indexWhere pass start (one ++ two) =
      (indexWhere pass start one).or (indexWhere pass (start + one.length) two) := by
  induction one generalizing start with
  | nil => rfl
  | cons c one ih =>
    simp only [List.cons_append, indexWhere]
    split
    · rfl
    · rw [ih, List.length_cons, Nat.add_assoc, Nat.add_comm 1]

theorem indexWhere_none {pass : Char → Bool} {text : List Char}
    (clear : ∀ c ∈ text, pass c = false) (start : Nat) : indexWhere pass start text = none := by
  induction text generalizing start with
  | nil => rfl
  | cons c text ih =>
    rw [indexWhere, if_neg (by simp [clear c List.mem_cons_self]),
      ih fun d member => clear d (List.mem_cons_of_mem c member)]

theorem indexOf_shift (c : Char) (before text : List Char) (start : Nat) :
    indexOf c (before.length + start) (before ++ text) =
      (indexOf c start text).map (before.length + ·) := by
  rw [indexOf, List.drop_length_add_append, indexWhere_shift]
  rfl

section

variable {one two : List Char}

theorem indexOf_append {c : Char} {start : Nat} (inside : start ≤ one.length) :
    indexOf c start (one ++ two) = (indexOf c start one).or (indexWhere (· == c) one.length two) := by
  have width : start + (one.drop start).length = one.length := by
    rw [List.length_drop]
    omega
  rw [indexOf, List.drop_append_of_le_length inside, indexWhere_append, width]
  rfl

-- What is found within the first part is found in it alone.
theorem indexOf_front {c : Char} {start index : Nat}
    (found : indexOf c start (one ++ two) = some index) (inside : index < one.length) :
    indexOf c start one = some index := by
  have bounds := indexOf_bounds c start _ index found
  rw [indexOf_append (by omega)] at found
  rcases Option.or_eq_some_iff.mp found with found | ⟨-, found⟩
  · exact found
  · have := indexWhere_bounds _ _ _ _ found
    omega

theorem indexOf_extend {c : Char} {start index : Nat} (found : indexOf c start one = some index)
    (two : List Char) : indexOf c start (one ++ two) = some index := by
  have bounds := indexOf_bounds c start _ index found
  rw [indexOf_append (by omega), found, Option.some_or]

theorem findClosing_front {d : Delimiters} (plain : d.closing ≠ '/') {index stop : Nat}
    (closes : findClosing d (one ++ two) index = some stop) (inside : stop ≤ one.length) :
    findClosing d one index = some stop := by
  have front := findClosing_restrict plain closes
  rw [List.take_append_of_le_length inside] at front
  have whole := findClosing_extend plain front (one.drop stop)
  rwa [List.take_append_drop] at whole

end

theorem declarationEnd_eq_some {text : List Char} {parameters stop : Nat} :
    declarationEnd text parameters = some stop ↔ ∃ behind brace,
      findClosing parentheses text parameters = some behind ∧
      indexOf '\x7b' behind text = some brace ∧
      (∀ semicolon, indexOf ';' behind text = some semicolon → brace ≤ semicolon) ∧
      findClosing braces text brace = some stop := by
  unfold declarationEnd
  constructor
  · intro ends
    obtain ⟨behind, closes, ends⟩ := Option.bind_eq_some_iff.mp ends
    obtain ⟨brace, opens, ends⟩ := Option.bind_eq_some_iff.mp ends
    refine ⟨behind, brace, closes, opens, ?_⟩
    split at ends
    next semicolon found =>
      split at ends
      · cases ends
      next late =>
        refine ⟨fun other same => ?_, ends⟩
        obtain rfl := Option.some.inj (found.symm.trans same)
        exact Nat.le_of_not_lt late
    next none =>
      refine ⟨fun other same => ?_, ends⟩
      rw [none] at same
      cases same
  · rintro ⟨behind, brace, closes, opens, late, ends⟩
    simp only [closes, opens, Option.bind_eq_bind, Option.bind_some]
    split
    next semicolon found => rw [if_neg (Nat.not_lt.mpr (late semicolon found)), ends]
    next => exact ends

theorem declarationEnd_shift (before text : List Char) (parameters : Nat) :
    declarationEnd (before ++ text) (before.length + parameters) =
      (declarationEnd text parameters).map (before.length + ·) := by
  unfold declarationEnd
  rw [findClosing_shift]
  cases findClosing parentheses text parameters with
  | none => rfl
  | some behind =>
    simp only [Option.map_some, Option.bind_eq_bind, Option.bind_some, indexOf_shift]
    cases indexOf '\x7b' behind text with
    | none => rfl
    | some brace =>
      cases indexOf ';' behind text with
      | none => simp only [Option.map_some, Option.bind_some, Option.map_none, findClosing_shift]
      | some semicolon =>
        simp only [Option.map_some, Option.bind_some, Nat.add_lt_add_iff_left, findClosing_shift]
        split <;> rfl

theorem arrowEnd_shift (before text : List Char) (behind : Nat) :
    arrowEnd (before ++ text) (before.length + behind) =
      (arrowEnd text behind).map (before.length + ·) := by
  unfold arrowEnd
  simp only [Nat.add_assoc, List.drop_length_add_append, findClosing_shift, indexOf_shift]
  split
  · rfl
  · rfl
  · cases indexOf '\n' behind text with
    | none => simp
    | some newline => simp

theorem bodyEnd_shift (kind : Kind) (before text : List Char) {behind : Nat} (pos : 0 < behind) :
    bodyEnd kind (before ++ text) (before.length + behind) =
      (bodyEnd kind text behind).map (before.length + ·) := by
  have last : before.length + behind - 1 = before.length + (behind - 1) := by omega
  cases kind with
  | method => simp only [bodyEnd, last, findClosing_shift]
  | arrow => exact arrowEnd_shift before text behind
  | function | component => simp only [bodyEnd, last, declarationEnd_shift]

/-- The delimiters around the body that stands behind an arrow, if it has any. -/
def opener (text : List Char) : Option Delimiters :=
  match (text.dropWhile isMargin).head? with
  | some '\x7b' => some braces
  | some '(' => some parentheses
  | _ => none

theorem opener_closing {text : List Char} {d : Delimiters} (opens : opener text = some d) :
    d.closing ≠ '/' ∧ isBlank d.closing = false := by
  have either : d = braces ∨ d = parentheses := by
    unfold opener at opens
    split at opens
    · exact .inl (Option.some.inj opens).symm
    · exact .inr (Option.some.inj opens).symm
    · cases opens
  rcases either with rfl | rfl <;> decide

-- It does not depend on what follows the first character behind the margin.
theorem opener_append {text : List Char} (ink : text.dropWhile isMargin ≠ []) (more : List Char) :
    opener (text ++ more) = opener text ∧
      (text ++ more).takeWhile isMargin = text.takeWhile isMargin := by
  constructor
  · rw [opener, opener, List.dropWhile_append, if_neg (by simpa using ink),
      List.head?_append_of_ne_nil _ ink]
  · have lengths := congrArg List.length (List.takeWhile_append_dropWhile (p := isMargin) (l := text))
    have some := List.length_pos_of_ne_nil ink
    rw [List.length_append] at lengths
    rw [List.takeWhile_append, if_neg (by omega)]

theorem indexWhere_getD (pass : Char → Bool) (start : Nat) (text : List Char) :
    (indexWhere pass start text).getD (start + text.length) =
      start + (text.takeWhile fun c => !pass c).length := by
  induction text generalizing start with
  | nil => rfl
  | cons c text ih =>
    rw [indexWhere, List.takeWhile_cons]
    split
    next hit => simp [hit]
    next miss =>
      have later := ih (start + 1)
      simp only [miss, Bool.not_false, if_true, List.length_cons] at later ⊢
      rw [show start + (text.length + 1) = start + 1 + text.length by omega, later]
      omega

-- A block or the rest of a line is the body of an arrow.
theorem arrowEnd_eq {text : List Char} {behind : Nat} (inside : behind ≤ text.length) :
    arrowEnd text behind =
      match opener (text.drop behind) with
      | some d => findClosing d text (behind + ((text.drop behind).takeWhile isMargin).length)
      | none => some (behind + ((text.drop behind).takeWhile (· != '\n')).length) := by
  have back : text.drop (behind + ((text.drop behind).takeWhile isMargin).length) =
      (text.drop behind).dropWhile isMargin := by
    rw [← List.drop_drop]
    generalize text.drop behind = tail
    calc tail.drop (tail.takeWhile isMargin).length =
        (tail.takeWhile isMargin ++ tail.dropWhile isMargin).drop (tail.takeWhile isMargin).length := by
          rw [List.takeWhile_append_dropWhile]
      _ = tail.dropWhile isMargin := List.drop_left
  have line : (indexOf '\n' behind text).getD text.length =
      behind + ((text.drop behind).takeWhile (· != '\n')).length := by
    have width : text.length = behind + (text.drop behind).length := by
      rw [List.length_drop]
      omega
    rw [indexOf, width, indexWhere_getD]
    rfl
  rw [arrowEnd, opener, back, line]
  cases (text.drop behind).dropWhile isMargin with
  | nil => rfl
  | cons c rest =>
    by_cases brace : c = '\x7b'
    · subst brace
      rfl
    · by_cases paren : c = '('
      · subst paren
        rfl
      · simp [brace, paren]

-- A run that goes on beyond a text takes all of it.
theorem takeWhile_beyond {pass : Char → Bool} {one two : List Char} {size : Nat}
    (long : ((one ++ two).takeWhile pass).length = one.length + size) :
    one.takeWhile pass = one ∧ (two.takeWhile pass).length = size := by
  rw [List.takeWhile_append] at long
  split at long
  next all =>
    rw [List.length_append] at long
    exact ⟨(List.takeWhile_prefix pass).eq_of_length all, by omega⟩
  next short =>
    have le := (List.takeWhile_prefix (p := pass) (l := one)).length_le
    omega

section

variable {code blank rest : List Char} {behind : Nat}

-- A block that ends with the code has no white space behind its closing.
theorem blank_of_closing {d : Delimiters} (ink : isBlank d.closing = false) {index : Nat}
    (blanks : ∀ c ∈ blank, isBlank c = true)
    (closes : findClosing d (code ++ (blank ++ rest)) index = some (code ++ blank).length) :
    blank = [] := by
  rcases List.eq_nil_or_concat blank with same | ⟨init, c, rfl⟩
  · exact same
  · have last := findClosing_closing closes
    rw [List.concat_eq_append] at blanks last
    have place : (code ++ (init ++ [c])).length - 1 = (code ++ init).length := by simp
    have text : code ++ ((init ++ [c]) ++ rest) = (code ++ init) ++ c :: rest := by simp
    rw [place, text, List.getElem?_append_right (Nat.le_refl _), Nat.sub_self] at last
    obtain rfl : c = d.closing := by simpa using last
    rw [blanks _ (by simp)] at ink
    cases ink

theorem findClosing_own {d : Delimiters} (plain : d.closing ≠ '/') (ink : isBlank d.closing = false)
    {index : Nat} (blanks : ∀ c ∈ blank, isBlank c = true)
    (closes : findClosing d (code ++ (blank ++ rest)) index = some (code ++ blank).length) :
    findClosing d code index = some code.length := by
  obtain rfl := blank_of_closing ink blanks closes
  rw [List.append_nil, List.nil_append] at closes
  exact findClosing_front plain closes (Nat.le_refl _)

theorem declarationEnd_own {parameters : Nat} (blanks : ∀ c ∈ blank, isBlank c = true)
    (ends : declarationEnd (code ++ (blank ++ rest)) parameters = some (code ++ blank).length) :
    declarationEnd code parameters = some code.length := by
  obtain ⟨behind, brace, closes, opens, late, ends⟩ := declarationEnd_eq_some.mp ends
  obtain rfl := blank_of_closing (by decide) blanks ends
  rw [List.append_nil, List.nil_append] at *
  have bounds := findClosing_bounds _ _ _ _ ends
  have order := indexOf_bounds _ _ _ _ opens
  refine declarationEnd_eq_some.mpr ⟨behind, brace, ?_, ?_, ?_, ?_⟩
  · exact findClosing_front (by decide) closes (by omega)
  · exact indexOf_front opens (by omega)
  · exact fun semicolon found => late semicolon (indexOf_extend found rest)
  · exact findClosing_front (by decide) ends (Nat.le_refl _)

theorem arrowEnd_own (inside : behind ≤ code.length) (blanks : ∀ c ∈ blank, isBlank c = true)
    (ends : arrowEnd (code ++ (blank ++ rest)) behind = some (code ++ blank).length) :
    arrowEnd code behind = some code.length := by
  have within : behind ≤ (code ++ (blank ++ rest)).length := by
    rw [List.length_append]
    omega
  have width : behind + (code.drop behind).length = code.length := by
    rw [List.length_drop]
    omega
  rw [arrowEnd_eq within, List.drop_append_of_le_length inside] at ends
  rw [arrowEnd_eq inside]
  -- The rest of the line ends the code, if no newline stands in it.
  have line (clear : (code.drop behind).takeWhile (· != '\n') = code.drop behind) :
      some (behind + ((code.drop behind).takeWhile (· != '\n')).length) = some code.length := by
    rw [clear, width]
  by_cases nothing : (code.drop behind).dropWhile isMargin = []
  · have none : opener (code.drop behind) = none := by rw [opener, nothing]; rfl
    rw [none]
    refine line (List.takeWhile_eq_self_iff.mpr fun c member => ?_)
    have margin := List.dropWhile_eq_nil_iff.mp nothing c member
    by_contra newline
    obtain rfl : c = '\n' := by simpa using newline
    exact absurd margin (by decide)
  · obtain ⟨same, margin⟩ := opener_append nothing (blank ++ rest)
    rw [same, margin] at ends
    cases opens : opener (code.drop behind) with
    | some d =>
      rw [opens] at ends
      exact findClosing_own (opener_closing opens).1 (opener_closing opens).2 blanks ends
    | none =>
      rw [opens, Option.some.injEq, List.length_append, ← width, Nat.add_assoc] at ends
      exact line (takeWhile_beyond (Nat.add_left_cancel ends)).1

-- A body that ends with the code, or behind white space that follows it, ends the code.
theorem bodyEnd_own (kind : Kind) (inside : behind ≤ code.length)
    (blanks : ∀ c ∈ blank, isBlank c = true)
    (ends : bodyEnd kind (code ++ (blank ++ rest)) behind = some (code ++ blank).length) :
    bodyEnd kind code behind = some code.length := by
  cases kind with
  | method => exact findClosing_own (by decide) (by decide) blanks ends
  | arrow => exact arrowEnd_own inside blanks ends
  | function | component => exact declarationEnd_own blanks ends

end

end CodeAtlas.Source
