import CodeAtlas.Source.Block
import Mathlib.Data.List.Basic

set_option autoImplicit false

/-! Ends of blocks in two phases: first every position is marked as code, literal or comment, then
openings and closings are counted in the code alone. -/

namespace CodeAtlas.Source

inductive Mark
  | code
  | literal
  | comment
  deriving DecidableEq, Repr

/-- Where a walk through a text stands. -/
inductive Mode
  | code
  | literal (quote : Char)
  | hidden (quote : Char)
  | line
  | opening
  | comment
  | closing
  deriving DecidableEq, Repr

/-- The mark of a character and the mode behind it. -/
def Mode.step (c : Char) (next : Option Char) : Mode → Mark × Mode
  | .code =>
    if c = '/' ∧ next = some '/' then (.comment, .line)
    else if c = '/' ∧ next = some '*' then (.comment, .opening)
    else if c = '\'' ∨ c = '"' ∨ c = '\x60' then (.literal, .literal c)
    else (.code, .code)
  | .literal quote =>
    if c = '\\' then (.literal, .hidden quote)
    else if c = quote ∨ (c = '\n' ∧ quote ≠ '\x60') then (.literal, .code)
    else (.literal, .literal quote)
  | .hidden quote => (.literal, .literal quote)
  | .line => if c = '\n' then (.code, .code) else (.comment, .line)
  -- The star of an opening is not the star of a closing.
  | .opening => (.comment, .comment)
  | .comment => if c = '*' ∧ next = some '/' then (.comment, .closing) else (.comment, .comment)
  | .closing => (.comment, .code)

/-- The characters of a text with their marks. -/
def marked : Mode → List Char → List (Char × Mark)
  | _, [] => []
  | mode, c :: rest => (c, (mode.step c rest.head?).1) :: marked (mode.step c rest.head?).2 rest

@[simp] theorem marked_length (mode : Mode) (text : List Char) :
    (marked mode text).length = text.length := by
  induction text generalizing mode with
  | nil => rfl
  | cons c rest ih => simp [marked, ih]

theorem marked_getElem? (mode : Mode) (text : List Char) (k : Nat) :
    (marked mode text)[k]?.map (·.1) = text[k]? := by
  induction text generalizing mode k with
  | nil => rfl
  | cons c rest ih =>
    cases k with
    | zero => rfl
    | succ k => simpa [marked] using ih _ k

/-- Of the code from `start` up to and including `last`, how much is the character `c`. -/
def codeCount (text : List Char) (start last : Nat) (c : Char) : Nat :=
  ((marked .code (text.drop start)).take (last + 1 - start)).count (c, .code)

/-- A closing stands at `last`, and the code since `start` has as many openings as closings. -/
def ClosesAt (d : Delimiters) (text : List Char) (start last : Nat) : Prop :=
  start ≤ last ∧ text[last]? = some d.closing ∧
    codeCount text start last d.opening = codeCount text start last d.closing

instance (d : Delimiters) (text : List Char) (start last : Nat) :
    Decidable (ClosesAt d text start last) :=
  inferInstanceAs (Decidable (_ ∧ _ ∧ _))

/-- The index behind the first place that closes what stands at `start`. -/
def closingByMarks (d : Delimiters) (text : List Char) (start : Nat) : Option Nat :=
  ((List.range text.length).find? fun last => ClosesAt d text start last).map (· + 1)

-- The search for the closing over characters that are marked.
def closeMarked (d : Delimiters) (depth : Int) (index : Nat) : List (Char × Mark) → Option Nat
  | [] => none
  | (c, .code) :: rest =>
    match d.depthAfter depth c with
    | none => some (index + 1)
    | some depth => closeMarked d depth (index + 1) rest
  | _ :: rest => closeMarked d depth (index + 1) rest

theorem closeMarked_comment (d : Delimiters) (depth : Int) (index : Nat) (c : Char)
    (rest : List (Char × Mark)) :
    closeMarked d depth index ((c, .comment) :: rest) = closeMarked d depth (index + 1) rest := rfl

theorem closeMarked_literal (d : Delimiters) (depth : Int) (index : Nat) (c : Char)
    (rest : List (Char × Mark)) :
    closeMarked d depth index ((c, .literal) :: rest) = closeMarked d depth (index + 1) rest := rfl

theorem isQuote_iff (c : Char) : isQuote c = true ↔ c = '\'' ∨ c = '"' ∨ c = '\x60' := by
  have template : decide (c = templateQuote) = true ↔ c = '\x60' := decide_eq_true_iff
  simp only [isQuote, Bool.or_eq_true, template, decide_eq_true_eq]
  tauto

theorem marked_code_of_plain (c : Char) (rest : List Char)
    (noLine : ∀ more, c = '/' → rest = '/' :: more → False)
    (noComment : ∀ more, c = '/' → rest = '*' :: more → False) (plain : ¬isQuote c = true) :
    marked .code (c :: rest) = (c, .code) :: marked .code rest := by
  have line : ¬(c = '/' ∧ rest.head? = some '/') := fun ⟨slash, next⟩ => by
    obtain ⟨more, rfl⟩ := List.head?_eq_some_iff.mp next
    exact noLine more slash rfl
  have comment : ¬(c = '/' ∧ rest.head? = some '*') := fun ⟨slash, next⟩ => by
    obtain ⟨more, rfl⟩ := List.head?_eq_some_iff.mp next
    exact noComment more slash rfl
  rw [isQuote_iff] at plain
  simp only [marked, Mode.step, line, comment, plain, if_false]

theorem marked_code_of_quote (c : Char) (rest : List Char) (quote : isQuote c = true) :
    marked .code (c :: rest) = (c, .literal) :: marked (.literal c) rest := by
  rcases (isQuote_iff c).mp quote with rfl | rfl | rfl <;> simp [marked, Mode.step]

-- What ends a literal besides the end of the text.
theorem endsLiteral_iff (c quote : Char) :
    (decide (c = quote) || decide (c = '\n') && quote != templateQuote) = true ↔
      c = quote ∨ (c = '\n' ∧ quote ≠ '\x60') := by
  simp [templateQuote]

-- Each of the four searches is the one over marks, started in its own mode.
theorem close_eq_closeMarked (d : Delimiters) :
    (∀ depth index text,
      closeInCode d depth index text = closeMarked d depth index (marked .code text)) ∧
    (∀ quote depth index text, closeInLiteral d quote depth index text =
      closeMarked d depth index (marked (.literal quote) text)) ∧
    (∀ depth index text,
      closeInComment d depth index text = closeMarked d depth index (marked .comment text)) ∧
    ∀ depth index text,
      closeInLine d depth index text = closeMarked d depth index (marked .line text) := by
  apply closeInCode.mutual_induct d
  case case1 | case7 | case11 | case14 =>
    intros
    simp only [closeInCode, closeInLiteral, closeInComment, closeInLine, marked, closeMarked]
  case case2 | case3 =>
    intro depth index rest ih
    simp [closeInCode, ih, marked, Mode.step, closeMarked]
  case case4 =>
    intro depth index c rest noLine noComment quote ih
    rw [marked_code_of_quote c rest quote, closeMarked_literal, ← ih]
    simp only [closeInCode, quote, if_true]
  case case5 =>
    intro depth index c rest noLine noComment plain closes
    rw [marked_code_of_plain c rest noLine noComment plain]
    simp only [closeInCode, if_neg plain, closeMarked, closes]
  case case6 =>
    intro depth index c rest noLine noComment plain next counts ih
    rw [marked_code_of_plain c rest noLine noComment plain]
    simp only [closeInCode, if_neg plain, closeMarked, counts, ih]
  case case8 =>
    intro quote depth index hidden rest ih
    simp [closeInLiteral, ih, marked, Mode.step, closeMarked]
  case case9 =>
    intro quote depth index c rest noEscape ends ih
    simp only [closeInLiteral, if_pos ends, ih]
    rw [endsLiteral_iff] at ends
    by_cases escape : c = '\\'
    · cases rest with
      | nil => simp [marked, closeMarked, Mode.step, escape]
      | cons hidden rest => exact (noEscape hidden rest escape rfl).elim
    · simp [marked, Mode.step, escape, ends, closeMarked]
  case case10 =>
    intro quote depth index c rest noEscape stays ih
    simp only [closeInLiteral, if_neg stays, ih]
    rw [endsLiteral_iff] at stays
    by_cases escape : c = '\\'
    · cases rest with
      | nil => simp [marked, closeMarked, Mode.step, escape]
      | cons hidden rest => exact (noEscape hidden rest escape rfl).elim
    · simp [marked, Mode.step, escape, stays, closeMarked]
  case case12 =>
    intro depth index rest ih
    simp [closeInComment, ih, marked, Mode.step, closeMarked]
  case case13 =>
    intro depth index c rest noEnd ih
    have inside : ¬(c = '*' ∧ rest.head? = some '/') := fun ⟨star, next⟩ => by
      obtain ⟨more, rfl⟩ := List.head?_eq_some_iff.mp next
      exact noEnd more star rfl
    simp only [closeInComment, ih, marked, Mode.step, if_neg inside, closeMarked_comment]
  case case15 =>
    intro depth index rest closes
    simp [closeInLine, marked, Mode.step, closeMarked, closes]
  case case16 =>
    intro depth index rest next counts ih
    simp [closeInLine, marked, Mode.step, closeMarked, counts, ih]
  case case17 =>
    intro depth index c rest inside ih
    simp only [closeInLine, if_neg inside, ih, marked, Mode.step, closeMarked_comment]

-- By how much one marked character deepens the nesting.
def Delimiters.weight (d : Delimiters) (m : Char × Mark) : Int :=
  if m = (d.opening, .code) then 1 else if m = (d.closing, .code) then -1 else 0

-- Openings less closings in the code.
def Delimiters.surplus (d : Delimiters) (ms : List (Char × Mark)) : Int :=
  ms.count (d.opening, .code) - ms.count (d.closing, .code)

@[simp] theorem surplus_nil (d : Delimiters) : d.surplus [] = 0 := rfl

theorem surplus_cons (d : Delimiters) (apart : d.opening ≠ d.closing) (m : Char × Mark)
    (ms : List (Char × Mark)) : d.surplus (m :: ms) = d.weight m + d.surplus ms := by
  by_cases opens : m = (d.opening, .code)
  · simp [Delimiters.surplus, Delimiters.weight, opens, apart]
    omega
  · by_cases closes : m = (d.closing, .code)
    · simp [Delimiters.surplus, Delimiters.weight, closes, apart.symm]
      omega
    · simp [Delimiters.surplus, Delimiters.weight, opens, closes]

-- Inside a block one character either closes it or changes the depth by its weight.
theorem closeMarked_cons (d : Delimiters) (apart : d.opening ≠ d.closing) (depth : Int)
    (index : Nat) (m : Char × Mark) (ms : List (Char × Mark)) :
    closeMarked d depth index (m :: ms) =
      if depth + d.weight m = 0 ∧ m = (d.closing, .code) then some (index + 1)
      else closeMarked d (depth + d.weight m) (index + 1) ms := by
  obtain ⟨c, mark⟩ := m
  cases mark with
  | literal | comment => simp [closeMarked, Delimiters.weight]
  | code =>
    by_cases opens : c = d.opening
    · simp [closeMarked, Delimiters.depthAfter, Delimiters.weight, opens, apart]
    · by_cases closes : c = d.closing
      · have last : depth + -1 = 0 ↔ depth = 1 := by omega
        by_cases one : depth = 1 <;>
          simp [closeMarked, Delimiters.depthAfter, Delimiters.weight, closes, apart.symm, last,
            one, Int.sub_eq_add_neg]
      · simp [closeMarked, Delimiters.depthAfter, Delimiters.weight, opens, closes]

theorem weight_closes (d : Delimiters) (depth : Int) (inside : 0 < depth) (m : Char × Mark)
    (level : depth + d.weight m = 0) : m = (d.closing, .code) := by
  unfold Delimiters.weight at level
  split_ifs at level with opens closes
  · omega
  · exact closes
  · omega

-- The depth stays positive up to the first place where it is used up.
theorem closeMarked_eq_find (d : Delimiters) (apart : d.opening ≠ d.closing) (depth : Int)
    (inside : 0 < depth) (index : Nat) (ms : List (Char × Mark)) :
    closeMarked d depth index ms =
      ((List.range ms.length).find? fun k =>
        ms[k]?.map (·.1) = some d.closing ∧ depth + d.surplus (ms.take (k + 1)) = 0).map
          (· + (index + 1)) := by
  induction ms generalizing depth index with
  | nil => rfl
  | cons m ms ih =>
    have first : d.surplus ((m :: ms).take (0 + 1)) = d.weight m := by
      simp [surplus_cons d apart]
    have later (k : Nat) : depth + d.surplus ((m :: ms).take (k + 1 + 1)) =
        depth + d.weight m + d.surplus (ms.take (k + 1)) := by
      rw [List.take_succ_cons, surplus_cons d apart, Int.add_assoc]
    rw [closeMarked_cons d apart, List.length_cons, List.range_succ_eq_map, List.find?_cons, first]
    by_cases level : depth + d.weight m = 0
    · obtain rfl := weight_closes d depth inside m level
      simp [level]
    · have still : 0 < depth + d.weight m := by
        unfold Delimiters.weight at level ⊢
        split_ifs at level ⊢ <;> omega
      simp only [level, false_and, and_false, if_false, decide_false, ih _ still, List.find?_map,
        Option.map_map]
      have places : (fun k => k + (index + 1)) ∘ Nat.succ = fun k => k + (index + 1 + 1) := by
        funext k
        simp only [Function.comp]
        omega
      rw [places]
      simp only [Function.comp_def, Nat.succ_eq_add_one, later, List.getElem?_cons_succ]

theorem closeMarked_bounds (d : Delimiters) (depth : Int) (index : Nat)
    (ms : List (Char × Mark)) (stop : Nat) (closes : closeMarked d depth index ms = some stop) :
    index < stop ∧ stop ≤ index + ms.length := by
  induction ms generalizing depth index with
  | nil => simp [closeMarked] at closes
  | cons m ms ih =>
    obtain ⟨c, mark⟩ := m
    cases mark with
    | literal | comment =>
      have bounds := ih _ _ closes
      simp only [List.length_cons]
      omega
    | code =>
      simp only [closeMarked] at closes
      split at closes
      · simp only [Option.some.injEq] at closes
        simp only [List.length_cons]
        omega
      · have bounds := ih _ _ closes
        simp only [List.length_cons]
        omega

theorem findClosing_eq_closeMarked (d : Delimiters) (text : List Char) (index : Nat) :
    findClosing d text index = closeMarked d 0 index (marked .code (text.drop index)) :=
  (close_eq_closeMarked d).1 0 index (text.drop index)

theorem findClosing_bounds (d : Delimiters) (text : List Char) (index stop : Nat)
    (closes : findClosing d text index = some stop) : index < stop ∧ stop ≤ text.length := by
  rw [findClosing_eq_closeMarked] at closes
  have bounds := closeMarked_bounds d 0 index _ stop closes
  simp only [marked_length, List.length_drop] at bounds
  omega

theorem find_range_from (start size : Nat) (pass : Nat → Bool)
    (later : ∀ k, k < start → pass k = false) :
    (List.range (start + size)).find? pass =
      ((List.range size).find? fun k => pass (start + k)).map (start + ·) := by
  have before : (List.range start).find? pass = none := by
    simp only [List.find?_eq_none, List.mem_range, Bool.not_eq_true]
    exact later
  rw [List.range_add, List.find?_append, before, Option.none_or, List.find?_map]
  rfl

theorem marked_opening {d : Delimiters} (usual : d = braces ∨ d = parentheses) (rest : List Char) :
    marked .code (d.opening :: rest) = (d.opening, .code) :: marked .code rest := by
  rcases usual with rfl | rfl <;> rfl

theorem codeCount_opening {d : Delimiters} (usual : d = braces ∨ d = parentheses)
    {text rest : List Char} {index : Nat} (split : text.drop index = d.opening :: rest) (k : Nat)
    (c : Char) : codeCount text index (index + 1 + k) c =
      ((marked .code rest).take (k + 1)).count (c, .code) + if c = d.opening then 1 else 0 := by
  have width : index + 1 + k + 1 - index = k + 1 + 1 := by omega
  rw [codeCount, split, marked_opening usual, width, List.take_succ_cons, List.count_cons]
  by_cases same : c = d.opening
  · rw [if_pos same, if_pos (by simp [same])]
  · rw [if_neg same, if_neg (by simpa using Ne.symm same)]

-- Behind the opening one level is left to be closed.
theorem closesAt_behind {d : Delimiters} (usual : d = braces ∨ d = parentheses)
    {text rest : List Char} {index : Nat} (split : text.drop index = d.opening :: rest) (k : Nat) :
    ClosesAt d text index (index + 1 + k) ↔ (marked .code rest)[k]?.map (·.1) = some d.closing ∧
      1 + d.surplus ((marked .code rest).take (k + 1)) = 0 := by
  have apart : d.closing ≠ d.opening := by
    rcases usual with rfl | rfl <;> decide
  have there : text[index + 1 + k]? = rest[k]? := by
    rw [show index + 1 + k = index + (k + 1) by omega, ← List.getElem?_drop, split,
      List.getElem?_cons_succ]
  have behind : index ≤ index + 1 + k := by omega
  simp only [ClosesAt, behind, true_and, there, marked_getElem?, codeCount_opening usual split,
    Delimiters.surplus, if_true, if_neg apart]
  apply and_congr_right
  intro _
  omega

theorem not_closesAt_start {d : Delimiters} (usual : d = braces ∨ d = parentheses)
    {text : List Char} {index : Nat} (opens : text[index]? = some d.opening) (k : Nat)
    (before : k < index + 1) : ¬ClosesAt d text index k := by
  rintro ⟨behind, closing, -⟩
  obtain rfl : k = index := by omega
  rw [opens] at closing
  rcases usual with rfl | rfl <;> simp [braces, parentheses] at closing

-- The search closes the delimiter at `index` where counting openings and closings in marked code
-- does.
theorem findClosing_eq_closingByMarks (d : Delimiters) (usual : d = braces ∨ d = parentheses)
    (text : List Char) (index : Nat) (opens : text[index]? = some d.opening) :
    findClosing d text index = closingByMarks d text index := by
  have apart : d.opening ≠ d.closing := by
    rcases usual with rfl | rfl <;> decide
  obtain ⟨inside, here⟩ := List.getElem?_eq_some_iff.mp opens
  have split : text.drop index = d.opening :: text.drop (index + 1) := by
    rw [List.drop_eq_getElem_cons inside, here]
  have size : text.length = index + 1 + (text.drop (index + 1)).length := by
    rw [List.length_drop]
    omega
  generalize text.drop (index + 1) = rest at split size
  have start : findClosing d text index = closeMarked d 1 (index + 1) (marked .code rest) := by
    simp [findClosing_eq_closeMarked, split, marked_opening usual, closeMarked,
      Delimiters.depthAfter]
  have earlier (k : Nat) (before : k < index + 1) : decide (ClosesAt d text index k) = false :=
    decide_eq_false (not_closesAt_start usual opens k before)
  have places : (fun k => k + 1) ∘ (fun k => index + 1 + k) = fun k => k + (index + 1 + 1) := by
    funext k
    simp only [Function.comp]
    omega
  rw [start, closeMarked_eq_find d apart 1 (by omega), closingByMarks, size,
    find_range_from _ _ _ earlier, Option.map_map, places]
  simp only [marked_length, closesAt_behind usual split]

def nestedText : List Char :=
  "f\x7b'\\'\x7d' /*/ \x7d */ // \x7d\n\"\x7d\n\x7b\x7d\x7d \x7d".toList

theorem findClosing_eq_closingByMarks_nested :
    nestedText[1]? = some braces.opening ∧
      findClosing braces nestedText 1 = closingByMarks braces nestedText 1 ∧
        closingByMarks braces nestedText 1 = some 28 :=
  ⟨by decide, findClosing_eq_closingByMarks braces (.inl rfl) nestedText 1 (by decide), by decide⟩

end CodeAtlas.Source
