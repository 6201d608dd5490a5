import CodeAtlas.Document.Parser
import CodeAtlas.Document.Printer
import Mathlib.Algebra.Group.Nat.Defs
import Mathlib.Data.List.Induction
import Mathlib.Data.List.TakeDrop
import Mathlib.Data.List.TakeWhile

set_option autoImplicit false

/-! Numbers and words of JSON text: where they end, and that whole numbers are read as they were
written. -/

namespace CodeAtlas.Document

open CodeAtlas.Number

/-- A value was read, and this is left. -/
def Reads {α : Type} (result : Except ReadFailure (α × Cursor)) (value : α) (rest : List Char) :
    Prop :=
  ∃ index, result = .ok (value, ⟨rest, index⟩)

/-! ### Digits -/

theorem digitsValue_toDigits (n : Nat) : digitsValue (Nat.toDigits 10 n) = n :=
  Nat.ofDigitChars_ten_toDigits

theorem digitsValue_lt {digits : List Char} (all : ∀ c ∈ digits, c.isDigit = true) :
    digitsValue digits < 10 ^ digits.length := by
  induction digits using List.reverseRecOn with
  | nil => decide
  | append_singleton digits c ih =>
    have before := ih fun d member => all d (List.mem_append_left _ member)
    have digit := all c (by simp)
    have small : c.toNat - 48 < 10 := by
      simp only [Char.isDigit, Bool.and_eq_true, decide_eq_true_eq] at digit
      have upper : c.toNat ≤ 57 := UInt32.le_iff_toNat_le.mp digit.2
      omega
    rw [digitsValue] at before ⊢
    rw [List.foldl_append, List.length_append, List.length_singleton, Nat.pow_succ]
    simp only [List.foldl_cons, List.foldl_nil]
    omega

theorem toDigits_head (n : Nat) (positive : 0 < n) :
    ∃ c rest, Nat.toDigits 10 n = c :: rest ∧ c ≠ '0' := by
  induction n using Nat.base_induction 10 (by decide) with
  | single m small =>
    have apart : ∀ k < 10, 0 < k → k.digitChar ≠ '0' := by decide
    exact ⟨_, [], Nat.toDigits_of_lt_base small, apart m small positive⟩
  | digit m k last front ih =>
    obtain ⟨c, rest, same, apart⟩ := ih front
    refine ⟨c, rest ++ Nat.toDigits 10 k, ?_, apart⟩
    rw [← Nat.toDigits_append_toDigits (by decide) front last, same, List.cons_append]

theorem digitsOf_eq (text : List Char) :
    digitsOf text = (text.takeWhile Char.isDigit, text.dropWhile Char.isDigit) :=
  List.span_eq_takeWhile_dropWhile Char.isDigit text

theorem digitsOf_isDigit {text digits rest : List Char} (found : digitsOf text = (digits, rest)) :
    ∀ c ∈ digits, c.isDigit = true := by
  rw [digitsOf_eq] at found
  obtain ⟨rfl, rfl⟩ := Prod.mk.inj found
  exact fun c member => List.mem_takeWhile_imp member

/-! ### Ends of numbers -/

/-- What may follow a value: nothing, or a character that no number goes on with. -/
def Ends : List Char → Prop
  | [] => True
  | c :: _ => c = ',' ∨ c = '\n' ∨ c = ']' ∨ c = '\x7d'

theorem digitsOf_ends {rest : List Char} (ends : Ends rest) : digitsOf rest = ([], rest) := by
  cases rest with
  | nil => rfl
  | cons c rest => obtain rfl | rfl | rfl | rfl := ends <;> rfl

theorem digitsOf_append (text : List Char) {rest : List Char} (ends : Ends rest) :
    digitsOf (text ++ rest) = ((digitsOf text).1, (digitsOf text).2 ++ rest) := by
  induction text with
  | nil => exact digitsOf_ends ends
  | cons c text ih =>
    simp only [digitsOf_eq] at ih ⊢
    cases digit : c.isDigit with
    | true =>
      simp only [List.cons_append, List.takeWhile_cons, List.dropWhile_cons, digit, if_true]
      exact Prod.ext (congrArg (c :: ·) (Prod.mk.inj ih).1) (Prod.mk.inj ih).2
    | false => simp [digit]

theorem wholePart_cons (c : Char) (rest : List Char) :
    wholePart (c :: rest) =
      if c = '0' then some (['0'], rest)
      else if c.isDigit then some (digitsOf (c :: rest)) else none := by
  by_cases zero : c = '0'
  · subst zero
    rfl
  · rw [if_neg zero]
    cases digit : c.isDigit <;> simp [wholePart, zero, digitsOf_eq, digit]

theorem wholePart_append {text whole left rest : List Char} (ends : Ends rest)
    (found : wholePart text = some (whole, left)) :
    wholePart (text ++ rest) = some (whole, left ++ rest) := by
  cases text with
  | nil => cases found
  | cons c text =>
    rw [wholePart_cons] at found
    rw [List.cons_append, wholePart_cons, ← List.cons_append, digitsOf_append _ ends]
    split at found
    · next zero =>
      cases found
      rw [if_pos zero]
    · next other =>
      split at found
      · next digit =>
        obtain same := Option.some.inj found
        rw [if_neg other, if_pos digit, same]
      · cases found

theorem fractionPart_point (rest : List Char) :
    fractionPart ('.' :: rest) =
      if (digitsOf rest).1 = [] then ([], '.' :: rest) else digitsOf rest := by
  rw [fractionPart]
  cases digitsOf rest with
  | mk digits after => cases digits <;> rfl

theorem fractionPart_append (text : List Char) {rest : List Char} (ends : Ends rest) :
    fractionPart (text ++ rest) = ((fractionPart text).1, (fractionPart text).2 ++ rest) := by
  cases text with
  | nil =>
    cases rest with
    | nil => rfl
    | cons c rest => obtain rfl | rfl | rfl | rfl := ends <;> rfl
  | cons c text =>
    by_cases point : c = '.'
    · subst point
      rw [List.cons_append, fractionPart_point, fractionPart_point, digitsOf_append text ends]
      split <;> rfl
    · have plain (source : List Char) : fractionPart (c :: source) = ([], c :: source) := by
        simp [fractionPart, point]
      rw [List.cons_append, plain, plain]
      rfl

theorem exponentSign_append (text : List Char) {rest : List Char} (ends : Ends rest) :
    exponentSign (text ++ rest) =
      ((exponentSign text).1, (exponentSign text).2.1, (exponentSign text).2.2 ++ rest) := by
  cases text with
  | nil =>
    cases rest with
    | nil => rfl
    | cons c rest => obtain rfl | rfl | rfl | rfl := ends <;> rfl
  | cons c text =>
    by_cases minus : c = '-'
    · subst minus
      rfl
    · by_cases plus : c = '+'
      · subst plus
        rfl
      · simp [exponentSign, minus, plus]

theorem exponentPart_append (text : List Char) {rest : List Char} (ends : Ends rest) :
    exponentPart (text ++ rest) =
      (exponentPart text).map fun (negative, digits, count, left) =>
        (negative, digits, count, left ++ rest) := by
  cases text with
  | nil =>
    cases rest with
    | nil => rfl
    | cons c rest => obtain rfl | rfl | rfl | rfl := ends <;> rfl
  | cons c text =>
    rw [List.cons_append, exponentPart, exponentPart]
    split
    · rw [exponentSign_append text ends]
      simp only [digitsOf_append _ ends]
      cases digitsOf (exponentSign text).2.2 with
      | mk digits left => cases digits <;> rfl
    · rfl

theorem numeralOf_append {negative : Bool} {text rest : List Char} {n : Numeral}
    (ends : Ends rest) (found : numeralOf negative text = some n) :
    numeralOf negative (text ++ rest) = some { n with rest := n.rest ++ rest } := by
  rw [numeralOf] at found ⊢
  cases whole : wholePart text with
  | none =>
    rw [whole] at found
    cases found
  | some parts =>
    obtain ⟨digits, left⟩ := parts
    rw [whole] at found
    rw [wholePart_append ends whole]
    simp only [fractionPart_append _ ends, exponentPart_append _ ends]
    cases exponent : exponentPart (fractionPart left).2 with
    | none =>
      simp only [exponent] at found
      cases found
      rfl
    | some parts =>
      simp only [exponent] at found
      cases found
      rfl

theorem numeral?_cons {c : Char} (other : c ≠ '-') (text : List Char) :
    numeral? (c :: text) = numeralOf false (c :: text) := by
  simp [numeral?, other]

theorem numeral?_append {text rest : List Char} {n : Numeral} (ends : Ends rest)
    (found : numeral? text = some n) :
    numeral? (text ++ rest) = some { n with rest := n.rest ++ rest } := by
  cases text with
  | nil => cases found
  | cons c text =>
    by_cases minus : c = '-'
    · subst minus
      exact numeralOf_append ends found
    · rw [numeral?_cons minus] at found
      rw [List.cons_append, numeral?_cons minus]
      exact numeralOf_append ends found

/-! ### Words -/

theorem wholePart_head {text whole left : List Char} (found : wholePart text = some (whole, left)) :
    ∃ c rest, text = c :: rest ∧ c.isDigit = true := by
  cases text with
  | nil => cases found
  | cons c text =>
    rw [wholePart_cons] at found
    split at found
    · next zero => exact ⟨c, text, rfl, by rw [zero]; rfl⟩
    · split at found
      · next digit => exact ⟨c, text, rfl, digit⟩
      · cases found

theorem numeralOf_head {negative : Bool} {text : List Char} {n : Numeral}
    (found : numeralOf negative text = some n) : ∃ c rest, text = c :: rest ∧ c.isDigit = true := by
  rw [numeralOf] at found
  split at found
  · cases found
  · next whole => exact wholePart_head whole

theorem word?_mem {text : List Char} {value : Document} {length : Nat}
    (found : word? text = some (value, length)) :
    ∃ word, (word, value) ∈ words ∧ length = word.length ∧ word.toList <+: text := by
  rw [word?] at found
  obtain ⟨⟨word, other⟩, member, same⟩ := List.exists_of_findSome?_eq_some found
  simp only at same
  split at same
  · next start =>
    cases same
    exact ⟨word, member, rfl, List.isPrefixOf_iff_prefix.mp start⟩
  · cases same

theorem word?_digit {text : List Char} (digit : (text.take 2).any Char.isDigit = true) :
    word? text = none := by
  cases found : word? text with
  | none => rfl
  | some entry =>
    obtain ⟨word, member, -, rest, rfl⟩ := word?_mem found
    have letters : ∀ word ∈ words.map (·.1),
        2 ≤ word.toList.length ∧ (word.toList.take 2).any Char.isDigit = false := by decide
    obtain ⟨long, plain⟩ := letters word (List.mem_map_of_mem member)
    rw [List.take_append_of_le_length long, plain] at digit
    cases digit

theorem word?_numeral {text : List Char} {n : Numeral} (found : numeral? text = some n) :
    word? text = none := by
  apply word?_digit
  cases text with
  | nil => cases found
  | cons c text =>
    by_cases minus : c = '-'
    · subst minus
      obtain ⟨d, rest, rfl, digit⟩ := numeralOf_head found
      simp [digit]
    · rw [numeral?_cons minus] at found
      obtain ⟨d, rest, same, digit⟩ := numeralOf_head found
      cases same
      simp [digit]

theorem readScalar_numeral {text : List Char} {n : Numeral} (found : numeral? text = some n)
    (index : Nat) :
    readScalar ⟨text, index⟩ =
      n.value.map fun value => (value, ⟨n.rest, index + n.length⟩) := by
  rw [readScalar, word?_numeral found]
  simp only [found]

theorem word?_word {word : String} {value : Document} (member : (word, value) ∈ words)
    (rest : List Char) : word? (word.toList ++ rest) = some (value, word.length) := by
  simp only [words, List.mem_cons, List.not_mem_nil, or_false, Prod.mk.injEq] at member
  obtain ⟨rfl, rfl⟩ | ⟨rfl, rfl⟩ | ⟨rfl, rfl⟩ | ⟨rfl, rfl⟩ | ⟨rfl, rfl⟩ | ⟨rfl, rfl⟩ := member <;> rfl

theorem readScalar_word {word : String} {value : Document} (member : (word, value) ∈ words)
    (rest : List Char) (index : Nat) :
    readScalar ⟨word.toList ++ rest, index⟩ = .ok (value, ⟨rest, index + word.length⟩) := by
  rw [readScalar, word?_word member]
  simp only [Cursor.skip]
  rw [← String.length_toList, List.drop_left]

/-- A scalar is a word or a number. -/
theorem readScalar_cases {text rest : List Char} {value : Document} {index : Nat}
    (read : Reads (readScalar ⟨text, index⟩) value rest) :
    (∃ word, (word, value) ∈ words ∧ text = word.toList ++ rest) ∨
      ∃ n, numeral? text = some n ∧ n.value = .ok value ∧ n.rest = rest := by
  obtain ⟨last, read⟩ := read
  cases found : word? text with
  | some entry =>
    obtain ⟨word, member, -, more, rfl⟩ := word?_mem found
    rw [readScalar_word member] at read
    cases read
    exact .inl ⟨word, member, rfl⟩
  | none =>
    cases number : numeral? text with
    | none =>
      simp only [readScalar, found, number] at read
      cases read
    | some n =>
      rw [readScalar_numeral number] at read
      cases result : n.value with
      | error failure =>
        rw [result] at read
        cases read
      | ok found =>
        rw [result] at read
        cases read
        exact .inr ⟨n, rfl, result, rfl⟩

theorem reads_numeral {text : List Char} {n : Numeral} {value : Document}
    (found : numeral? text = some n) (result : n.value = .ok value) (index : Nat) :
    Reads (readScalar ⟨text, index⟩) value n.rest := by
  rw [readScalar_numeral found, result]
  exact ⟨_, rfl⟩

/-- What is read on its own is read in front of other text, too. -/
theorem readScalar_append {text rest : List Char} {value : Document} {first : Nat}
    (read : Reads (readScalar ⟨text, first⟩) value []) (ends : Ends rest) (index : Nat) :
    Reads (readScalar ⟨text ++ rest, index⟩) value rest := by
  obtain ⟨word, member, rfl⟩ | ⟨n, found, result, nothing⟩ := readScalar_cases read
  · rw [List.append_nil]
    exact ⟨_, readScalar_word member rest index⟩
  · have more := reads_numeral (numeral?_append ends found) result index
    simpa only [nothing, List.nil_append] using more

/-! ### Whole numbers -/

theorem wholePart_toDigits (n : Nat) : wholePart (Nat.toDigits 10 n) = some (Nat.toDigits 10 n, []) := by
  cases Nat.eq_zero_or_pos n with
  | inl zero =>
    rw [zero]
    rfl
  | inr positive =>
    obtain ⟨c, rest, same, other⟩ := toDigits_head n positive
    have digits : ∀ d ∈ c :: rest, d.isDigit = true := by
      rw [← same]
      exact fun d member => Nat.isDigit_of_mem_toDigits (by decide) (by decide) member
    rw [same, wholePart_cons, if_neg other, if_pos (digits c List.mem_cons_self), digitsOf_eq,
      List.takeWhile_eq_self_iff.mpr digits, List.dropWhile_eq_nil_iff.mpr digits]

theorem numeralOf_toDigits (negative : Bool) (n : Nat) :
    ∃ length, numeralOf negative (Nat.toDigits 10 n) =
      some ⟨negative, Nat.toDigits 10 n, [], none, [], length⟩ := by
  rw [numeralOf, wholePart_toDigits]
  exact ⟨_, rfl⟩

theorem numeral?_intText (n : Int) :
    ∃ length, numeral? (intText n) =
      some ⟨decide (n < 0), Nat.toDigits 10 n.natAbs, [], none, [], length⟩ := by
  obtain ⟨length, found⟩ := numeralOf_toDigits (decide (n < 0)) n.natAbs
  refine ⟨length, ?_⟩
  rw [intText, signed]
  split
  · next negative =>
    rw [negative] at found ⊢
    exact found
  · next positive =>
    rw [Bool.not_eq_true] at positive
    rw [positive] at found ⊢
    obtain ⟨c, rest, same⟩ := List.exists_cons_of_ne_nil (Nat.toDigits_ne_nil (n := n.natAbs) (b := 10))
    have digit : c.isDigit = true :=
      Nat.isDigit_of_mem_toDigits (by decide) (by decide) (same ▸ List.mem_cons_self)
    rw [same] at found ⊢
    rw [numeral?_cons _ rest, found]
    rintro rfl
    cases digit

/-- A whole number that is not too long is read as it was written. -/
theorem readScalar_intText {n : Int} (short : hasShortInt (.int n) = true) (index : Nat) :
    Reads (readScalar ⟨intText n, index⟩) (.int n) [] := by
  obtain ⟨length, found⟩ := numeral?_intText n
  have within : ¬ digitLimit < (Nat.toDigits 10 n.natAbs).length :=
    Nat.not_lt.mpr (by simpa [hasShortInt] using short)
  have same : (if n < 0 then -(n.natAbs : Int) else n.natAbs) = n := by
    split <;> omega
  apply reads_numeral found
  simp only [Numeral.value, digitsValue_toDigits, if_neg within, List.isEmpty_nil,
    Option.isNone_none, Bool.and_self, if_true, decide_eq_true_eq, same]

/-! ### Beginnings and ends -/

theorem wholePart_suffix {text whole left : List Char}
    (found : wholePart text = some (whole, left)) : left <:+ text := by
  cases text with
  | nil => cases found
  | cons c text =>
    rw [wholePart_cons] at found
    split at found
    · cases found
      exact List.suffix_cons c _
    · split at found
      · have same := Option.some.inj found
        rw [digitsOf_eq] at same
        rw [← (Prod.mk.inj same).2]
        exact List.dropWhile_suffix _
      · cases found

theorem fractionPart_suffix (text : List Char) : (fractionPart text).2 <:+ text := by
  rw [fractionPart.eq_def]
  split
  · next rest =>
    split
    · exact List.suffix_refl _
    · rw [digitsOf_eq]
      exact (List.dropWhile_suffix _).trans (List.suffix_cons _ _)
  · exact List.suffix_refl _

theorem exponentPart_suffix {text digits left : List Char} {negative : Bool} {count : Nat}
    (found : exponentPart text = some (negative, digits, count, left)) : left <:+ text := by
  cases text with
  | nil => cases found
  | cons c text =>
    rw [exponentPart] at found
    split at found
    · have sign : (exponentSign text).2.2 <:+ text := by
        rw [exponentSign.eq_def]
        split
        · exact List.suffix_cons _ _
        · exact List.suffix_cons _ _
        · exact List.suffix_refl _
      dsimp only at found
      split at found
      · cases found
      · next same =>
        cases found
        rw [digitsOf_eq] at same
        rw [← (Prod.mk.inj same).2]
        exact ((List.dropWhile_suffix _).trans sign).trans (List.suffix_cons c text)
    · cases found

theorem numeralOf_suffix {negative : Bool} {text : List Char} {n : Numeral}
    (found : numeralOf negative text = some n) : n.rest <:+ text := by
  rw [numeralOf] at found
  split at found
  · cases found
  · next whole rest same =>
    have fraction := (fractionPart_suffix rest).trans (wholePart_suffix same)
    dsimp only at found
    split at found
    · next exponent =>
      cases found
      exact (exponentPart_suffix exponent).trans fraction
    · cases found
      exact fraction

theorem numeral?_suffix {text : List Char} {n : Numeral} (found : numeral? text = some n) :
    n.rest <:+ text := by
  unfold numeral? at found
  split at found
  · exact (numeralOf_suffix found).trans (List.suffix_cons _ _)
  · exact numeralOf_suffix found

theorem readScalar_suffix {text rest : List Char} {value : Document} {index : Nat}
    (read : Reads (readScalar ⟨text, index⟩) value rest) : rest <:+ text := by
  obtain ⟨word, -, rfl⟩ | ⟨n, found, -, rfl⟩ := readScalar_cases read
  · exact List.suffix_append _ _
  · exact numeral?_suffix found

def opensScalar (c : Char) : Bool :=
  c.isDigit || ['-', 'n', 't', 'f', 'N', 'I'].contains c

theorem opensScalar_apart {c other : Char} (opens : opensScalar c = true)
    (never : opensScalar other = false) : c ≠ other := by
  rintro rfl
  rw [opens] at never
  cases never

theorem readScalar_head {text rest : List Char} {value : Document} {index : Nat}
    (read : Reads (readScalar ⟨text, index⟩) value rest) :
    ∃ c more, text = c :: more ∧ opensScalar c = true := by
  obtain ⟨word, member, rfl⟩ | ⟨n, found, -, rfl⟩ := readScalar_cases read
  · simp only [words, List.mem_cons, List.not_mem_nil, or_false, Prod.mk.injEq] at member
    obtain ⟨rfl, -⟩ | ⟨rfl, -⟩ | ⟨rfl, -⟩ | ⟨rfl, -⟩ | ⟨rfl, -⟩ | ⟨rfl, -⟩ := member <;>
      exact ⟨_, _, rfl, rfl⟩
  · cases text with
    | nil => cases found
    | cons c text =>
      refine ⟨c, text, rfl, ?_⟩
      by_cases minus : c = '-'
      · rw [minus]
        rfl
      · rw [numeral?_cons minus] at found
        obtain ⟨d, more, same, digit⟩ := numeralOf_head found
        cases same
        rw [opensScalar, digit, Bool.true_or]

end CodeAtlas.Document
