import CodeAtlas.Proofs.Document.Quoted

set_option autoImplicit false

/-! The characters that JSON text is written with: visible ASCII, spaces and line breaks. -/

namespace CodeAtlas.Document

open CodeAtlas.Number

def isVisible (c : Char) : Bool :=
  32 < c.toNat && c.toNat < 127

def isWritten (c : Char) : Bool :=
  c = '\n' || (32 ≤ c.toNat && c.toNat < 127)

theorem isWritten_of_isVisible {c : Char} (visible : isVisible c = true) : isWritten c = true := by
  simp only [isVisible, Bool.and_eq_true, decide_eq_true_eq] at visible
  simp only [isWritten, Bool.or_eq_true, Bool.and_eq_true, decide_eq_true_eq]
  omega

theorem written_of_visible {text : List Char} (visible : text.all isVisible = true) :
    text.all isWritten = true := by
  rw [List.all_eq_true] at visible ⊢
  exact fun c member => isWritten_of_isVisible (visible c member)

theorem not_isSpace_of_isVisible {c : Char} (visible : isVisible c = true) : isSpace c = false := by
  cases space : isSpace c with
  | false => rfl
  | true =>
    simp only [isSpace, Bool.or_eq_true, decide_eq_true_eq] at space
    obtain ((rfl | rfl) | rfl) | rfl := space <;> cases visible

theorem isVisible_of_isDigit {c : Char} (digit : c.isDigit = true) : isVisible c = true := by
  simp only [Char.isDigit, Bool.and_eq_true, decide_eq_true_eq, ge_iff_le, UInt32.le_iff_toNat_le]
    at digit
  have low : (48 : Nat) ≤ c.toNat := digit.1
  have high : c.toNat ≤ 57 := digit.2
  simp only [isVisible, Bool.and_eq_true, decide_eq_true_eq]
  omega

/-! ### Numbers -/

@[simp] theorem visible_toDigits (n : Nat) : (Nat.toDigits 10 n).all isVisible = true := by
  rw [List.all_eq_true]
  intro c member
  exact isVisible_of_isDigit (Nat.isDigit_of_mem_toDigits (by decide) (by decide) member)

@[simp] theorem visible_padLeft (width : Nat) (digits : List Char) :
    (padLeft width '0' digits).all isVisible = digits.all isVisible := by
  have zeros : (List.replicate (width - digits.length) '0').all isVisible = true := by
    rw [List.all_replicate, show isVisible '0' = true from rfl]
    split <;> rfl
  rw [padLeft, List.all_append, zeros, Bool.true_and]

@[simp] theorem visible_signed (negative : Bool) (text : List Char) :
    (signed negative text).all isVisible = text.all isVisible := by
  cases negative <;> rfl

@[simp] theorem visible_placed (places units : Nat) : (placed places units).all isVisible = true := by
  rw [placed]
  split
  · exact visible_toDigits units
  · rw [List.all_append, List.all_cons, visible_padLeft]
    simp only [visible_toDigits, Bool.true_and, Bool.and_true]
    rfl

@[simp] theorem visible_exponentText (width : Nat) (exponent : Int) :
    (exponentText width exponent).all isVisible = true := by
  rw [exponentText, List.all_cons, visible_padLeft, visible_toDigits]
  split <;> rfl

theorem visible_layout (layout : Layout) (digits : Nat) (scale : Int) :
    (layout.write digits scale).all isVisible = true := by
  have shown := visible_toDigits (trimZeros 20 digits scale).1
  have point : isVisible '.' = true ∧ isVisible 'e' = true ∧ isVisible '0' = true := by decide
  rw [Layout.write]
  dsimp only
  split
  · split
    · simp [List.all_replicate, point]
    · exact visible_placed _ _
  · split
    · rfl
    · next same =>
      rw [same] at shown
      simpa [point] using shown
    · next same =>
      rw [same] at shown
      simpa [point] using shown

theorem visible_floatText (x : Float) : (floatText x).all isVisible = true := by
  rw [floatText]
  split
  · decide
  · rw [visible_signed]
    decide
  · rw [shortestText, visible_signed]
    split
    · decide
    · exact visible_layout plainLayout _ _

theorem visible_intText (n : Int) : (intText n).all isVisible = true := by
  rw [intText, visible_signed, visible_toDigits]

/-! ### Texts -/

theorem visible_unitEscape {unit : Nat} (small : unit < 0x10000) :
    (unitEscape unit).all isVisible = true := by
  have digit : ∀ d < 16, isVisible d.digitChar = true := by decide
  have last (n : Nat) : isVisible (n % 16).digitChar = true :=
    digit _ (Nat.mod_lt n (by decide))
  rw [unitEscape, hexDigits_four small]
  simp only [List.all_cons, List.all_nil, last, digit (unit / 4096) (by omega)]
  rfl

theorem visible_codeEscape (c : Char) : (codeEscape c.toNat).all isVisible = true := by
  have range := char_not_surrogate c
  by_cases small : c.toNat < 0x10000
  · rw [codeEscape, if_pos small]
    exact visible_unitEscape small
  · rw [codeEscape, if_neg small, List.all_append, visible_unitEscape (by omega),
      visible_unitEscape (by omega)]
    rfl

theorem written_escapeChar (c : Char) : (escapeChar c).all isWritten = true := by
  unfold escapeChar
  split
  · rfl
  split
  · rfl
  split
  · rfl
  split
  · rfl
  split
  · rfl
  split
  · rfl
  split
  · rfl
  split
  · next shown => simp [isWritten, shown]
  · exact written_of_visible (visible_codeEscape c)

theorem written_quoted (s : String) : (quoted s).all isWritten = true := by
  have escaped : (s.toList.flatMap escapeChar).all isWritten = true := by
    simp [List.all_flatMap, written_escapeChar]
  rw [quoted, List.cons_append, List.all_cons, List.all_append, escaped]
  rfl

/-! ### Documents -/

@[simp] theorem written_newline (spacing : Spacing) : spacing.newline.all isWritten = true := by
  cases spacing with
  | line => rfl
  | block step depth =>
    rw [Spacing.newline, List.all_cons, List.all_replicate, show isWritten ' ' = true from rfl]
    split <;> rfl

@[simp] theorem written_comma (spacing : Spacing) : spacing.comma.all isWritten = true := by
  cases spacing with
  | line => rfl
  | block step depth =>
    rw [Spacing.comma, List.all_cons, written_newline]
    rfl

end CodeAtlas.Document
