import CodeAtlas.Proofs.Document.Numeral

set_option autoImplicit false

/-! Texts in JSON text: what an escape stands for is the character that was escaped. -/

namespace CodeAtlas.Document

open CodeAtlas.Number

/-! ### Units -/

theorem hexDigit?_digitChar : ∀ d < 16, hexDigit? d.digitChar = some d := by
  decide

theorem hexDigits_four {n : Nat} (small : n < 0x10000) :
    hexDigits 4 n = [(n / 4096).digitChar, (n / 256 % 16).digitChar, (n / 16 % 16).digitChar,
      (n % 16).digitChar] := by
  have digits (m : Nat) : Nat.toDigits 16 m =
      if m < 16 then [m.digitChar] else Nat.toDigits 16 (m / 16) ++ [(m % 16).digitChar] :=
    Nat.toDigits_eq_if (by decide)
  rw [hexDigits, padLeft]
  by_cases one : n < 16
  · have zeros : n / 4096 = 0 ∧ n / 256 % 16 = 0 ∧ n / 16 % 16 = 0 ∧ n % 16 = n := by omega
    rw [digits n, if_pos one, zeros.1, zeros.2.1, zeros.2.2.1, zeros.2.2.2]
    rfl
  by_cases two : n < 256
  · have zeros : n / 4096 = 0 ∧ n / 256 % 16 = 0 ∧ n / 16 % 16 = n / 16 := by omega
    have next : n / 16 < 16 := by omega
    rw [digits n, if_neg one, digits (n / 16), if_pos next, zeros.1, zeros.2.1, zeros.2.2]
    rfl
  by_cases three : n < 4096
  · have zeros : n / 4096 = 0 ∧ n / 256 % 16 = n / 16 / 16 := by omega
    have second : ¬ n / 16 < 16 := by omega
    have third : n / 16 / 16 < 16 := by omega
    rw [digits n, if_neg one, digits (n / 16), if_neg second, digits (n / 16 / 16), if_pos third,
      zeros.1, zeros.2]
    rfl
  · have parts : n / 4096 = n / 16 / 16 / 16 ∧ n / 256 % 16 = n / 16 / 16 % 16 := by omega
    have second : ¬ n / 16 < 16 := by omega
    have third : ¬ n / 16 / 16 < 16 := by omega
    have fourth : n / 16 / 16 / 16 < 16 := by omega
    rw [digits n, if_neg one, digits (n / 16), if_neg second, digits (n / 16 / 16), if_neg third,
      digits (n / 16 / 16 / 16), if_pos fourth, parts.1, parts.2]
    rfl

theorem unit?_hexDigits {n : Nat} (small : n < 0x10000) (next : Char) (rest : List Char) :
    unit? (hexDigits 4 n ++ next :: rest) = some (n, next :: rest) := by
  rw [hexDigits_four small]
  simp only [List.cons_append, List.nil_append, unit?, hexDigit?_digitChar (n / 4096) (by omega),
    hexDigit?_digitChar _ (Nat.mod_lt _ (show 0 < 16 by decide)), bind, Option.bind, pure]
  have same : ((n / 4096 * 16 + n / 256 % 16) * 16 + n / 16 % 16) * 16 + n % 16 = n := by omega
  rw [same]

theorem readEscape_unit {n : Nat} (small : n < 0x10000) (start index : Nat) (next : Char)
    (rest : List Char) :
    readEscape start index ('u' :: (hexDigits 4 n ++ next :: rest)) =
      if isHighUnit n then readLowUnit index n (next :: rest)
      else .char (unitChar n) 5 (next :: rest) := by
  rw [readEscape, unit?_hexDigits small]

theorem readLowUnit_unit {low : Nat} (range : isLowUnit low = true) (index high : Nat) (next : Char)
    (rest : List Char) :
    readLowUnit index high (unitEscape low ++ next :: rest) =
      .char (Char.ofNat (0x10000 + (high - 0xd800) * 1024 + (low - 0xdc00))) 11 (next :: rest) := by
  have small : low < 0x10000 := by
    simp only [isLowUnit, Bool.and_eq_true, decide_eq_true_eq] at range
    omega
  have read := unit?_hexDigits small next rest
  rw [hexDigits_four small] at read
  rw [unitEscape, hexDigits_four small]
  simp only [List.cons_append, List.nil_append] at read ⊢
  rw [readLowUnit, read]
  simp only [range, if_true]

theorem char_not_surrogate (c : Char) : c.toNat < 0xd800 ∨ 0xe000 ≤ c.toNat ∧ c.toNat < 0x110000 := by
  have valid := c.valid
  simp only [UInt32.isValidChar, Nat.isValidChar] at valid
  have same : c.toNat = c.val.toNat := rfl
  omega

/-! ### Escapes -/

/-- What stands behind a backslash for a character. -/
def Escapes (c : Char) (body : List Char) : Prop :=
  ∀ start index next rest, ∃ taken,
    readEscape start index (body ++ next :: rest) = .char c taken (next :: rest)

theorem escapes_letter {letter c : Char} (meaning : escapeMeaning? letter = some c) :
    Escapes c [letter] := by
  have other : letter ≠ 'u' := by
    rintro rfl
    cases meaning
  intro start index next rest
  exact ⟨1, by simp [readEscape, meaning]⟩

theorem escapes_unit {c : Char} (small : c.toNat < 0x10000) :
    Escapes c ('u' :: hexDigits 4 c.toNat) := by
  have range := char_not_surrogate c
  have plain : isHighUnit c.toNat = false := by
    simp only [isHighUnit, Bool.and_eq_false_iff, decide_eq_false_iff_not]
    omega
  have whole : ¬ (0xd800 ≤ c.toNat && c.toNat < 0xe000) = true := by
    simp only [Bool.and_eq_true, decide_eq_true_eq]
    omega
  intro start index next rest
  refine ⟨5, ?_⟩
  rw [List.cons_append, readEscape_unit small, plain, unitChar, if_neg whole, Char.ofNat_toNat]
  rfl

theorem unitEscape_append (unit : Nat) (rest : List Char) :
    unitEscape unit ++ rest = '\\' :: 'u' :: (hexDigits 4 unit ++ rest) :=
  rfl

-- A character beyond the first 65536 is written as two units.
theorem escapes_pair {c : Char} (large : 0x10000 ≤ c.toNat) :
    Escapes c ('u' :: (hexDigits 4 (0xd800 + (c.toNat - 0x10000) / 1024) ++
      unitEscape (0xdc00 + (c.toNat - 0x10000) % 1024))) := by
  have range := char_not_surrogate c
  have small : 0xd800 + (c.toNat - 0x10000) / 1024 < 0x10000 := by omega
  have high : isHighUnit (0xd800 + (c.toNat - 0x10000) / 1024) = true := by
    simp only [isHighUnit, Bool.and_eq_true, decide_eq_true_eq]
    omega
  have low : isLowUnit (0xdc00 + (c.toNat - 0x10000) % 1024) = true := by
    simp only [isLowUnit, Bool.and_eq_true, decide_eq_true_eq]
    omega
  have same : 0x10000 + (0xd800 + (c.toNat - 0x10000) / 1024 - 0xd800) * 1024 +
      (0xdc00 + (c.toNat - 0x10000) % 1024 - 0xdc00) = c.toNat := by
    omega
  intro start index next rest
  refine ⟨11, ?_⟩
  have second := readLowUnit_unit low index (0xd800 + (c.toNat - 0x10000) / 1024) next rest
  rw [same, Char.ofNat_toNat] at second
  rw [unitEscape_append] at second
  rw [List.cons_append, List.append_assoc, unitEscape_append, readEscape_unit small, high,
    if_pos rfl, second]

theorem codeEscape_escapes (c : Char) :
    ∃ body, codeEscape c.toNat = '\\' :: body ∧ Escapes c body := by
  by_cases small : c.toNat < 0x10000
  · rw [codeEscape, if_pos small]
    exact ⟨_, rfl, escapes_unit small⟩
  · rw [codeEscape, if_neg small]
    exact ⟨_, unitEscape_append _ _, escapes_pair (Nat.not_lt.mp small)⟩

/-- A character stands for itself, or behind a backslash there is what stands for it. -/
theorem escapeChar_cases (c : Char) :
    (escapeChar c = [c] ∧ c ≠ '"' ∧ c ≠ '\\' ∧ 32 ≤ c.toNat ∧ c.toNat < 127) ∨
      ∃ body, escapeChar c = '\\' :: body ∧ Escapes c body := by
  unfold escapeChar
  split
  · next same => exact .inr ⟨['"'], rfl, by rw [same]; exact escapes_letter rfl⟩
  split
  · next same => exact .inr ⟨['\\'], rfl, by rw [same]; exact escapes_letter rfl⟩
  split
  · next same => exact .inr ⟨['n'], rfl, by rw [same]; exact escapes_letter rfl⟩
  split
  · next same => exact .inr ⟨['r'], rfl, by rw [same]; exact escapes_letter rfl⟩
  split
  · next same => exact .inr ⟨['t'], rfl, by rw [same]; exact escapes_letter rfl⟩
  split
  · next same => exact .inr ⟨['f'], rfl, by rw [same]; exact escapes_letter rfl⟩
  split
  · next same => exact .inr ⟨['b'], rfl, by rw [same]; exact escapes_letter rfl⟩
  split
  · next quote backslash _ _ _ _ _ shown =>
    simp only [Bool.and_eq_true, decide_eq_true_eq] at shown
    exact .inl ⟨rfl, quote, backslash, shown⟩
  · exact .inr (codeEscape_escapes c)

/-! ### Texts -/

theorem readText_escapeChar (c : Char) (start fuel index : Nat) (taken : List Char) (next : Char)
    (rest : List Char) :
    ∃ later, readText start (fuel + 1) taken ⟨escapeChar c ++ next :: rest, index⟩ =
      readText start fuel (c :: taken) ⟨next :: rest, later⟩ := by
  obtain ⟨plain, quote, backslash, shown, -⟩ | ⟨body, same, escapes⟩ := escapeChar_cases c
  · have visible : ¬ c.toNat < 32 := Nat.not_lt.mpr shown
    refine ⟨index + 1, ?_⟩
    rw [plain, List.singleton_append]
    simp [readText, visible]
  · obtain ⟨count, read⟩ := escapes start index next rest
    refine ⟨index + 1 + count, ?_⟩
    rw [same, List.cons_append, readText, read]

theorem readText_chars (chars : List Char) (start fuel index : Nat) (taken rest : List Char)
    (enough : chars.length < fuel) :
    Reads (readText start fuel taken ⟨chars.flatMap escapeChar ++ '"' :: rest, index⟩)
      (String.ofList (taken.reverse ++ chars)) rest := by
  induction chars generalizing fuel index taken with
  | nil =>
    obtain ⟨fuel, rfl⟩ := Nat.exists_eq_succ_of_ne_zero (Nat.ne_of_gt enough)
    exact ⟨index + 1, by simp [readText]⟩
  | cons c chars ih =>
    rw [List.length_cons] at enough
    obtain ⟨fuel, rfl⟩ := Nat.exists_eq_succ_of_ne_zero (Nat.ne_zero_of_lt enough)
    obtain ⟨next, more, same⟩ : ∃ next more, chars.flatMap escapeChar ++ '"' :: rest = next :: more :=
      List.exists_cons_of_ne_nil (by simp)
    obtain ⟨later, read⟩ := readText_escapeChar c start fuel index taken next more
    have step := ih fuel later (c :: taken) (Nat.lt_of_succ_lt_succ enough)
    rw [List.flatMap_cons, List.append_assoc, same, read, ← same]
    simpa using step

theorem length_le_escaped (chars : List Char) : chars.length ≤ (chars.flatMap escapeChar).length := by
  induction chars with
  | nil => exact Nat.le_refl 0
  | cons c chars ih =>
    have some : 0 < (escapeChar c).length := by
      obtain ⟨plain, -⟩ | ⟨body, same, -⟩ := escapeChar_cases c
      · rw [plain]
        exact Nat.one_pos
      · rw [same]
        exact Nat.succ_pos _
    rw [List.flatMap_cons, List.length_append, List.length_cons]
    omega

/-- A quoted text is read as the text. -/
theorem readText_quoted (s : String) (start index : Nat) (rest : List Char) :
    ∃ inner, quoted s ++ rest = '"' :: inner ∧
      Reads (readText start inner.length.succ [] ⟨inner, index⟩) s rest := by
  refine ⟨s.toList.flatMap escapeChar ++ '"' :: rest, by simp [quoted], ?_⟩
  have enough : s.toList.length < (s.toList.flatMap escapeChar ++ '"' :: rest).length.succ := by
    have bound := length_le_escaped s.toList
    rw [List.length_append]
    omega
  simpa using readText_chars s.toList start _ index [] rest enough

end CodeAtlas.Document
