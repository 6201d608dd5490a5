import CodeAtlas.Proofs.Number.Numeric

set_option autoImplicit false

/-! Which texts are read as a float that is no number: those that say so. -/

namespace CodeAtlas.Number

open CodeAtlas.Text

/-! ### Margins -/

theorem unmargined_split (text : List Char) :
    ∃ before behind, text = before ++ (unmargined text ++ behind) ∧
      (∀ c ∈ before, isMargin c = true) ∧ ∀ c ∈ behind, isMargin c = true := by
  let rest := text.dropWhile isMargin
  refine ⟨text.takeWhile isMargin, (rest.reverse.takeWhile isMargin).reverse, ?_, ?_, ?_⟩
  · rw [unmargined, ← List.reverse_append, List.takeWhile_append_dropWhile, List.reverse_reverse,
      List.takeWhile_append_dropWhile]
  · exact fun c member => List.mem_takeWhile_imp member
  · exact fun c member => List.mem_takeWhile_imp (List.mem_reverse.mp member)

theorem dropWhile_margin {before core : List Char} (gap : ∀ c ∈ before, isMargin c = true)
    (opens : ∀ c ∈ core.head?, isMargin c = false) : (before ++ core).dropWhile isMargin = core := by
  rw [List.dropWhile_append_of_pos gap]
  cases core with
  | nil => rfl
  | cons c rest => exact List.dropWhile_cons_of_neg (by simp [opens c rfl])

-- White space around a text goes away, and nothing of the text with it.
theorem unmargined_amid {before core behind : List Char} (some : core ≠ [])
    (plain : ∀ c ∈ core, isMargin c = false) (gap : ∀ c ∈ before, isMargin c = true)
    (space : ∀ c ∈ behind, isMargin c = true) : unmargined (before ++ (core ++ behind)) = core := by
  have opens : ∀ c ∈ (core ++ behind).head?, isMargin c = false := by
    rw [List.head?_append_of_ne_nil core some]
    exact fun c first => plain c (List.mem_of_mem_head? first)
  have ends : ∀ c ∈ core.reverse.head?, isMargin c = false :=
    fun c last => plain c (List.mem_reverse.mp (List.mem_of_mem_head? last))
  rw [unmargined, dropWhile_margin gap opens, List.reverse_append,
    dropWhile_margin (by simpa using space) ends, List.reverse_reverse]

/-! ### Signs -/

def signs : List (List Char) :=
  [[], ['-'], ['+']]

theorem readSign_split (text : List Char) : ∃ sign ∈ signs, text = sign ++ (readSign text).2 := by
  fun_cases readSign text with
  | case1 rest => exact ⟨['-'], by decide, rfl⟩
  | case2 rest => exact ⟨['+'], by decide, rfl⟩
  | case3 => exact ⟨[], by decide, rfl⟩

theorem readSign_append {sign word : List Char} (member : sign ∈ signs)
    (unsigned : ∀ c ∈ word.head?, c ≠ '-' ∧ c ≠ '+') : (readSign (sign ++ word)).2 = word := by
  simp only [signs, List.mem_cons, List.not_mem_nil, or_false] at member
  rcases member with rfl | rfl | rfl
  · rw [List.nil_append, readSign]
    · intro rest opens
      exact (unsigned '-' (by rw [opens]; rfl)).1 rfl
    · intro rest opens
      exact (unsigned '+' (by rw [opens]; rfl)).2 rfl
  · rfl
  · rfl

theorem sign_plain {sign : List Char} (member : sign ∈ signs) : ∀ c ∈ sign, isMargin c = false := by
  simp only [signs, List.mem_cons, List.not_mem_nil, or_false] at member
  rcases member with rfl | rfl | rfl <;> simp [isMargin, isBlank, inRanges, blankRanges]

/-! ### Letters -/

/-- A letter of ASCII, of either case. -/
def IsLetter (c : Char) : Prop :=
  'A' ≤ c ∧ c ≤ 'Z' ∨ 'a' ≤ c ∧ c ≤ 'z'

theorem IsLetter.plain {c : Char} (letter : IsLetter c) :
    isMargin c = false ∧ c ≠ '-' ∧ c ≠ '+' := by
  refine ⟨?_, ?_, ?_⟩
  · have code : 65 ≤ c.toNat ∧ c.toNat ≤ 90 ∨ 97 ≤ c.toNat ∧ c.toNat ≤ 122 := letter
    simp [isMargin, isBlank, inRanges, blankRanges]
    omega
  · rintro rfl
    exact absurd letter (by unfold IsLetter; decide)
  · rintro rfl
    exact absurd letter (by unfold IsLetter; decide)

-- What is a letter in lower case was one before.
theorem letters_of_lower {word : List Char} (lowered : ∀ c ∈ asciiLower word, 'a' ≤ c ∧ c ≤ 'z') :
    ∀ c ∈ word, IsLetter c := by
  intro c member
  have lower := lowered _ (List.mem_map_of_mem member)
  split at lower
  next upper => exact .inl (by simpa using upper)
  next => exact .inr lower

/-! ### No numbers -/

/-- The text says that it is no number: in letters of any case, perhaps behind a sign, perhaps with
white space around. -/
def SaysNaN (text : List Char) : Prop :=
  ∃ before sign word behind, text = before ++ (sign ++ word ++ behind) ∧ sign ∈ signs ∧
    asciiLower word = ['n', 'a', 'n'] ∧ (∀ c ∈ before, isMargin c = true) ∧
    ∀ c ∈ behind, isMargin c = true

theorem saysNaN_iff (text : List Char) :
    SaysNaN text ↔ asciiLower (readSign (unmargined text)).2 = ['n', 'a', 'n'] := by
  constructor
  · rintro ⟨before, sign, word, behind, rfl, member, named, gap, space⟩
    have letters : ∀ c ∈ word, IsLetter c := letters_of_lower (by simp [named])
    have some : word ≠ [] := by
      rintro rfl
      exact absurd named (by decide)
    have core : unmargined (before ++ (sign ++ word ++ behind)) = sign ++ word := by
      refine unmargined_amid (by simp [some]) ?_ gap space
      intro c inside
      rcases List.mem_append.mp inside with signed | spelled
      · exact sign_plain member c signed
      · exact (letters c spelled).plain.1
    have read : (readSign (sign ++ word)).2 = word :=
      readSign_append member fun c first => (letters c (List.mem_of_mem_head? first)).plain.2
    rw [core, read, named]
  · intro named
    obtain ⟨before, behind, apart, gap, space⟩ := unmargined_split text
    obtain ⟨sign, member, signed⟩ := readSign_split (unmargined text)
    refine ⟨before, sign, _, behind, ?_, member, named, gap, space⟩
    rwa [← signed]

theorem readDecimal_numeric {negative : Bool} {text : List Char} {x : Float}
    (read : readDecimal negative text = some x) : x.isNaN = false := by
  unfold readDecimal at read
  dsimp only at read
  split at read
  · cases read
  · split at read
    next exponent _ =>
      rw [← Option.some.inj read]
      exact nearestFloat_numeric _ _ _
    next => cases read

theorem infinite_numeric (negative : Bool) :
    (if negative then -infinity else infinity).isNaN = false := by
  cases negative <;> decide +kernel

/-- Only what says that it is no number is read as none. -/
theorem readFloat_isNaN (text : List Char) :
    (∃ x, readFloat text = some x ∧ x.isNaN = true) ↔ SaysNaN text := by
  rw [saysNaN_iff, readFloat]
  dsimp only
  have word (name : String) : (String.ofList (asciiLower (readSign (unmargined text)).2) == name) = true ↔
      asciiLower (readSign (unmargined text)).2 = name.toList := by
    rw [beq_iff_eq, ← String.toList_inj, String.toList_ofList]
  constructor
  · rintro ⟨x, read, none⟩
    split at read
    next =>
      rw [← Option.some.inj read, infinite_numeric] at none
      cases none
    next =>
      split at read
      next named => exact (word _).mp named
      next =>
        rw [readDecimal_numeric read] at none
        cases none
  · intro named
    rw [named]
    exact ⟨notANumber, rfl, by decide +kernel⟩

end CodeAtlas.Number
