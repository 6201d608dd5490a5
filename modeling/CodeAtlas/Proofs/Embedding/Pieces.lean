import CodeAtlas.Embedding.Tokens
import CodeAtlas.Pattern.Reader
import CodeAtlas.Proofs.Pattern.CharSet
import CodeAtlas.Proofs.Pattern.Greedy
import CodeAtlas.Source.Shape

set_option autoImplicit false

/-! The pieces of a run of letters and digits, and the written shape that finds them. -/

namespace CodeAtlas.Embedding

open CodeAtlas.Pattern CodeAtlas.Source CodeAtlas.Text

theorem isLowerLetter_iff (c : Char) :
    isLowerLetter c = true ↔ 97 ≤ c.toNat ∧ c.toNat ≤ 122 := by
  rw [isLowerLetter, Bool.and_eq_true, decide_eq_true_iff, decide_eq_true_iff]
  rfl

theorem isUpperLetter_iff (c : Char) : isUpperLetter c = true ↔ 65 ≤ c.toNat ∧ c.toNat ≤ 90 := by
  rw [isUpperLetter, Bool.and_eq_true, decide_eq_true_iff, decide_eq_true_iff]
  rfl

theorem isNumeral_iff (c : Char) : isNumeral c = true ↔ 48 ≤ c.toNat ∧ c.toNat ≤ 57 := by
  rw [isNumeral, Bool.and_eq_true, decide_eq_true_iff, decide_eq_true_iff]
  rfl

section

variable {c : Char}

theorem lower_apart (lower : isLowerLetter c = true) :
    isUpperLetter c = false ∧ isNumeral c = false := by
  rw [isLowerLetter_iff] at lower
  simp only [← Bool.not_eq_true, isUpperLetter_iff, isNumeral_iff]
  omega

theorem upper_apart (upper : isUpperLetter c = true) :
    isLowerLetter c = false ∧ isNumeral c = false := by
  rw [isUpperLetter_iff] at upper
  simp only [← Bool.not_eq_true, isLowerLetter_iff, isNumeral_iff]
  omega

theorem numeral_apart (numeral : isNumeral c = true) :
    isLowerLetter c = false ∧ isUpperLetter c = false := by
  rw [isNumeral_iff] at numeral
  simp only [← Bool.not_eq_true, isLowerLetter_iff, isUpperLetter_iff]
  omega

theorem tokenChar_cases (token : isTokenChar c = true) :
    isLowerLetter c = true ∨ isUpperLetter c = true ∨ isNumeral c = true := by
  simpa [isTokenChar, or_assoc] using token

theorem joins_lower (lower : isLowerLetter c = true) (d : Char) (rest : List Char) :
    joins c (d :: rest) = isLowerLetter d := by
  simp [joins, lower, (lower_apart lower).2]

theorem joins_upper (upper : isUpperLetter c = true) (d : Char) (rest : List Char) :
    joins c (d :: rest) =
      (isLowerLetter d || (isUpperLetter d && !(rest.head?.any isLowerLetter))) := by
  simp [joins, (upper_apart upper).1, (upper_apart upper).2]

theorem joins_numeral (numeral : isNumeral c = true) (d : Char) (rest : List Char) :
    joins c (d :: rest) = isNumeral d := by
  simp [joins, numeral]

end

/-- Behind capitals no lower-case letter stands, nor a capital that belongs to lower-case letters. -/
def EndsCapitals (left : List Char) : Prop :=
  ∀ c rest, left = c :: rest → isLowerLetter c = false ∧
    (isUpperLetter c = true → rest.head?.any isLowerLetter = true)

/-- A piece and what is left of the run behind it. The piece could not be longer. -/
inductive Lead : List Char → List Char → Prop
  | digits {piece left : List Char} (nonempty : piece ≠ [])
      (numerals : ∀ c ∈ piece, isNumeral c = true)
      (ends : ∀ c ∈ left.head?, isNumeral c = false) : Lead piece left
  | small {piece left : List Char} (nonempty : piece ≠ [])
      (letters : ∀ c ∈ piece, isLowerLetter c = true)
      (ends : ∀ c ∈ left.head?, isLowerLetter c = false) : Lead piece left
  | capital {c : Char} {word left : List Char} (upper : isUpperLetter c = true)
      (nonempty : word ≠ []) (letters : ∀ d ∈ word, isLowerLetter d = true)
      (ends : ∀ d ∈ left.head?, isLowerLetter d = false) : Lead (c :: word) left
  | capitals {piece left : List Char} (nonempty : piece ≠ [])
      (letters : ∀ c ∈ piece, isUpperLetter c = true) (ends : EndsCapitals left) : Lead piece left

/-- A run as its pieces, from left to right. -/
inductive Cut : List Char → List (List Char) → Prop
  | nil : Cut [] []
  | cons {piece left : List Char} {pieces : List (List Char)} (lead : Lead piece left)
      (rest : Cut left pieces) : Cut (piece ++ left) (piece :: pieces)

section

variable {c : Char} {piece left : List Char}

theorem Lead.nonempty (lead : Lead piece left) : piece ≠ [] := by
  cases lead with
  | digits nonempty => exact nonempty
  | small nonempty => exact nonempty
  | capital => exact List.cons_ne_nil _ _
  | capitals nonempty => exact nonempty

-- A character that does not belong to the piece behind it is a piece of its own.
theorem Lead.alone (token : isTokenChar c = true) (apart : joins c left = false) :
    Lead [c] left := by
  have only {p : Char → Bool} (held : p c = true) : ∀ d ∈ [c], p d = true := by simpa using held
  have nonempty : [c] ≠ [] := List.cons_ne_nil c []
  rcases tokenChar_cases token with lower | upper | numeral
  · refine .small nonempty (only lower) fun d start => ?_
    obtain ⟨rest, rfl⟩ := List.head?_eq_some_iff.mp start
    rwa [joins_lower lower] at apart
  · refine .capitals nonempty (only upper) fun d rest start => ?_
    rw [start, joins_upper upper, Bool.or_eq_false_iff] at apart
    refine ⟨apart.1, fun capital => ?_⟩
    simpa [capital] using apart.2
  · refine .digits nonempty (only numeral) fun d start => ?_
    obtain ⟨rest, rfl⟩ := List.head?_eq_some_iff.mp start
    rwa [joins_numeral numeral] at apart

theorem joins_append (token : isTokenChar c = true) (nonempty : piece ≠ [])
    (apart : joins c piece = false) : joins c (piece ++ left) = false := by
  obtain ⟨d, rest, rfl⟩ := List.exists_cons_of_ne_nil nonempty
  rw [List.cons_append]
  rcases tokenChar_cases token with lower | upper | numeral
  · rwa [joins_lower lower] at apart ⊢
  · rw [joins_upper upper, Bool.or_eq_false_iff] at apart ⊢
    refine ⟨apart.1, ?_⟩
    cases rest with
    | nil =>
      have single : isUpperLetter d = false := by simpa using apart.2
      rw [single, Bool.false_and]
    | cons e rest => exact apart.2
  · rwa [joins_numeral numeral] at apart ⊢

theorem Lead.joined (token : isTokenChar c = true) (lead : Lead piece left)
    (joined : joins c piece = true) : Lead (c :: piece) left := by
  have longer : c :: piece ≠ [] := List.cons_ne_nil c piece
  cases lead with
  | digits nonempty numerals ends =>
    obtain ⟨d, rest, rfl⟩ := List.exists_cons_of_ne_nil nonempty
    have apart := numeral_apart (numerals d List.mem_cons_self)
    rcases tokenChar_cases token with lower | upper | numeral
    · simp [joins_lower lower, apart] at joined
    · simp [joins_upper upper, apart] at joined
    · exact .digits longer (List.forall_mem_cons.mpr ⟨numeral, numerals⟩) ends
  | small nonempty letters ends =>
    obtain ⟨d, rest, rfl⟩ := List.exists_cons_of_ne_nil nonempty
    have apart := lower_apart (letters d List.mem_cons_self)
    rcases tokenChar_cases token with lower | upper | numeral
    · exact .small longer (List.forall_mem_cons.mpr ⟨lower, letters⟩) ends
    · exact .capital upper nonempty letters ends
    · simp [joins_numeral numeral, apart] at joined
  | @capital d word _ capital nonempty letters ends =>
    obtain ⟨e, rest, rfl⟩ := List.exists_cons_of_ne_nil nonempty
    have apart := upper_apart capital
    rcases tokenChar_cases token with lower | upper | numeral
    · simp [joins_lower lower, apart] at joined
    · simp [joins_upper upper, apart, letters e List.mem_cons_self] at joined
    · simp [joins_numeral numeral, apart] at joined
  | capitals nonempty letters ends =>
    obtain ⟨d, rest, rfl⟩ := List.exists_cons_of_ne_nil nonempty
    have apart := upper_apart (letters d List.mem_cons_self)
    rcases tokenChar_cases token with lower | upper | numeral
    · simp [joins_lower lower, apart] at joined
    · exact .capitals longer (List.forall_mem_cons.mpr ⟨upper, letters⟩) ends
    · simp [joins_numeral numeral, apart] at joined

end

theorem cut_pieces {run : List Char} (chars : ∀ c ∈ run, isTokenChar c = true) :
    Cut run (pieces run) := by
  induction run with
  | nil => exact .nil
  | cons c rest ih =>
    have token := chars c List.mem_cons_self
    have later := ih fun d member => chars d (List.mem_cons_of_mem c member)
    rw [pieces]
    generalize pieces rest = cut at later
    cases later with
    | nil => exact .cons (.alone token rfl) .nil
    | @cons piece left more lead behind =>
      simp only
      split
      next joined => exact .cons (lead.joined token joined) behind
      next apart =>
        have alone : joins c (piece ++ left) = false :=
          joins_append token lead.nonempty (by simpa using apart)
        exact .cons (.alone token alone) (.cons lead behind)

theorem Cut.flatten {run : List Char} {pieces : List (List Char)} (cut : Cut run pieces) :
    pieces.flatten = run := by
  induction cut with
  | nil => rfl
  | cons _ _ ih => rw [List.flatten_cons, ih]

/-- Digits, capitals, or lower-case letters with at most one capital in front. -/
def IsPiece (piece : List Char) : Prop :=
  piece ≠ [] ∧
    ((∀ c ∈ piece, isNumeral c = true) ∨ (∀ c ∈ piece, isUpperLetter c = true) ∨
      ∃ front word, piece = front ++ word ∧ front.length ≤ 1 ∧
        (∀ c ∈ front, isUpperLetter c = true) ∧ word ≠ [] ∧ ∀ c ∈ word, isLowerLetter c = true)

theorem Lead.isPiece {piece left : List Char} (lead : Lead piece left) : IsPiece piece := by
  refine ⟨lead.nonempty, ?_⟩
  cases lead with
  | digits _ numerals _ => exact .inl numerals
  | small nonempty letters _ =>
    exact .inr (.inr ⟨[], piece, rfl, Nat.zero_le 1, by simp, nonempty, letters⟩)
  | @capital c word _ upper nonempty letters _ =>
    exact .inr (.inr ⟨[c], word, rfl, Nat.le_refl 1, by simpa using upper, nonempty, letters⟩)
  | capitals _ letters _ => exact .inr (.inl letters)

theorem Cut.isPiece {run : List Char} {pieces : List (List Char)} (cut : Cut run pieces)
    {piece : List Char} (member : piece ∈ pieces) : IsPiece piece := by
  induction cut with
  | nil => cases member
  | cons lead _ ih =>
    cases member with
    | head => exact lead.isPiece
    | tail _ later => exact ih later

def upperSet : CharSet :=
  Shape.setOf [Shape.upperLetters]

def lowerSet : CharSet :=
  Shape.setOf [Shape.lowerLetters]

def digitSet : CharSet :=
  Shape.setOf [.named true .digit]

def wordShape : Pattern :=
  .seq (Shape.maybe (.set upperSet)) (Shape.several (.set lowerSet))

def capitalsShape : Pattern :=
  .seq (Shape.several (.set upperSet)) (.ahead false (.set lowerSet))

def digitsShape : Pattern :=
  Shape.several (.set digitSet)

/-- Lower-case letters with perhaps a capital in front, else capitals with no lower-case letter behind
them, else digits. -/
def pieceShape : Pattern :=
  Shape.oneOf [wordShape, capitalsShape, digitsShape]

example : Pattern.read {} "[A-Z]?[a-z]+|[A-Z]+(?![a-z])|\\d+".toList = .ok pieceShape := by cbv

theorem upperSet_holds (c : Char) : upperSet.holds c = isUpperLetter c := by
  rw [Bool.eq_iff_iff, isUpperLetter_iff]
  simp only [CharSet.holds, upperSet, Shape.setOf, Shape.upperLetters, CharSet.itemHolds,
    Folding.fold, List.any_cons, List.any_nil, Bool.or_false, beq_true]
  exact exact_within c 'A' 'Z'

theorem lowerSet_holds (c : Char) : lowerSet.holds c = isLowerLetter c := by
  rw [Bool.eq_iff_iff, isLowerLetter_iff]
  simp only [CharSet.holds, lowerSet, Shape.setOf, Shape.lowerLetters, CharSet.itemHolds,
    Folding.fold, List.any_cons, List.any_nil, Bool.or_false, beq_true]
  exact exact_within c 'a' 'z'

-- The digits of all scripts are taken, but among letters and digits of ASCII there are no others.
theorem digitSet_holds {c : Char} (token : isTokenChar c = true) :
    digitSet.holds c = isNumeral c := by
  have ascii : c.toNat < 128 := by
    rcases tokenChar_cases token with lower | upper | numeral
    · rw [isLowerLetter_iff] at lower
      omega
    · rw [isUpperLetter_iff] at upper
      omega
    · rw [isNumeral_iff] at numeral
      omega
  have holds : digitSet.holds c = (digit? c).isSome := by
    simp [CharSet.holds, digitSet, Shape.setOf, CharSet.itemHolds, Folding.fold, NamedClass.holds,
      isDigit]
  rw [holds, digit?, if_pos ascii, asciiDigit?]
  cases numeral : isNumeral c <;> simp_all [isNumeral]

section

variable {α : Type} (before : List Char) (groups : List (Nat × List Char)) (answer : Cursor → α)

theorem run_small {piece left : List Char} (nonempty : piece ≠ [])
    (letters : ∀ c ∈ piece, isLowerLetter c = true)
    (ends : ∀ c ∈ left.head?, isLowerLetter c = false) :
    run (Shape.several (.set lowerSet)) (.between before (piece ++ left) groups)
        (fun stop => some (answer stop)) =
      some (answer (.between (piece.reverse ++ before) left groups)) := by
  simp only [← lowerSet_holds] at letters ends
  exact run_several_longest nonempty letters ends before groups answer

theorem run_word_small {piece left : List Char} (nonempty : piece ≠ [])
    (letters : ∀ c ∈ piece, isLowerLetter c = true)
    (ends : ∀ c ∈ left.head?, isLowerLetter c = false) :
    run wordShape (.between before (piece ++ left) groups) (fun stop => some (answer stop)) =
      some (answer (.between (piece.reverse ++ before) left groups)) := by
  have taken := run_small before groups answer nonempty letters ends
  obtain ⟨c, rest, rfl⟩ := List.exists_cons_of_ne_nil nonempty
  have apart := (lower_apart (letters c List.mem_cons_self)).1
  rw [List.cons_append] at taken ⊢
  rw [wordShape, run_seq, Shape.maybe, run_maybe_cons, upperSet_holds, apart, taken]
  rfl

theorem run_word_capital {c : Char} {word left : List Char} (upper : isUpperLetter c = true)
    (nonempty : word ≠ []) (letters : ∀ d ∈ word, isLowerLetter d = true)
    (ends : ∀ d ∈ left.head?, isLowerLetter d = false) :
    run wordShape (.between before (c :: (word ++ left)) groups) (fun stop => some (answer stop)) =
      some (answer (.between (word.reverse ++ c :: before) left groups)) := by
  have taken := run_small (c :: before) groups answer nonempty letters ends
  rw [wordShape, run_seq, Shape.maybe, run_maybe_cons, upperSet_holds, if_pos upper, taken]
  rfl

-- No lower-case letter stands first, nor second behind a capital.
theorem run_word_none {c : Char} {after : List Char} (other : isLowerLetter c = false)
    (second : isUpperLetter c = true → ∀ d ∈ after.head?, isLowerLetter d = false)
    (next : Cursor → Option α) :
    run wordShape (.between before (c :: after) groups) next = none := by
  have here : run (Shape.several (.set lowerSet)) (.between before (c :: after) groups) next = none :=
    run_several_ended (by simpa [lowerSet_holds] using other) before groups next
  rw [wordShape, run_seq, Shape.maybe, run_maybe_cons, upperSet_holds, here]
  split
  next upper =>
    have ends := second upper
    simp only [← lowerSet_holds] at ends
    exact congrArg (Option.or · none) (run_several_ended ends (c :: before) groups next)
  next => rfl

-- Capitals give the last of them back if a lower-case letter follows it.
theorem run_capitals {piece left : List Char} (nonempty : piece ≠ [])
    (letters : ∀ c ∈ piece, isUpperLetter c = true) (ends : EndsCapitals left) :
    run capitalsShape (.between before (piece ++ left) groups) (fun stop => some (answer stop)) =
      some (answer (.between (piece.reverse ++ before) left groups)) := by
  obtain ⟨c, rest, rfl⟩ := List.exists_cons_of_ne_nil nonempty
  simp only [← upperSet_holds] at letters
  have later := fun d member => letters d (List.mem_cons_of_mem c member)
  obtain ⟨nearer, split⟩ := stops_append later (c :: before) left groups
  rw [capitalsShape, run_seq, Shape.several, List.cons_append, run_several_stops,
    if_pos (letters c List.mem_cons_self), split]
  cases left with
  | nil => simp [stops, run_not_ahead]
  | cons d left =>
    obtain ⟨other, second⟩ := ends d left rfl
    by_cases upper : isUpperLetter d = true
    · obtain ⟨e, behind, rfl⟩ : ∃ e behind, left = e :: behind := by
        cases left with
        | nil => simp [upper] at second
        | cons e behind => exact ⟨e, behind, rfl⟩
      have lower : isLowerLetter e = true := by simpa using second upper
      simp [stops, run_not_ahead, upperSet_holds, lowerSet_holds, upper, lower,
        (lower_apart lower).1, other]
    · simp [stops, run_not_ahead, upperSet_holds, lowerSet_holds, upper, other]

theorem run_capitals_none {c : Char} {after : List Char} (other : isUpperLetter c = false)
    (next : Cursor → Option α) :
    run capitalsShape (.between before (c :: after) groups) next = none := by
  rw [capitalsShape, run_seq, Shape.several, run_several_stops, upperSet_holds, other]
  rfl

theorem run_digits {piece left : List Char}
    (chars : ∀ c ∈ piece ++ left, isTokenChar c = true) (nonempty : piece ≠ [])
    (numerals : ∀ c ∈ piece, isNumeral c = true)
    (ends : ∀ c ∈ left.head?, isNumeral c = false) :
    run digitsShape (.between before (piece ++ left) groups) (fun stop => some (answer stop)) =
      some (answer (.between (piece.reverse ++ before) left groups)) := by
  refine run_several_longest nonempty (fun c member => ?_) (fun c start => ?_) before groups answer
  · rw [digitSet_holds (chars c (List.mem_append_left left member)), numerals c member]
  · have member : c ∈ left := List.mem_of_mem_head? start
    rw [digitSet_holds (chars c (List.mem_append_right piece member)), ends c start]

theorem run_pieceShape (cursor : Cursor) (next : Cursor → Option α) :
    run pieceShape cursor next =
      (run wordShape cursor next).or ((run capitalsShape cursor next).or
        (run digitsShape cursor next)) := by
  have shape : pieceShape = .choice wordShape (.choice capitalsShape digitsShape) := rfl
  simp only [shape, run, Option.orElse_eq_orElse, Option.orElse_eq_or]

-- The shape takes the piece that leads.
theorem run_piece {piece left : List Char} (lead : Lead piece left)
    (chars : ∀ c ∈ piece ++ left, isTokenChar c = true) :
    run pieceShape (.between before (piece ++ left) groups) (fun stop => some (answer stop)) =
      some (answer (.between (piece.reverse ++ before) left groups)) := by
  rw [run_pieceShape]
  cases lead with
  | small nonempty letters ends =>
    rw [run_word_small before groups answer nonempty letters ends, Option.some_or]
  | @capital c word _ upper nonempty letters ends =>
    rw [List.cons_append, run_word_capital before groups answer upper nonempty letters ends,
      Option.some_or]
    simp
  | capitals nonempty letters ends =>
    have taken := run_capitals before groups answer nonempty letters ends
    obtain ⟨c, rest, rfl⟩ := List.exists_cons_of_ne_nil nonempty
    have second : ∀ d ∈ (rest ++ left).head?, isLowerLetter d = false := by
      cases rest with
      | nil =>
        intro d start
        obtain ⟨behind, split⟩ := List.head?_eq_some_iff.mp start
        exact (ends d behind split).1
      | cons d rest =>
        have upper := letters d (List.mem_cons_of_mem c List.mem_cons_self)
        simpa using (upper_apart upper).1
    have other := (upper_apart (letters c List.mem_cons_self)).1
    rw [List.cons_append] at taken ⊢
    rw [run_word_none before groups other fun _ => second, Option.none_or, taken, Option.some_or]
  | digits nonempty numerals ends =>
    have taken := run_digits before groups answer chars nonempty numerals ends
    obtain ⟨c, rest, rfl⟩ := List.exists_cons_of_ne_nil nonempty
    have apart := numeral_apart (numerals c List.mem_cons_self)
    rw [List.cons_append] at taken ⊢
    rw [run_word_none before groups apart.1 (by simp [apart.2]), Option.none_or,
      run_capitals_none before groups apart.2, Option.none_or, taken]

end

theorem findAllFrom_cut {run : List Char} {pieces : List (List Char)} (cut : Cut run pieces)
    (chars : ∀ c ∈ run, isTokenChar c = true) (fuel : Nat) (before : List Char)
    (groups : List (Nat × List Char)) (enough : run.length < fuel) :
    (findAllFrom pieceShape fuel (.between before run groups)).map (·.text) = pieces := by
  induction cut generalizing fuel before groups with
  | nil =>
    obtain ⟨fuel, rfl⟩ := Nat.exists_eq_add_one.mpr enough
    rfl
  | @cons piece left pieces lead _ ih =>
    obtain ⟨fuel, rfl⟩ := Nat.exists_eq_add_one.mpr (Nat.zero_lt_of_lt enough)
    have size := List.length_pos_iff.mpr lead.nonempty
    rw [List.length_append] at enough
    let start := Cursor.between before (piece ++ left) groups
    let stop := Cursor.between (piece.reverse ++ before) left []
    have here : matchAt pieceShape start = some ⟨start, stop⟩ :=
      run_piece before [] (fun stop => (⟨start, stop⟩ : Match)) lead chars
    have found : findNext pieceShape start = some ⟨start, stop⟩ := by
      rw [findNext, findFrom, here]
    have taken : Passes start piece stop := by simp [Passes, start, stop, Cursor.between]
    have moved : (stop.index == start.index) = false := by
      rw [taken.index_eq]
      simpa using lead.nonempty
    have goes : resume ⟨start, stop⟩ = some stop := by
      rw [resume, moved]
      rfl
    have later := ih (fun c member => chars c (List.mem_append_right piece member)) fuel
      (piece.reverse ++ before) [] (by omega)
    rw [findAllFrom, found]
    simp only [goes, List.map_cons]
    rw [later]
    exact congrArg (· :: pieces) taken.upTo_eq

-- What the shape finds in a run, one after the other, are the pieces of the run.
theorem findAll_pieces {run : List Char} (chars : ∀ c ∈ run, isTokenChar c = true) :
    (pieceShape.findAll run).map (·.text) = pieces run :=
  findAllFrom_cut (cut_pieces chars) chars (run.length + 1) [] [] (Nat.lt_succ_self _)

end CodeAtlas.Embedding
