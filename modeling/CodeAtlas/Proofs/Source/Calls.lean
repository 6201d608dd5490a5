import CodeAtlas.Proofs.Pattern.CharSet
import CodeAtlas.Proofs.Pattern.Greedy
import CodeAtlas.Proofs.Pattern.Matches
import CodeAtlas.Source.Extract
import Mathlib.Data.List.TakeWhile
import Mathlib.Tactic.Tauto

set_option autoImplicit false

/-! The names that are called in a text, read off the text character by character. The search finds
just these. -/

namespace CodeAtlas.Source

open CodeAtlas.Pattern CodeAtlas.Text

def isNameStart (c : Char) : Bool :=
  c.isAlpha || c = '_' || c = '$'

def isNameRest (c : Char) : Bool :=
  c.isAlphanum || c = '_' || c = '$'

-- Behind the rest of a name, and perhaps white space, stands a parenthesis.
def callFollows (rest : List Char) : Bool :=
  ((rest.dropWhile isNameRest).dropWhile isBlank).head? = some '('

/-- The names in front of parentheses, from left to right. `inside` says that the text goes on with
a name that has begun before it. -/
def callNames : (inside : Bool) → List Char → List (List Char)
  | _, [] => []
  | inside, c :: rest =>
    if !inside && isNameStart c && callFollows rest then
      (c :: rest.takeWhile isNameRest) :: callNames true rest
    else callNames ((inside && isNameRest c) || isNameStart c) rest

theorem isNameStart_iff (c : Char) : isNameStart c = true ↔
    (97 ≤ c.toNat ∧ c.toNat ≤ 122) ∨ (65 ≤ c.toNat ∧ c.toNat ≤ 90) ∨ c.toNat = 95 ∨
      c.toNat = 36 := by
  have underscore : c = '_' ↔ c.toNat = 95 := Char.toNat_inj.symm
  have dollar : c = '$' ↔ c.toNat = 36 := Char.toNat_inj.symm
  have upper : c.isUpper = true ↔ 65 ≤ c.toNat ∧ c.toNat ≤ 90 := decide_eq_true_iff
  have lower : c.isLower = true ↔ 97 ≤ c.toNat ∧ c.toNat ≤ 122 :=
    Bool.and_eq_true_iff.trans (and_congr decide_eq_true_iff decide_eq_true_iff)
  have letter : c.isAlpha = (c.isUpper || c.isLower) := rfl
  simp only [isNameStart, letter, Bool.or_eq_true, upper, lower, decide_eq_true_eq, underscore, dollar]
  omega

theorem isNameRest_iff (c : Char) : isNameRest c = true ↔
    isNameStart c = true ∨ (48 ≤ c.toNat ∧ c.toNat ≤ 57) := by
  have digit : c.isDigit = true ↔ 48 ≤ c.toNat ∧ c.toNat ≤ 57 := by
    simp only [Char.isDigit, Bool.and_eq_true, decide_eq_true_eq, ge_iff_le, UInt32.le_iff_toNat_le]
    rfl
  simp only [isNameRest, isNameStart, Char.isAlphanum, Bool.or_eq_true, digit]
  tauto

theorem nameStart_holds (c : Char) : Shape.nameStart.holds c = isNameStart c := by
  rw [Bool.eq_iff_iff, isNameStart_iff]
  simp only [CharSet.holds, Shape.nameStart, Shape.setOf, CharSet.itemHolds, Folding.fold,
    Shape.lowerLetters, Shape.upperLetters, List.any_cons, List.any_nil, Bool.or_false, beq_true,
    Bool.or_eq_true, exact_within, exact_same, beq_iff_eq]
  rfl

theorem nameRest_holds (c : Char) : Shape.nameRest.holds c = isNameRest c := by
  rw [Bool.eq_iff_iff, isNameRest_iff, isNameStart_iff]
  simp only [CharSet.holds, Shape.nameRest, Shape.setOf, CharSet.itemHolds, Folding.fold,
    Shape.lowerLetters, Shape.upperLetters, Shape.digits, List.any_cons, List.any_nil,
    Bool.or_false, beq_true, Bool.or_eq_true, exact_within, exact_same, beq_iff_eq]
  change (97 ≤ c.toNat ∧ c.toNat ≤ 122) ∨ (65 ≤ c.toNat ∧ c.toNat ≤ 90) ∨
    (48 ≤ c.toNat ∧ c.toNat ≤ 57) ∨ c.toNat = 95 ∨ c.toNat = 36 ↔ _
  omega

theorem isBlank_of_isNameRest (c : Char) (rest : isNameRest c = true) : isBlank c = false := by
  rw [← nameRest_holds] at rest
  exact CharSet.avoids_holds (by decide) rest

theorem ne_paren_of_isNameRest (c : Char) (rest : isNameRest c = true) : c ≠ '(' := by
  rintro rfl
  exact absurd rest (by decide)

theorem blank_holds (c : Char) :
    (Shape.setOf [.named true .space]).holds c = isBlank c := by
  simp [CharSet.holds, Shape.setOf, CharSet.itemHolds, Folding.fold, NamedClass.holds]

section

variable {α : Type}

-- White space and a parenthesis can be taken in one way only.
theorem run_blank_paren (before after : List Char) (groups : List (Nat × List Char))
    (next : Cursor → Option α) :
    run (.seq (Shape.many Shape.space) (Shape.char '(')) (.between before after groups) next =
      match after.dropWhile isBlank with
      | '(' :: rest =>
        next (.between ('(' :: (after.takeWhile isBlank).reverse ++ before) rest groups)
      | _ => none := by
  have blanks : (Shape.setOf [.named true .space]).holds = isBlank := funext blank_holds
  have paren (before : List Char) (c : Char) (rest : List Char) (other : c ≠ '(') :
      run (Shape.char '(') (.between before (c :: rest) groups) next = none := by
    rw [Shape.char, run_set_cons, if_neg (by rwa [CharSet.char_holds])]
  have stuck : Stuck (Shape.setOf [.named true .space]) before groups after fun later =>
      run (Shape.char '(') later next := by
    intro one c two split
    rw [blanks] at split
    have blank : isBlank c = true := List.mem_takeWhile_imp (by rw [split]; simp)
    apply paren _ c _
    rintro rfl
    exact absurd blank (by decide)
  rw [run_seq, Shape.many, Shape.space, run_many_set _ _ _ _ _ stuck, blanks]
  split
  next rest start =>
    rw [start, Shape.char, run_set_cons, if_pos ((CharSet.char_holds _ _).mpr rfl)]
    rfl
  next other =>
    cases start : after.dropWhile isBlank with
    | nil => rfl
    | cons c rest => exact paren _ c rest fun same => other rest (by rw [start, same])

-- A name cannot be cut short, as no parenthesis follows where it goes on.
theorem name_stuck (before : List Char) (c : Char) (rest : List Char) (done : Cursor → Option α) :
    Stuck Shape.nameRest (c :: before) [] rest fun later =>
      run (.seq (Shape.many Shape.space) (Shape.char '('))
        (later.close 1 (.between before (c :: rest) [])) done := by
  intro one d two split
  rw [funext nameRest_holds] at split ⊢
  have inside : isNameRest d = true := List.mem_takeWhile_imp (by rw [split]; simp)
  have stops : (d :: two ++ rest.dropWhile isNameRest).dropWhile isBlank =
      d :: two ++ rest.dropWhile isNameRest := by
    simp [isBlank_of_isNameRest d inside]
  have moved := run_blank_paren (one.reverse ++ c :: before) (d :: two ++ rest.dropWhile isNameRest)
    [(1, (Cursor.between before (c :: rest) []).upTo (.between (one.reverse ++ c :: before)
      (d :: two ++ rest.dropWhile isNameRest) []))] done
  apply moved.trans
  rw [stops]
  split
  next after start =>
    have same : d = '(' := by simpa using congrArg List.head? start
    exact absurd same (ne_paren_of_isNameRest d inside)
  next => rfl

end

theorem close_name (before : List Char) (c : Char) (rest : List Char) :
    (Cursor.between ((rest.takeWhile isNameRest).reverse ++ c :: before)
        (rest.dropWhile isNameRest) []).close 1 (.between before (c :: rest) []) =
      .between ((rest.takeWhile isNameRest).reverse ++ c :: before) (rest.dropWhile isNameRest)
        [(1, c :: rest.takeWhile isNameRest)] := by
  have taken : Passes (.between before (c :: rest) []) (c :: rest.takeWhile isNameRest)
      (.between ((rest.takeWhile isNameRest).reverse ++ c :: before) (rest.dropWhile isNameRest)
        []) := by
    simp [Passes, Cursor.between, List.takeWhile_append_dropWhile]
  rw [Cursor.close, taken.upTo_eq]
  rfl

-- The place behind a call whose name starts with `c`, with the name as its group.
def callStop (before : List Char) (c : Char) (rest after : List Char) : Cursor :=
  .between ('(' :: ((rest.dropWhile isNameRest).takeWhile isBlank).reverse ++
    ((rest.takeWhile isNameRest).reverse ++ c :: before)) after [(1, c :: rest.takeWhile isNameRest)]

theorem matchAt_call (before : List Char) (c : Char) (rest : List Char)
    (groups : List (Nat × List Char)) :
    matchAt Shape.call (.between before (c :: rest) groups) =
      if isNameStart c then
        match (rest.dropWhile isNameRest).dropWhile isBlank with
        | '(' :: after =>
          some ⟨.between before (c :: rest) groups, callStop before c rest after⟩
        | _ => none
      else none := by
  have start : matchAt Shape.call (.between before (c :: rest) groups) =
      run (.set Shape.nameStart) (.between before (c :: rest) []) fun later =>
        run (Shape.many (.set Shape.nameRest)) later fun later =>
          run (.seq (Shape.many Shape.space) (Shape.char '('))
            (later.close 1 (.between before (c :: rest) [])) fun stop =>
              some ⟨.between before (c :: rest) groups, stop⟩ := rfl
  rw [start, run_set_cons, nameStart_holds]
  by_cases first : isNameStart c = true
  · rw [if_pos first, if_pos first, Shape.many,
      run_many_set _ _ _ _ _ (name_stuck before c rest _), funext nameRest_holds, close_name,
      run_blank_paren]
    rfl
  · rw [if_neg first, if_neg first]

theorem isNameRest_of_isNameStart (c : Char) (start : isNameStart c = true) : isNameRest c = true :=
  (isNameRest_iff c).mpr (.inl start)

theorem not_isNameStart (c : Char) (other : ¬isNameRest c = true) : isNameStart c = false := by
  by_contra start
  exact other (isNameRest_of_isNameStart c (by simpa using start))

theorem callNames_inside (c : Char) (rest : List Char) :
    callNames true (c :: rest) = callNames (isNameRest c) rest := by
  by_cases start : isNameStart c = true
  · simp [callNames, start, isNameRest_of_isNameStart c start]
  · simp [callNames, start]

theorem callNames_start (c : Char) (rest : List Char) (start : isNameStart c = true) :
    callNames false (c :: rest) = if callFollows rest then
      (c :: rest.takeWhile isNameRest) :: callNames true rest else callNames true rest := by
  simp [callNames, start]

theorem callNames_other (c : Char) (rest : List Char) (other : ¬isNameStart c = true) :
    callNames false (c :: rest) = callNames false rest := by
  simp [callNames, other]

theorem callFollows_cons (c : Char) (rest : List Char) (inside : isNameRest c = true) :
    callFollows (c :: rest) = callFollows rest := by
  simp [callFollows, inside]

-- A name that is not called hides no other name: each of its tails has the same text behind it.
theorem callNames_uncalled (rest : List Char) (uncalled : callFollows rest = false) :
    callNames true rest = callNames false rest := by
  induction rest with
  | nil => rfl
  | cons c rest ih =>
    rw [callNames_inside]
    by_cases inside : isNameRest c = true
    · rw [callFollows_cons c rest inside] at uncalled
      rw [inside]
      by_cases start : isNameStart c = true
      · simp [callNames_start c rest start, uncalled]
      · rw [callNames_other c rest start, ih uncalled]
    · have other : ¬isNameStart c = true := by simp [not_isNameStart c inside]
      rw [callNames_other c rest other]
      simp [inside]

theorem callNames_blank (rest after : List Char) (paren : rest.dropWhile isBlank = '(' :: after) :
    callNames false rest = callNames false after := by
  induction rest with
  | nil => simp at paren
  | cons c rest ih =>
    by_cases blank : isBlank c = true
    · have other : ¬isNameStart c = true := by
        intro start
        rw [isBlank_of_isNameRest c (isNameRest_of_isNameStart c start)] at blank
        exact absurd blank (by decide)
      rw [callNames_other c rest other]
      exact ih (by simpa [blank] using paren)
    · rw [List.dropWhile_cons_of_neg blank, List.cons.injEq] at paren
      obtain ⟨rfl, rfl⟩ := paren
      exact callNames_other _ _ (by decide)

theorem callNames_called (rest after : List Char)
    (paren : (rest.dropWhile isNameRest).dropWhile isBlank = '(' :: after) :
    callNames true rest = callNames false after := by
  induction rest with
  | nil => simp at paren
  | cons c rest ih =>
    rw [callNames_inside]
    by_cases inside : isNameRest c = true
    · rw [inside]
      exact ih (by simpa [inside] using paren)
    · have other : ¬isNameStart c = true := by simp [not_isNameStart c inside]
      rw [List.dropWhile_cons_of_neg inside] at paren
      rw [← callNames_blank _ _ paren, callNames_other c rest other]
      simp [inside]

/-- What the search for a call in a text comes to: nothing, where no name is called, or the first
called name. The search goes on behind its parenthesis. -/
inductive NextCall (after : List Char) : Option Match → Prop
  | none (names : callNames false after = []) : NextCall after none
  | some (m : Match) (name behind rest : List Char) (group : m.group? 1 = some name)
      (stop : m.stop = .between behind rest m.stop.groups) (moved : m.start.index < m.stop.index)
      (shorter : rest.length < after.length)
      (names : callNames false after = name :: callNames false rest) : NextCall after (some m)

theorem NextCall.skip {c : Char} {after : List Char} {found : Option Match}
    (next : NextCall after found)
    (same : callNames false (c :: after) = callNames false after) : NextCall (c :: after) found := by
  cases next with
  | none names => exact .none (same.trans names)
  | some m name behind rest group stop moved shorter names =>
    exact .some m name behind rest group stop moved (Nat.lt_succ_of_lt shorter) (same.trans names)

theorem matchAt_call_next (before : List Char) (c : Char) (after : List Char)
    (groups : List (Nat × List Char)) (m : Match)
    (here : matchAt Shape.call (.between before (c :: after) groups) = some m) :
    NextCall (c :: after) (some m) := by
  rw [matchAt_call] at here
  split at here
  next start =>
    split at here
    next rest paren =>
      obtain rfl := Option.some.inj here
      have follows : callFollows after = true := by simp [callFollows, paren]
      have split : after = after.takeWhile isNameRest ++
          ((after.dropWhile isNameRest).takeWhile isBlank ++ '(' :: rest) := by
        rw [← paren, List.takeWhile_append_dropWhile, List.takeWhile_append_dropWhile]
      have lengths := congrArg List.length split
      simp only [List.length_append, List.length_cons] at lengths
      refine .some _ (c :: after.takeWhile isNameRest) _ rest rfl rfl ?_ ?_ ?_
      · simp only [callStop, Cursor.between, List.length_append, List.length_cons]
        omega
      · simp only [List.length_cons]
        omega
      · rw [callNames_start c after start, if_pos follows, callNames_called after rest paren]
    next => simp at here
  next => simp at here

theorem callNames_missed (before : List Char) (c : Char) (after : List Char)
    (groups : List (Nat × List Char))
    (missed : matchAt Shape.call (.between before (c :: after) groups) = none) :
    callNames false (c :: after) = callNames false after := by
  rw [matchAt_call] at missed
  split at missed
  next start =>
    split at missed
    next => simp at missed
    next other =>
      have uncalled : callFollows after = false := by
        cases paren : (after.dropWhile isNameRest).dropWhile isBlank with
        | nil => simp [callFollows, paren]
        | cons d rest =>
          have differs : d ≠ '(' := fun same => other rest (by rw [paren, same])
          simp [callFollows, paren, differs]
      rw [callNames_start c after start, uncalled]
      exact callNames_uncalled after uncalled
  next other => exact callNames_other c after other

theorem findFrom_call (places : Nat) (before after : List Char) (groups : List (Nat × List Char))
    (enough : after.length < places) :
    NextCall after (findFrom Shape.call places (.between before after groups)) := by
  induction after generalizing before places with
  | nil =>
    obtain ⟨places, rfl⟩ := Nat.exists_eq_add_one.mpr enough
    exact .none rfl
  | cons c after ih =>
    obtain ⟨places, rfl⟩ := Nat.exists_eq_add_one.mpr (Nat.zero_lt_of_lt enough)
    rw [findFrom]
    split
    next m here => exact matchAt_call_next before c after groups m here
    next missed =>
      have later := ih places (c :: before) (by simpa using enough)
      exact later.skip (callNames_missed before c after groups missed)

theorem findAllFrom_call (fuel : Nat) (before after : List Char) (groups : List (Nat × List Char))
    (enough : after.length < fuel) :
    (findAllFrom Shape.call fuel (.between before after groups)).filterMap (·.group? 1) =
      callNames false after := by
  induction fuel generalizing before after groups with
  | zero => omega
  | succ fuel ih =>
    have next : NextCall after (findNext Shape.call (.between before after groups)) :=
      findFrom_call (after.length + 1) before after groups (Nat.lt_succ_self _)
    rw [findAllFrom]
    generalize findNext Shape.call (.between before after groups) = found at next
    cases next with
    | none names => exact names.symm
    | some m name behind rest group stop moved shorter names =>
      have goes : resume m = some (.between behind rest m.stop.groups) := by
        have apart : (m.stop.index == m.start.index) = false := by
          simpa using Nat.ne_of_gt moved
        rw [resume, apart, ← stop]
        rfl
      simp only [goes]
      rw [List.filterMap_cons, group, ih behind rest _ (by omega), names]

-- The search for calls takes just the names in front of parentheses, each of them once.
theorem captures_call (text : List Char) :
    captures Shape.call text = distinct ((callNames false text).map String.ofList) := by
  have all := findAllFrom_call (text.length + 1) [] text [] (Nat.lt_succ_self _)
  have mapped : ((Shape.call.findAll text).filterMap fun m => (m.group? 1).map String.ofList) =
      ((Shape.call.findAll text).filterMap (·.group? 1)).map String.ofList := by
    rw [List.map_filterMap]
  rw [captures, mapped]
  exact congrArg (fun names => distinct (names.map String.ofList)) all

end CodeAtlas.Source
