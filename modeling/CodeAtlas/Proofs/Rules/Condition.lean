import CodeAtlas.Proofs.Text.Trim
import CodeAtlas.Rules.Condition

set_option autoImplicit false

/-! Conditions as they are written, and what is made of them. A text is taken for a condition where it ends
as one, even if the quote that opens its value closes it before. -/

namespace CodeAtlas.Rules.Condition

open CodeAtlas.Text

/-! ### Written conditions -/

inductive Shape
  | kind
  | call (call : Call)
  deriving DecidableEq, Repr

def shape? : Condition → Option Shape
  | .kindEquals _ => some .kind
  | .nameStarts _ => some (.call .nameStarts)
  | .nameContains _ => some (.call .nameContains)
  | .nameMatches _ _ => some (.call .nameMatches)
  | .pathContains _ => some (.call .pathContains)
  | .fileContains _ => some (.call .fileContains)
  | .fileEnds _ => some (.call .fileEnds)
  | .importContains _ => some (.call .importContains)
  | .unrecognized _ => none

def IsQuote (c : Char) : Prop :=
  c = '\'' ∨ c = '"'

def Blank (text : List Char) : Prop :=
  text.all isBlank = true

/-- One condition: a comparison with the kind, or a call with a literal in parentheses. White space
may stand around the equals signs, and around the literal in parentheses. -/
inductive Written (quote : Char) (value : List Char) : Shape → List Char → Prop
  | kind (word equals : String) (before behind : List Char) (named : word ∈ kindWords)
      (compared : equals = "===" ∨ equals = "==") (gap : Blank before) (space : Blank behind) :
      Written quote value .kind
        (word.toList ++ (before ++ (equals.toList ++ (behind ++ quote :: (value ++ [quote])))))
  | call (call : Call) (before behind : List Char) (gap : Blank before) (space : Blank behind) :
      Written quote value (.call call)
        (call.word.toList ++ '(' :: (before ++ quote :: (value ++ quote :: (behind ++ [')']))))

/-! ### Literals -/

theorem IsQuote.inked {quote : Char} (isQuote : IsQuote quote) : isBlank quote = false := by
  obtain rfl | rfl := isQuote <;> decide

theorem Blank.no_quote {text : List Char} (blank : Blank text) {quote : Char}
    (isQuote : IsQuote quote) : quote ∉ text := by
  intro member
  have inked := isQuote.inked
  rw [List.all_eq_true.mp blank quote member] at inked
  cases inked

/-- The value ends at the quote that has a good end behind it. There is only one such quote if none
is inside a good end. -/
theorem upToQuote_some {quote : Char} {ends : List Char → Bool} (line : quote ≠ '\n')
    (closed : ∀ rest, ends rest = true → quote ∉ rest) (text value : List Char) :
    upToQuote quote ends text = some value ↔
      '\n' ∉ value ∧ ∃ rest, text = value ++ quote :: rest ∧ ends rest = true := by
  induction text generalizing value with
  | nil => simp [upToQuote]
  | cons c text ih =>
    rw [upToQuote]
    by_cases here : (c = quote && ends text) = true
    · rw [if_pos here]
      simp only [Bool.and_eq_true, decide_eq_true_eq] at here
      obtain ⟨rfl, good⟩ := here
      constructor
      · rintro ⟨⟩
        exact ⟨List.not_mem_nil, text, rfl, good⟩
      · rintro ⟨-, rest, split, -⟩
        cases value with
        | nil => rfl
        | cons d value =>
          obtain ⟨-, rfl⟩ := List.cons.inj split
          exact absurd (by simp) (closed _ good)
    · rw [if_neg here]
      simp only [Bool.and_eq_true, decide_eq_true_eq] at here
      split
      · next newline =>
        refine ⟨(fun found => by cases found), ?_⟩
        rintro ⟨apart, rest, split, good⟩
        cases value with
        | nil =>
          obtain ⟨rfl, rfl⟩ := List.cons.inj split
          exact absurd newline line
        | cons d value =>
          obtain ⟨rfl, -⟩ := List.cons.inj split
          exact absurd (by simp [newline]) apart
      · next other =>
        rw [Option.map_eq_some_iff]
        constructor
        · rintro ⟨found, found_eq, rfl⟩
          obtain ⟨apart, rest, rfl, good⟩ := (ih found).mp found_eq
          refine ⟨?_, rest, rfl, good⟩
          rw [List.mem_cons, not_or]
          exact ⟨Ne.symm other, apart⟩
        · rintro ⟨apart, rest, split, good⟩
          cases value with
          | nil =>
            obtain ⟨rfl, rfl⟩ := List.cons.inj split
            exact absurd ⟨rfl, good⟩ here
          | cons d value =>
            obtain ⟨rfl, rfl⟩ := List.cons.inj split
            rw [List.mem_cons, not_or] at apart
            exact ⟨value, (ih value).mpr ⟨apart.2, rest, rfl, good⟩, rfl⟩

theorem literal?_some {ends : List Char → Bool}
    (closed : ∀ quote rest, IsQuote quote → ends rest = true → quote ∉ rest)
    (text value : List Char) :
    literal? ends text = some value ↔
      '\n' ∉ value ∧ ∃ quote rest, IsQuote quote ∧ text = quote :: (value ++ quote :: rest) ∧
        ends rest = true := by
  cases text with
  | nil => simp [literal?]
  | cons c text =>
    rw [literal?]
    split
    · next quoted =>
      simp only [Bool.or_eq_true, decide_eq_true_eq] at quoted
      have line : c ≠ '\n' := by
        rintro rfl
        simp at quoted
      rw [upToQuote_some line (fun rest => closed c rest quoted)]
      constructor
      · rintro ⟨apart, rest, rfl, good⟩
        exact ⟨apart, c, rest, quoted, rfl, good⟩
      · rintro ⟨apart, quote, rest, -, split, good⟩
        obtain ⟨rfl, rfl⟩ := List.cons.inj split
        exact ⟨apart, rest, rfl, good⟩
    · next plain =>
      simp only [Bool.or_eq_true, decide_eq_true_eq] at plain
      refine ⟨(fun found => by cases found), ?_⟩
      rintro ⟨-, quote, rest, isQuote, split, -⟩
      obtain ⟨rfl, -⟩ := List.cons.inj split
      exact absurd isQuote plain

/-! ### Words and spaces -/

theorem after?_some (word : String) (text rest : List Char) :
    after? word text = some rest ↔ text = word.toList ++ rest := by
  rw [after?, ← String.length_toList]
  split
  · next there =>
    obtain ⟨others, rfl⟩ := List.isPrefixOf_iff_prefix.mp there
    rw [List.drop_left, Option.some.injEq, List.append_cancel_left_eq]
  · next missing =>
    refine ⟨(fun found => by cases found), ?_⟩
    rintro rfl
    exact absurd (List.isPrefixOf_iff_prefix.mpr (List.prefix_append _ _)) missing

theorem trimLeft_split (text : List Char) : ∃ gap, Blank gap ∧ text = gap ++ trimLeft text := by
  refine ⟨text.takeWhile isBlank, ?_, (List.takeWhile_append_dropWhile).symm⟩
  exact List.all_takeWhile

theorem trimLeft_gap {gap : List Char} (blank : Blank gap) {c : Char} (inked : isBlank c = false)
    (rest : List Char) : trimLeft (gap ++ c :: rest) = c :: rest := by
  rw [trimLeft, List.dropWhile_append_of_pos (List.all_eq_true.mp blank),
    List.dropWhile_cons_of_neg (by simp [inked])]

theorem afterEquals?_some {text rest : List Char} (found : afterEquals? text = some rest) :
    ∃ equals, (equals = "===" ∨ equals = "==") ∧ text = equals.toList ++ rest := by
  rw [afterEquals?] at found
  cases three : after? "===" text with
  | some other =>
    rw [three] at found
    cases found
    exact ⟨"===", .inl rfl, (after?_some _ _ _).mp three⟩
  | none =>
    rw [three] at found
    exact ⟨"==", .inr rfl, (after?_some _ _ _).mp found⟩

theorem afterEquals?_equals {equals : String} (compared : equals = "===" ∨ equals = "==")
    {rest : List Char} (other : ∀ more, rest ≠ '=' :: more) :
    afterEquals? (equals.toList ++ rest) = some rest := by
  rw [afterEquals?]
  obtain rfl | rfl := compared
  · rw [(after?_some "===" _ rest).mpr rfl]
    rfl
  · have two : after? "===" ("==".toList ++ rest) = none := by
      rw [Option.eq_none_iff_forall_not_mem]
      intro more found
      have split := (after?_some _ _ _).mp found
      exact other more (List.append_cancel_left split)
    rw [two, (after?_some "==" _ rest).mpr rfl]
    rfl

theorem kindWords_after {word : String} (named : word ∈ kindWords) (rest : List Char) :
    (kindWords.findSome? fun other => after? other (word.toList ++ rest)) = some rest := by
  simp only [kindWords, List.mem_cons, List.not_mem_nil, or_false] at named
  obtain rfl | rfl | rfl := named <;> rfl

/-! ### Shapes -/

/-- How a text is read as a condition: its value stands on one line between two quotes. -/
structure Reading (shape : Shape) (quote : Char) (value text : List Char) : Prop where
  isQuote : IsQuote quote
  line : '\n' ∉ value
  written : Written quote value shape text

theorem kindLiteral?_some (text value : List Char) :
    kindLiteral? text = some value ↔ ∃ quote, Reading .kind quote value text := by
  have closed (quote : Char) (rest : List Char) (_ : IsQuote quote) (good : rest.isEmpty = true) :
      quote ∉ rest := by
    rw [List.isEmpty_iff.mp good]
    exact List.not_mem_nil
  constructor
  · intro found
    simp only [kindLiteral?, bind, Option.bind_eq_some_iff] at found
    obtain ⟨tail, worded, rest, compared, found⟩ := found
    obtain ⟨word, named, after⟩ := List.exists_of_findSome?_eq_some worded
    obtain ⟨line, quote, last, isQuote, opened, good⟩ := (literal?_some closed _ _).mp found
    obtain ⟨equals, equal, split⟩ := afterEquals?_some compared
    obtain ⟨gap, blankGap, gap_eq⟩ := trimLeft_split tail
    obtain ⟨space, blankSpace, space_eq⟩ := trimLeft_split rest
    rw [List.isEmpty_iff.mp good] at opened
    refine ⟨quote, isQuote, line, ?_⟩
    rw [(after?_some _ _ _).mp after, gap_eq, split, space_eq, opened]
    exact .kind word equals gap space named equal blankGap blankSpace
  · rintro ⟨quote, isQuote, line, written⟩
    cases written with
    | kind word equals before behind named compared gap space =>
      have opens : trimLeft (behind ++ quote :: (value ++ [quote])) = quote :: (value ++ [quote]) :=
        trimLeft_gap space isQuote.inked _
      have apart (more : List Char) : behind ++ quote :: (value ++ [quote]) ≠ '=' :: more := by
        intro same
        have first := congrArg trimLeft same
        rw [opens, trimLeft_of_inked '=' more (by decide)] at first
        obtain ⟨rfl, -⟩ := List.cons.inj first
        exact absurd isQuote (by simp [IsQuote])
      have equal := afterEquals?_equals compared apart
      have trimmed : trimLeft (before ++ (equals.toList ++ (behind ++ quote :: (value ++ [quote])))) =
          equals.toList ++ (behind ++ quote :: (value ++ [quote])) := by
        obtain rfl | rfl := compared <;> exact trimLeft_gap gap (by decide) _
      simp only [kindLiteral?, bind, Option.bind_eq_some_iff]
      refine ⟨_, kindWords_after named _, _, trimmed ▸ equal, ?_⟩
      rw [opens, literal?_some closed]
      exact ⟨line, quote, [], isQuote, rfl, rfl⟩

theorem closes_iff (rest : List Char) :
    (trimLeft rest == [')']) = true ↔ ∃ behind, Blank behind ∧ rest = behind ++ [')'] := by
  rw [beq_iff_eq]
  constructor
  · intro closed
    obtain ⟨behind, blank, split⟩ := trimLeft_split rest
    exact ⟨behind, blank, closed ▸ split⟩
  · rintro ⟨behind, blank, rfl⟩
    exact trimLeft_gap blank (by decide) []

theorem callLiteral?_some (call : Call) (text value : List Char) :
    callLiteral? call.word text = some value ↔ ∃ quote, Reading (.call call) quote value text := by
  have closed (quote : Char) (rest : List Char) (isQuote : IsQuote quote)
      (good : (trimLeft rest == [')']) = true) : quote ∉ rest := by
    obtain ⟨behind, blank, rfl⟩ := (closes_iff rest).mp good
    rw [List.mem_append, List.mem_singleton, not_or]
    refine ⟨blank.no_quote isQuote, ?_⟩
    rintro rfl
    exact absurd isQuote (by simp [IsQuote])
  constructor
  · intro found
    simp only [callLiteral?, bind, Option.bind_eq_some_iff] at found
    obtain ⟨tail, worded, rest, opened, found⟩ := found
    obtain ⟨line, quote, last, isQuote, inner, good⟩ := (literal?_some closed _ _).mp found
    obtain ⟨behind, space, last_eq⟩ := (closes_iff last).mp good
    obtain ⟨gap, blank, split⟩ := trimLeft_split rest
    refine ⟨quote, isQuote, line, ?_⟩
    rw [(after?_some _ _ _).mp worded, (after?_some _ _ _).mp opened, split, inner, last_eq]
    exact .call call gap behind blank space
  · rintro ⟨quote, isQuote, line, written⟩
    cases written with
    | call call before behind gap space =>
      simp only [callLiteral?, bind, Option.bind_eq_some_iff]
      refine ⟨_, (after?_some _ _ _).mpr rfl,
        before ++ quote :: (value ++ quote :: (behind ++ [')'])), (after?_some "(" _ _).mpr rfl, ?_⟩
      rw [trimLeft_gap gap isQuote.inked, literal?_some closed]
      exact ⟨line, quote, _, isQuote, rfl, (closes_iff _).mpr ⟨behind, space, rfl⟩⟩

/-- The words of a shape. No one begins another. -/
def Shape.words : Shape → List String
  | .kind => kindWords
  | .call target => [target.word]

theorem Written.word {quote : Char} {value text : List Char} {shape : Shape}
    (written : Written quote value shape text) :
    ∃ word ∈ shape.words, ∃ rest, text = word.toList ++ rest := by
  cases written with
  | kind word equals before behind named compared gap space => exact ⟨word, named, _, rfl⟩
  | call call before behind gap space => exact ⟨call.word, List.mem_singleton.mpr rfl, _, rfl⟩

theorem words_apart : ∀ shape ∈ Shape.kind :: calls.map .call, ∀ word ∈ shape.words,
    ∀ other ∈ Shape.kind :: calls.map .call, ∀ another ∈ other.words,
      word.toList <+: another.toList → shape = other := by
  decide +kernel

theorem mem_shapes (shape : Shape) : shape ∈ Shape.kind :: calls.map .call := by
  cases shape with
  | kind => exact List.mem_cons_self
  | call call => cases call <;> decide

/-- A text is read in one shape only. -/
theorem Written.unique {quote other : Char} {value another text : List Char} {shape form : Shape}
    (written : Written quote value shape text) (again : Written other another form text) :
    shape = form := by
  obtain ⟨word, named, rest, rfl⟩ := written.word
  obtain ⟨word', named', rest', same⟩ := again.word
  obtain first | second := List.prefix_or_prefix_of_prefix (List.prefix_append word.toList rest)
    (same ▸ List.prefix_append word'.toList rest')
  · exact words_apart shape (mem_shapes shape) word named form (mem_shapes form) word' named' first
  · exact (words_apart form (mem_shapes form) word' named' shape (mem_shapes shape) word named
      second).symm

theorem mem_calls (call : Call) : call ∈ calls := by
  cases call <;> decide

/-- The calls are tried one after the other, but no more than one of them fits. -/
theorem calls_reading {call : Call} {quote : Char} {value text : List Char}
    (reading : Reading (.call call) quote value text) :
    (calls.findSome? fun other => (callLiteral? other.word text).map fun v => (other, v)) =
      some (call, value) := by
  have fits := (callLiteral?_some call text value).mpr ⟨quote, reading⟩
  cases found : calls.findSome? fun other => (callLiteral? other.word text).map fun v => (other, v) with
  | none =>
    have missed := List.findSome?_eq_none_iff.mp found call (mem_calls call)
    rw [fits] at missed
    cases missed
  | some pair =>
    obtain ⟨other, -, same⟩ := List.exists_of_findSome?_eq_some found
    obtain ⟨v, taken, rfl⟩ := Option.map_eq_some_iff.mp same
    obtain ⟨quote', again⟩ := (callLiteral?_some other text v).mp taken
    cases again.written.unique reading.written
    rw [fits] at taken
    cases taken
    rfl

/-- What is made of a text that is read in a shape. -/
def make (compiler : Compiler) (text value : String) : Shape → Except Fault Condition
  | .kind => .ok (.kindEquals value)
  | .call call => ofCall compiler text value call

theorem parseWith_reading (compiler : Compiler) {text : String} {shape : Shape} {quote : Char}
    {value : List Char} (reading : Reading shape quote value (trim text.toList)) :
    parseWith compiler text = make compiler text (String.ofList value) shape := by
  rw [parseWith]
  cases shape with
  | kind =>
    rw [(kindLiteral?_some _ value).mpr ⟨quote, reading⟩]
    rfl
  | call call =>
    have apart : kindLiteral? (trim text.toList) = none := by
      rw [Option.eq_none_iff_forall_not_mem]
      intro other found
      obtain ⟨quote', again⟩ := (kindLiteral?_some _ other).mp found
      cases again.written.unique reading.written
    simp only [apart, calls_reading reading]
    rfl

theorem parseWith_unread (compiler : Compiler) {text : String}
    (unread : ∀ shape quote value, ¬ Reading shape quote value (trim text.toList)) :
    parseWith compiler text = .ok (.unrecognized text) := by
  have kind : kindLiteral? (trim text.toList) = none := by
    rw [Option.eq_none_iff_forall_not_mem]
    intro value found
    obtain ⟨quote, reading⟩ := (kindLiteral?_some _ value).mp found
    exact unread _ _ _ reading
  have call : (calls.findSome? fun other =>
      (callLiteral? other.word (trim text.toList)).map fun v => (other, v)) = none := by
    rw [List.findSome?_eq_none_iff]
    intro other _
    rw [Option.map_eq_none_iff, Option.eq_none_iff_forall_not_mem]
    intro value found
    obtain ⟨quote, reading⟩ := (callLiteral?_some other _ value).mp found
    exact unread _ _ _ reading
  simp only [parseWith, kind, call]

/-- A regular expression may be malformed; otherwise the value is kept. -/
theorem make_shape {compiler : Compiler} {text value : String} {shape form : Shape}
    {condition : Condition} (made : make compiler text value shape = .ok condition)
    (known : condition.shape? = some form) : form = shape ∧ condition.value = value := by
  cases shape with
  | kind =>
    cases made
    cases known
    exact ⟨rfl, rfl⟩
  | call call =>
    cases call with
    | nameMatches =>
      simp only [make, ofCall, matching] at made
      split at made
      · cases made
        cases known
        exact ⟨rfl, rfl⟩
      · cases made
        cases known
      · cases made
    | _ =>
      cases made
      cases known
      exact ⟨rfl, rfl⟩

theorem words_plain : ∀ shape ∈ Shape.kind :: calls.map .call, ∀ word ∈ shape.words,
    '\'' ∉ word.toList ∧ '"' ∉ word.toList := by
  decide +kernel

theorem Written.count {quote : Char} (isQuote : IsQuote quote) {value text : List Char}
    {shape : Shape} (written : Written quote value shape text) :
    text.count quote = value.count quote + 2 := by
  have blank {gap : List Char} (all : Blank gap) : gap.count quote = 0 :=
    List.count_eq_zero.mpr (all.no_quote isQuote)
  have named {word : String} {shape : Shape} (member : word ∈ shape.words) :
      word.toList.count quote = 0 := by
    have plain := words_plain shape (mem_shapes shape) word member
    rw [List.count_eq_zero]
    obtain rfl | rfl := isQuote
    · exact plain.1
    · exact plain.2
  cases written with
  | kind word equals before behind member compared gap space =>
    have signs : equals.toList.count quote = 0 := by
      obtain rfl | rfl := compared <;> obtain rfl | rfl := isQuote <;> decide
    have plain : word.toList.count quote = 0 := named (show word ∈ Shape.kind.words from member)
    simp [List.count_append, plain, blank gap, blank space, signs]
  | call call before behind gap space =>
    have marks : '(' ≠ quote ∧ ')' ≠ quote := by
      obtain rfl | rfl := isQuote <;> decide
    have plain : call.word.toList.count quote = 0 :=
      named (show call.word ∈ (Shape.call call).words from List.mem_singleton.mpr rfl)
    simp [List.count_append, plain, blank gap, blank space, marks]

/-- Whatever compiles regular expressions, a text is taken for a condition just where it reads as one in
some shape, whatever its value holds, and is unrecognized elsewhere. The quote that opens the value
stands in the value too unless there are only two of it in the text. -/
theorem parse_exact (compiler : Compiler) (text : String) :
    (∀ shape quote value, Reading shape quote value (trim text.toList) →
      parseWith compiler text = make compiler text (String.ofList value) shape) ∧
    ((∀ shape quote value, ¬ Reading shape quote value (trim text.toList)) →
      parseWith compiler text = .ok (.unrecognized text)) ∧
    ∀ condition shape, parseWith compiler text = .ok condition → condition.shape? = some shape →
      ∃ quote, Reading shape quote condition.value.toList (trim text.toList) ∧
        (quote ∉ condition.value.toList ↔ (trim text.toList).count quote = 2) := by
  refine ⟨fun _ _ _ => parseWith_reading compiler, parseWith_unread compiler, ?_⟩
  intro condition form parsed known
  by_cases read : ∃ shape quote value, Reading shape quote value (trim text.toList)
  · obtain ⟨shape, quote, value, reading⟩ := read
    rw [parseWith_reading compiler reading] at parsed
    obtain ⟨rfl, same⟩ := make_shape parsed known
    rw [same, String.toList_ofList]
    refine ⟨quote, reading, ?_⟩
    rw [reading.written.count reading.isQuote, ← List.count_eq_zero]
    omega
  · have unread : ∀ shape quote value, ¬ Reading shape quote value (trim text.toList) :=
      fun shape quote value reading => read ⟨shape, quote, value, reading⟩
    rw [parseWith_unread compiler unread] at parsed
    cases parsed
    cases known

theorem parse_exact_spaced :
    Reading (.call .nameStarts) '"' "it's".toList (trim " name.startsWith( \"it's\")".toList) ∧
      parse " name.startsWith( \"it's\")" = .ok (.nameStarts "it's") := by
  have written : Written '"' "it's".toList (.call .nameStarts)
      (trim " name.startsWith( \"it's\")".toList) := by
    have same : trim " name.startsWith( \"it's\")".toList =
        Call.nameStarts.word.toList ++ '(' :: ([' '] ++ '"' ::
          ("it's".toList ++ '"' :: ([] ++ [')']))) := by decide +kernel
    rw [same]
    exact .call .nameStarts [' '] [] rfl rfl
  have reading : Reading (.call .nameStarts) '"' "it's".toList
      (trim " name.startsWith( \"it's\")".toList) := ⟨.inr rfl, by decide +kernel, written⟩
  exact ⟨reading, (parse_exact compile _).1 _ _ _ reading⟩

/-- Two conditions that are joined are taken for one. -/
theorem parse_joined : ∃ condition shape,
    parse "name.includes('a') && name.includes('b')" = .ok condition ∧
      condition.shape? = some shape ∧
      ¬ ∃ quote, Reading shape quote condition.value.toList
          (trim "name.includes('a') && name.includes('b')".toList) ∧
        quote ∉ condition.value.toList := by
  have written : Written '\'' "a') && name.includes('b".toList (.call .nameContains)
      (trim "name.includes('a') && name.includes('b')".toList) := by
    have same : trim "name.includes('a') && name.includes('b')".toList =
        Call.nameContains.word.toList ++ '(' :: ([] ++ '\'' ::
          ("a') && name.includes('b".toList ++ '\'' :: ([] ++ [')']))) := by decide +kernel
    rw [same]
    exact .call .nameContains [] [] rfl rfl
  refine ⟨_, _, parseWith_reading compile ⟨.inl rfl, by decide +kernel, written⟩, rfl, ?_⟩
  rintro ⟨quote, reading, outside⟩
  have twice := reading.written.count reading.isQuote
  rw [List.count_eq_zero.mpr outside] at twice
  obtain rfl | rfl := reading.isQuote
  · exact absurd twice (by decide +kernel)
  · exact absurd twice (by decide +kernel)

end CodeAtlas.Rules.Condition
