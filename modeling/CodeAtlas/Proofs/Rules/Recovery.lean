import CodeAtlas.Proofs.Rules.Condition

set_option autoImplicit false

/-! Conditions recovered from their spellings, whatever their values hold and whichever shape is tried
first. -/

namespace CodeAtlas.Rules.Condition

open CodeAtlas.Text

/-! ### Any order of the shapes -/

def Shape.literal? (text : List Char) : Shape → Option (List Char)
  | .kind => kindLiteral? text
  | .call target => callLiteral? target.word text

theorem Shape.literal?_some (shape : Shape) (text value : List Char) :
    shape.literal? text = some value ↔ ∃ quote, Reading shape quote value text := by
  cases shape with
  | kind => exact kindLiteral?_some text value
  | call target => exact callLiteral?_some target text value

-- The shapes are tried in the given order, and the first that fits is taken.
def parseBy (compiler : Compiler) (order : List Shape) (text : String) : Except Fault Condition :=
  let stripped := trim text.toList
  match order.findSome? fun shape => (shape.literal? stripped).map fun v => (shape, v) with
  | some (shape, value) => make compiler text (String.ofList value) shape
  | none => .ok (.unrecognized text)

/-- No text fits two shapes, so it does not matter which one is tried first. -/
theorem parseBy_eq (compiler : Compiler) {order : List Shape} (complete : ∀ shape, shape ∈ order)
    (text : String) : parseBy compiler order text = parseWith compiler text := by
  rw [parseBy]
  cases found : order.findSome? fun shape =>
      (shape.literal? (trim text.toList)).map fun v => (shape, v) with
  | none =>
    have missed := List.findSome?_eq_none_iff.mp found
    refine (parseWith_unread compiler ?_).symm
    intro shape quote value reading
    have fits := (shape.literal?_some _ value).mpr ⟨quote, reading⟩
    have unfit := missed shape (complete shape)
    rw [fits] at unfit
    cases unfit
  | some pair =>
    obtain ⟨shape, -, fits⟩ := List.exists_of_findSome?_eq_some found
    obtain ⟨value, taken, rfl⟩ := Option.map_eq_some_iff.mp fits
    obtain ⟨quote, reading⟩ := (shape.literal?_some _ value).mp taken
    exact (parseWith_reading compiler reading).symm

/-! ### Spellings -/

theorem words_inked : ∀ shape ∈ Shape.kind :: calls.map .call, ∀ word ∈ shape.words,
    (word.toList.head?.any fun c => !isBlank c) = true := by
  simp [calls, Shape.words, kindWords, Call.word, isBlank, inRanges, blankRanges]

theorem Written.inked {quote : Char} (isQuote : IsQuote quote) {value text : List Char}
    {shape : Shape} (written : Written quote value shape text) : Inked text := by
  constructor
  · obtain ⟨word, named, rest, rfl⟩ := written.word
    have opens := words_inked shape (mem_shapes shape) word named
    cases letters : word.toList with
    | nil =>
      rw [letters] at opens
      cases opens
    | cons c others =>
      rw [letters] at opens
      exact ⟨c, others ++ rest, rfl, by simpa using opens⟩
  · cases written with
    | kind word equals before behind named compared gap space =>
      exact ⟨word.toList ++ (before ++ (equals.toList ++ (behind ++ quote :: value))), quote,
        by simp, isQuote.inked⟩
    | call call before behind gap space =>
      exact ⟨call.word.toList ++ '(' :: (before ++ quote :: (value ++ quote :: behind)), ')',
        by simp, by decide⟩

theorem Written.reading {quote : Char} (isQuote : IsQuote quote) {value spelled : List Char}
    (line : '\n' ∉ value) {shape : Shape} (written : Written quote value shape spelled)
    {before behind : List Char} (gap : Blank before) (space : Blank behind) :
    Reading shape quote value (trim (before ++ (spelled ++ behind))) := by
  have trimmed := (written.inked isQuote).trim_amid (List.all_eq_true.mp gap)
    (List.all_eq_true.mp space)
  rw [trimmed]
  exact ⟨isQuote, line, written⟩

/-- What a spelling stands for: the condition of its shape with its value. Only a regular expression can be
none. -/
def Shape.meaning (compiler : Compiler) (value : String) : Shape → Except Uncompiled Condition
  | .kind => .ok (.kindEquals value)
  | .call .nameStarts => .ok (.nameStarts value)
  | .call .nameContains => .ok (.nameContains value)
  | .call .nameMatches => (compiler value).map (.nameMatches value)
  | .call .pathContains => .ok (.pathContains value)
  | .call .fileContains => .ok (.fileContains value)
  | .call .fileEnds => .ok (.fileEnds value)
  | .call .importContains => .ok (.importContains value)

-- What comes of a text whose expression is none: only malformed ones are caught.
def refusal (text : String) : Uncompiled → Except Fault Condition
  | .malformed => .ok (.unrecognized text)
  | .failure fault => .error fault

theorem make_meant {compiler : Compiler} {text value : String} {shape : Shape}
    {condition : Condition} (meant : shape.meaning compiler value = .ok condition) :
    make compiler text value shape = .ok condition := by
  cases shape with
  | kind => exact congrArg Except.ok (Except.ok.inj meant)
  | call target =>
    cases target with
    | nameMatches =>
      simp only [Shape.meaning] at meant
      cases compiled : compiler value with
      | ok pattern =>
        rw [compiled] at meant
        cases meant
        simp only [make, ofCall, matching, compiled]
      | error problem =>
        rw [compiled] at meant
        cases meant
    | _ => exact congrArg Except.ok (Except.ok.inj meant)

theorem make_refused {compiler : Compiler} {text value : String} {shape : Shape}
    {problem : Uncompiled} (invalid : shape.meaning compiler value = .error problem) :
    make compiler text value shape = refusal text problem := by
  cases shape with
  | kind => cases invalid
  | call target =>
    cases target with
    | nameMatches =>
      simp only [Shape.meaning] at invalid
      cases compiled : compiler value with
      | ok pattern =>
        rw [compiled] at invalid
        cases invalid
      | error other =>
        rw [compiled] at invalid
        cases invalid
        simp only [make, ofCall, matching, compiled]
        cases problem <;> rfl
    | _ => cases invalid

/-- A spelling gives the condition that it stands for, whatever its value holds, whatever white space stands
around it, whichever shape is tried first and whatever compiles regular expressions. An expression
that is none is left unrecognized if it is malformed; any other failure of the compiler is passed
on. -/
theorem parse_spelled (compiler : Compiler) {order : List Shape}
    (complete : ∀ shape, shape ∈ order) {shape : Shape} {quote : Char} (isQuote : IsQuote quote)
    {value spelled before behind : List Char} (line : '\n' ∉ value)
    (written : Written quote value shape spelled) (gap : Blank before) (space : Blank behind)
    (text : String) (given : text.toList = before ++ (spelled ++ behind)) :
    parseBy compiler order text = parseWith compiler text ∧
      (∀ condition, shape.meaning compiler (String.ofList value) = .ok condition →
        parseWith compiler text = .ok condition) ∧
      ∀ problem, shape.meaning compiler (String.ofList value) = .error problem →
        parseWith compiler text = refusal text problem := by
  have reading : Reading shape quote value (trim text.toList) := by
    rw [given]
    exact written.reading isQuote line gap space
  refine ⟨parseBy_eq compiler complete text, ?_, ?_⟩
  · intro condition meant
    rw [parseWith_reading compiler reading]
    exact make_meant meant
  · intro problem invalid
    rw [parseWith_reading compiler reading]
    exact make_refused invalid

/-- A value that holds both quotes and looks like the end of its own condition. -/
theorem parse_spelled_tricky :
    Written '\'' "it's (\") == 'x".toList (.call .nameContains)
        "name.includes( 'it's (\") == 'x')".toList ∧
      parse "\t name.includes( 'it's (\") == 'x') \n" = .ok (.nameContains "it's (\") == 'x") := by
  have written : Written '\'' "it's (\") == 'x".toList (.call .nameContains)
      "name.includes( 'it's (\") == 'x')".toList := by
    have same : "name.includes( 'it's (\") == 'x')".toList =
        Call.nameContains.word.toList ++ '(' :: ([' '] ++ '\'' ::
          ("it's (\") == 'x".toList ++ '\'' :: ([] ++ [')']))) := by simp [Call.word]
    rw [same]
    exact .call .nameContains [' '] [] rfl rfl
  have complete : ∀ shape, shape ∈ (Shape.kind :: calls.map .call).reverse :=
    fun shape => List.mem_reverse.mpr (mem_shapes shape)
  have gap : Blank "\t ".toList := rfl
  have space : Blank " \n".toList := rfl
  have recovered := parse_spelled compile complete (.inl rfl) (by simp) written gap space
    "\t name.includes( 'it's (\") == 'x') \n" (by simp)
  exact ⟨written, recovered.2.1 _ rfl⟩

theorem overlong_meaning :
    (Shape.call .nameMatches).meaning compile "a\x7b4294967296\x7d" =
      .error (.failure .tooLarge) := by
  have refused : (match Pattern.read { ignoreCase := true } "a\x7b4294967296\x7d".toList with
      | .error problem => decide (problem = .tooManyRounds)
      | .ok _ => false) = true := by decide +kernel
  rw [Shape.meaning, compile]
  cases read : Pattern.read { ignoreCase := true } "a\x7b4294967296\x7d".toList with
  | ok pattern =>
    rw [read] at refused
    cases refused
  | error problem =>
    rw [read] at refused
    obtain rfl := of_decide_eq_true refused
    rfl

/-- An expression with too many rounds is none, but its text is not left unrecognized. -/
theorem parse_overlong :
    Written '\'' "a\x7b4294967296\x7d".toList (.call .nameMatches)
        "name.matches('a\x7b4294967296\x7d')".toList ∧
      (Shape.call .nameMatches).meaning compile "a\x7b4294967296\x7d" =
        .error (.failure .tooLarge) ∧
      parse "name.matches('a\x7b4294967296\x7d')" ≠
        .ok (.unrecognized "name.matches('a\x7b4294967296\x7d')") := by
  have written : Written '\'' "a\x7b4294967296\x7d".toList (.call .nameMatches)
      "name.matches('a\x7b4294967296\x7d')".toList := by
    have same : "name.matches('a\x7b4294967296\x7d')".toList =
        Call.nameMatches.word.toList ++ '(' :: ([] ++ '\'' ::
          ("a\x7b4294967296\x7d".toList ++ '\'' :: ([] ++ [')']))) := by simp [Call.word]
    rw [same]
    exact .call .nameMatches [] [] rfl rfl
  have nothing : Blank [] := rfl
  have reading := written.reading (.inl rfl) (by simp) nothing nothing
  rw [List.append_nil] at reading
  refine ⟨written, overlong_meaning, ?_⟩
  rw [parse, parseWith_reading compile reading, String.ofList_toList,
    make_refused overlong_meaning]
  intro same
  cases same

end CodeAtlas.Rules.Condition
