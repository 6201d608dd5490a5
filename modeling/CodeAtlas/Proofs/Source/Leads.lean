import CodeAtlas.Proofs.Pattern.Spelling
import CodeAtlas.Proofs.Source.Words
import CodeAtlas.Source.Shape

set_option autoImplicit false

/-! What leads to the name of a declaration: words that tell its kind, each with a gap behind it. The
word `function` alone may do without its gap. -/

namespace CodeAtlas.Source

open CodeAtlas.Pattern CodeAtlas.Text

theorem spells_char {c : Char} {text : List Char} (spells : Spells (Shape.char c) text) :
    text = [c] := by
  obtain ⟨d, rfl, holds⟩ := spells
  rw [(CharSet.char_holds c d).mp holds]

theorem spells_chars {cs text : List Char} (spells : Spells (Shape.all (cs.map Shape.char)) text) :
    text = cs := by
  induction cs generalizing text with
  | nil => exact spells
  | cons c cs ih =>
    cases cs with
    | nil => exact spells_char spells
    | cons d cs =>
      obtain ⟨one, two, rfl, first, later⟩ := spells
      rw [spells_char first, ih later]
      rfl

theorem spells_word {word : String} {text : List Char} (spells : Spells (Shape.word word) text) :
    text = word.toList :=
  spells_chars spells

theorem spells_loop_set {s : CharSet} {least : Nat} {most : Option Nat} {greed : Greed}
    {text : List Char} (spells : Spells (.loop (.set s) least most greed) text) :
    least ≤ text.length ∧ ∀ c ∈ text, s.holds c = true := by
  obtain ⟨pieces, rfl, allowed, each⟩ := spells
  constructor
  · have single : pieces.map List.length = List.replicate pieces.length 1 := by
      apply List.eq_replicate_iff.mpr ⟨by simp, ?_⟩
      intro size member
      obtain ⟨piece, inside, rfl⟩ := List.mem_map.mp member
      obtain ⟨c, rfl, -⟩ := each piece inside
      rfl
    rw [List.length_flatten, single]
    simpa using allowed.1
  · intro c member
    obtain ⟨piece, inside, member⟩ := List.mem_flatten.mp member
    obtain ⟨d, rfl, holds⟩ := each piece inside
    rwa [List.mem_singleton.mp member]

theorem spells_spaces {text : List Char} (spells : Spells (Shape.many Shape.space) text) (c : Char)
    (member : c ∈ text) : isBlank c = true := by
  rw [← blank_holds]
  exact (spells_loop_set spells).2 c member

theorem spells_several_spaces {text : List Char}
    (spells : Spells (Shape.several Shape.space) text) :
    text ≠ [] ∧ ∀ c ∈ text, isBlank c = true := by
  obtain ⟨wide, holds⟩ := spells_loop_set spells
  refine ⟨List.ne_nil_of_length_pos wide, fun c member => ?_⟩
  rw [← blank_holds]
  exact holds c member

theorem spells_spaced {word : String} {text : List Char} (spells : Spells (Shape.spaced word) text) :
    Spaced [word] text := by
  obtain ⟨one, two, rfl, first, second⟩ := spells
  obtain ⟨wide, blank⟩ := spells_several_spaces second
  rw [spells_word first]
  exact .single word wide blank

theorem spells_all_cons {p : Pattern} {ps : List Pattern} {text : List Char} :
    Spells (Shape.all (p :: ps)) text ↔
      ∃ one two, text = one ++ two ∧ Spells p one ∧ Spells (Shape.all ps) two := by
  cases ps with
  | nil =>
    constructor
    · exact fun spells => ⟨text, [], by simp, spells, rfl⟩
    · rintro ⟨one, two, rfl, spells, rfl⟩
      rwa [List.append_nil]
  | cons q ps => exact Iff.rfl

theorem spells_all_append {ps qs : List Pattern} {text : List Char} :
    Spells (Shape.all (ps ++ qs)) text ↔
      ∃ one two, text = one ++ two ∧ Spells (Shape.all ps) one ∧ Spells (Shape.all qs) two := by
  induction ps generalizing text with
  | nil =>
    constructor
    · exact fun spells => ⟨[], text, rfl, rfl, spells⟩
    · rintro ⟨_, two, rfl, rfl, spells⟩
      exact spells
  | cons p ps ih =>
    rw [List.cons_append, spells_all_cons]
    constructor
    · rintro ⟨one, _, rfl, first, later⟩
      obtain ⟨two, three, rfl, second, third⟩ := ih.mp later
      exact ⟨one ++ two, three, (List.append_assoc _ _ _).symm,
        spells_all_cons.mpr ⟨one, two, rfl, first, second⟩, third⟩
    · rintro ⟨_, three, rfl, front, third⟩
      obtain ⟨one, two, rfl, first, second⟩ := spells_all_cons.mp front
      exact ⟨one, two ++ three, List.append_assoc _ _ _, first, ih.mpr ⟨two, three, rfl, second, third⟩⟩

theorem chars_spell (cs : List Char) : Spells (Shape.all (cs.map Shape.char)) cs := by
  induction cs with
  | nil => rfl
  | cons c cs ih =>
    rw [List.map_cons, spells_all_cons]
    exact ⟨[c], cs, rfl, ⟨c, rfl, (CharSet.char_holds c c).mpr rfl⟩, ih⟩

theorem loop_set_spells {s : CharSet} {least : Nat} {text : List Char} (greed : Greed)
    (enough : least ≤ text.length) (each : ∀ c ∈ text, s.holds c = true) :
    Spells (.loop (.set s) least none greed) text := by
  refine ⟨text.map fun c => [c], ?_, ⟨by simpa using enough, nofun⟩, ?_⟩
  · rw [← List.flatMap_def, List.flatMap_singleton']
  · intro piece member
    obtain ⟨c, inside, rfl⟩ := List.mem_map.mp member
    exact ⟨c, rfl, each c inside⟩

theorem spaced_spells (word : String) {gap : List Char} (wide : gap ≠ [])
    (blank : ∀ c ∈ gap, isBlank c = true) : Spells (Shape.spaced word) (word.toList ++ gap) := by
  refine ⟨word.toList, gap, rfl, chars_spell _, loop_set_spells _ ?_ ?_⟩
  · exact List.length_pos_of_ne_nil wide
  · exact fun c member => (blank_holds c).trans (blank c member)

/-- A word in front of a name, and whether it may be left out. -/
structure LeadWord where
  word : String
  optional : Bool

def LeadWord.pattern (w : LeadWord) : Pattern :=
  if w.optional then Shape.maybe (Shape.spaced w.word) else Shape.spaced w.word

-- The words in front of a name, in all the ways to leave some of them out.
def leadWords : List LeadWord → List (List String)
  | [] => [[]]
  | w :: rest => (leadWords rest).map (w.word :: ·) ++ if w.optional then leadWords rest else []

-- Such words are taken just if each of them has white space behind it.
theorem spells_leadWords (parts : List LeadWord) {text : List Char} :
    Spells (Shape.all (parts.map LeadWord.pattern)) text ↔
      ∃ words ∈ leadWords parts, Spaced words text := by
  induction parts generalizing text with
  | nil =>
    constructor
    · rintro rfl
      exact ⟨[], List.mem_cons_self, .nil⟩
    · rintro ⟨words, member, spaced⟩
      obtain rfl := List.mem_singleton.mp member
      cases spaced
      rfl
  | cons w parts ih =>
    rw [List.map_cons, spells_all_cons, leadWords]
    constructor
    · rintro ⟨one, two, rfl, first, later⟩
      obtain ⟨words, member, spaced⟩ := ih.mp later
      have whole (spells : Spells (Shape.spaced w.word) one) :
          ∃ words ∈ (leadWords parts).map (w.word :: ·) ++ if w.optional then leadWords parts else [],
            Spaced words (one ++ two) :=
        ⟨w.word :: words, List.mem_append_left _ (List.mem_map_of_mem member),
          (spells_spaced spells).append spaced⟩
      unfold LeadWord.pattern at first
      split at first
      next optional =>
        rcases spells_maybe first with rfl | first
        · exact ⟨words, List.mem_append_right _ (by rwa [if_pos optional]), spaced⟩
        · exact whole first
      next => exact whole first
    · rintro ⟨words, member, spaced⟩
      rcases List.mem_append.mp member with member | member
      · obtain ⟨words, inside, rfl⟩ := List.mem_map.mp member
        cases spaced with
        | cons _ gap wide blank later =>
          refine ⟨w.word.toList ++ gap, _, (List.append_assoc _ _ _).symm, ?_,
            ih.mpr ⟨words, inside, later⟩⟩
          have spells := spaced_spells w.word wide blank
          unfold LeadWord.pattern
          split
          · exact maybe_spells spells
          · exact spells
      · split at member
        next optional =>
          refine ⟨[], text, rfl, ?_, ih.mpr ⟨words, member, spaced⟩⟩
          rw [LeadWord.pattern, if_pos optional]
          exact maybe_spells_nil
        next => cases member

/-- Words of a list, with gaps behind them. -/
def Among (words : List String) (text : List Char) : Prop :=
  ∃ used, (∀ word ∈ used, word ∈ words) ∧ Phrase used text

namespace Among

variable {words : List String} {one two : List Char}

theorem nil : Among words [] :=
  ⟨[], by simp, .nil⟩

theorem single {word : String} (known : word ∈ words) (phrase : Phrase [word] one) :
    Among words one :=
  ⟨[word], by simpa using known, phrase⟩

theorem append (first : Among words one) (second : Among words two) : Among words (one ++ two) := by
  obtain ⟨used, known, phrase⟩ := first
  obtain ⟨more, others, rest⟩ := second
  refine ⟨used ++ more, ?_, phrase.append rest⟩
  intro word member
  exact (List.mem_append.mp member).elim (known word) (others word)

theorem flatten {pieces : List (List Char)} (each : ∀ piece ∈ pieces, Among words piece) :
    Among words pieces.flatten := by
  induction pieces with
  | nil => exact nil
  | cons piece pieces ih =>
    rw [List.flatten_cons]
    refine (each piece List.mem_cons_self).append (ih fun other member => ?_)
    exact each other (List.mem_cons_of_mem piece member)

end Among

theorem spells_maybe_spaced {words : List String} {word : String} {text : List Char}
    (known : word ∈ words) (spells : Spells (Shape.maybe (Shape.spaced word)) text) :
    Among words text := by
  rcases spells_maybe spells with rfl | spells
  · exact .nil
  · exact .single known (spells_spaced spells).phrase

theorem spells_oneOf {words : List String} (some : words ≠ []) {text : List Char}
    (spells : Spells (Shape.oneOf (words.map Shape.word)) text) :
    ∃ word ∈ words, text = word.toList := by
  induction words with
  | nil => exact absurd rfl some
  | cons word words ih =>
    cases words with
    | nil => exact ⟨word, by simp, spells_word spells⟩
    | cons other words =>
      rcases spells with spells | spells
      · exact ⟨word, by simp, spells_word spells⟩
      · obtain ⟨found, member, same⟩ := ih (by simp) spells
        exact ⟨found, List.mem_cons_of_mem word member, same⟩

-- One of the words, with white space behind it.
theorem spells_oneOf_spaced {words : List String} (some : words ≠ []) {text : List Char}
    (spells : Spells (.seq (Shape.oneOf (words.map Shape.word)) (Shape.several Shape.space)) text) :
    ∃ word ∈ words, Phrase [word] text := by
  obtain ⟨one, two, rfl, first, second⟩ := spells
  obtain ⟨word, member, rfl⟩ := spells_oneOf some first
  obtain ⟨wide, blank⟩ := spells_several_spaces second
  exact ⟨word, member, (Spaced.single word wide blank).phrase⟩

def markWords : List String := ["export", "default", "async"]

def bindingWords : List String := ["const", "let", "var"]

def modifierWords : List String :=
  ["public", "private", "protected", "static", "async", "get", "set"]

/-- The words in front of a name tell what is declared. -/
def Fits : Kind → List String → Prop
  | .function, words => "function" ∈ words
  | .arrow, words => "function" ∉ words ∧ ∃ word ∈ bindingWords, word ∈ words
  | .method, words => ∀ word ∈ words, word ∈ modifierWords
  | .component, _ => False

theorem Fits.unique {kind other : Kind} {words : List String} (one : Fits kind words)
    (two : Fits other words) : kind = other := by
  have function_method (one : Fits .function words) (two : Fits .method words) : False :=
    absurd (two _ one) (by decide)
  have arrow_method (one : Fits .arrow words) (two : Fits .method words) : False := by
    obtain ⟨-, word, binding, member⟩ := one
    have apart : ∀ word ∈ bindingWords, word ∉ modifierWords := by decide
    exact apart word binding (two word member)
  cases kind <;> cases other <;> first
    | rfl
    | exact absurd one id
    | exact absurd two id
    | exact absurd one two.1
    | exact absurd two one.1
    | exact (function_method one two).elim
    | exact (function_method two one).elim
    | exact (arrow_method one two).elim
    | exact (arrow_method two one).elim

theorem plain_of_known {words known : List String} (members : ∀ word ∈ words, word ∈ known)
    (plain : Plain known) : Plain words :=
  fun word member => plain word (members word member)

/-- Words that tell what is declared, with gaps behind them. -/
structure Led (kind : Kind) (words : List String) (text : List Char) : Prop where
  plain : Plain words
  fits : Fits kind words
  phrase : Phrase words text

/-- What leads to the name of a declaration: words that tell its kind, or the word `function` with
nothing behind it. -/
inductive Lead : Kind → List Char → Prop
  | apart {kind : Kind} {text : List Char} (words : List String) (led : Led kind words text) :
      Lead kind text
  | glued (front : List Char) (among : Among markWords front) :
      Lead .function (front ++ "function".toList)

-- The last word tells what is declared.
theorem Among.led {known : List String} {kind : Kind} {word : String} {front last : List Char}
    (among : Among known front) (phrase : Phrase [word] last) (plain : Plain (word :: known))
    (fits : ∀ used, (∀ other ∈ used, other ∈ known) → Fits kind (used ++ [word])) :
    ∃ words, Led kind words (front ++ last) := by
  obtain ⟨used, members, before⟩ := among
  refine ⟨used ++ [word], ?_, fits used members, before.append phrase⟩
  intro other member
  rcases List.mem_append.mp member with member | member
  · exact plain other (List.mem_cons_of_mem _ (members other member))
  · exact plain other (by simp [List.mem_singleton.mp member])

theorem fits_function (used : List String) : Fits .function (used ++ ["function"]) :=
  List.mem_append_right used List.mem_cons_self

theorem fits_arrow {known used : List String} {word : String} (members : ∀ other ∈ used, other ∈ known)
    (apart : "function" ∉ known) (binding : word ∈ bindingWords) : Fits .arrow (used ++ [word]) := by
  refine ⟨?_, word, binding, by simp⟩
  intro member
  rcases List.mem_append.mp member with member | member
  · exact apart (members _ member)
  · rw [← List.mem_singleton.mp member] at binding
    exact absurd binding (by decide)

def functionLead : List Pattern :=
  [Shape.maybe (Shape.spaced "export"), Shape.maybe (Shape.spaced "default"),
    Shape.maybe (Shape.spaced "async"), Shape.word "function", Shape.many Shape.space,
    Shape.maybe (Shape.char '*'), Shape.many Shape.space]

def arrowLead : List Pattern :=
  [Shape.maybe (Shape.spaced "export"), Shape.oneOf (bindingWords.map Shape.word),
    Shape.several Shape.space]

theorem functionLead_lead {text : List Char} (spells : Spells (Shape.all functionLead) text) :
    Lead .function text := by
  obtain ⟨one, _, rfl, exported, two, _, rfl, default, three, _, rfl, async, word, _, rfl, keyword,
    four, _, rfl, spaces, five, six, rfl, star, more⟩ := spells
  have front : Among markWords (one ++ (two ++ three)) := by
    have first := spells_maybe_spaced (by decide : "export" ∈ markWords) exported
    have second := spells_maybe_spaced (by decide : "default" ∈ markWords) default
    have third := spells_maybe_spaced (by decide : "async" ∈ markWords) async
    exact first.append (second.append third)
  have gaps : ∀ c ∈ four ++ (five ++ six), isGap c = true := by
    intro c member
    rcases List.mem_append.mp member with member | member
    · exact isGap_of_isBlank (spells_spaces spaces c member)
    · rcases List.mem_append.mp member with member | member
      · rcases spells_maybe star with rfl | star
        · cases member
        · rw [spells_char star] at member
          rw [List.mem_singleton.mp member]
          decide
      · exact isGap_of_isBlank (spells_spaces more c member)
  rw [spells_word keyword]
  have split : one ++ (two ++ (three ++ ("function".toList ++ (four ++ (five ++ six))))) =
      (one ++ (two ++ three)) ++ ("function".toList ++ (four ++ (five ++ six))) := by simp
  rw [split]
  by_cases wide : four ++ (five ++ six) = []
  · rw [wide, List.append_nil]
    exact .glued _ front
  · obtain ⟨words, led⟩ :=
      front.led (.single _ wide gaps) (by decide) fun used _ => fits_function used
    exact .apart words led

theorem arrowLead_lead {text : List Char} (spells : Spells (Shape.all arrowLead) text) :
    Lead .arrow text := by
  obtain ⟨one, two, rfl, exported, binding⟩ := spells
  obtain ⟨word, member, phrase⟩ := spells_oneOf_spaced (by decide : bindingWords ≠ []) binding
  have front := spells_maybe_spaced (by decide : "export" ∈ markWords) exported
  have each : ∀ word ∈ bindingWords, Plain (word :: markWords) := by decide
  obtain ⟨words, led⟩ :=
    front.led phrase (each word member) fun used known => fits_arrow known (by decide) member
  exact .apart words led

def componentLead : List Pattern :=
  [Shape.spaced "export", Shape.maybe (Shape.spaced "default"), Shape.maybe (Shape.spaced "async"),
    Shape.spaced "function"]

def constLead : List Pattern :=
  [Shape.spaced "export", Shape.maybe (Shape.spaced "default"), Shape.spaced "const"]

def componentParts : List LeadWord :=
  [⟨"export", false⟩, ⟨"default", true⟩, ⟨"async", true⟩, ⟨"function", false⟩]

def constParts : List LeadWord :=
  [⟨"export", false⟩, ⟨"default", true⟩, ⟨"const", false⟩]

/-- The words in front of the name of a function that the refining shape takes. -/
def componentWords : List (List String) :=
  leadWords componentParts

/-- The words in front of the name of a value that the refining shape takes. -/
def constWords : List (List String) :=
  leadWords constParts

theorem spells_componentLead {text : List Char} :
    Spells (Shape.all componentLead) text ↔ ∃ words ∈ componentWords, Spaced words text :=
  spells_leadWords componentParts

theorem spells_constLead {text : List Char} :
    Spells (Shape.all constLead) text ↔ ∃ words ∈ constWords, Spaced words text :=
  spells_leadWords constParts

theorem componentWords_led : ∀ words ∈ componentWords, Plain words ∧ Fits .function words := by
  have each : ∀ words ∈ componentWords, Plain words ∧ "function" ∈ words := by decide
  exact each

theorem constWords_led : ∀ words ∈ constWords, Plain words ∧ Fits .arrow words := by
  have each : ∀ words ∈ constWords, Plain words ∧ "function" ∉ words ∧ "const" ∈ words := by decide
  intro words member
  obtain ⟨plain, apart, binding⟩ := each words member
  exact ⟨plain, apart, "const", by decide, binding⟩

theorem componentLead_led {text : List Char} (spells : Spells (Shape.all componentLead) text) :
    ∃ words, Led .function words text := by
  obtain ⟨words, member, spaced⟩ := spells_componentLead.mp spells
  obtain ⟨plain, fits⟩ := componentWords_led words member
  exact ⟨words, plain, fits, spaced.phrase⟩

theorem constLead_led {text : List Char} (spells : Spells (Shape.all constLead) text) :
    ∃ words, Led .arrow words text := by
  obtain ⟨words, member, spaced⟩ := spells_constLead.mp spells
  obtain ⟨plain, fits⟩ := constWords_led words member
  exact ⟨words, plain, fits, spaced.phrase⟩

theorem modifiers_lead {text : List Char} (spells : Spells Shape.modifiers text) :
    Lead .method text := by
  obtain ⟨pieces, rfl, -, each⟩ := spells
  have all : Among modifierWords pieces.flatten := by
    refine .flatten fun piece member => ?_
    obtain ⟨word, known, phrase⟩ :=
      spells_oneOf_spaced (by decide : modifierWords ≠ []) (each piece member)
    exact .single known phrase
  obtain ⟨used, known, phrase⟩ := all
  exact .apart used ⟨plain_of_known known (by decide), known, phrase⟩

end CodeAtlas.Source
