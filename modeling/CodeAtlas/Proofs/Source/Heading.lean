import CodeAtlas.Proofs.Source.Leads
import CodeAtlas.Proofs.Source.Origin

set_option autoImplicit false

/-! Headings of declarations: what leads to the name, the name, and what ends it. The words of a
heading tell which shape has taken it. -/

namespace CodeAtlas.Source

open CodeAtlas.Pattern CodeAtlas.Text

theorem reaches_all_append {ps qs : List Pattern} {q : Pattern} {a c : Cursor}
    (reached : Reaches (Shape.all (ps ++ q :: qs)) a c) :
    ∃ b, Reaches (Shape.all ps) a b ∧ Reaches (Shape.all (q :: qs)) b c := by
  induction ps generalizing a with
  | nil => exact ⟨a, rfl, reached⟩
  | cons p ps ih =>
    cases ps with
    | nil => exact reached
    | cons p' ps =>
      obtain ⟨b, first, later⟩ := reached
      obtain ⟨d, second, last⟩ := ih later
      exact ⟨d, ⟨b, first, second⟩, last⟩

-- What a character of a pattern parts.
theorem reaches_char (ps qs : List Pattern) {e : Char} {a c : Cursor}
    (reached : Reaches (Shape.all (ps ++ Shape.char e :: qs)) a c) :
    ∃ one two, Passes a (one ++ e :: two) c ∧ Spells (Shape.all ps) one ∧ (qs = [] → two = []) := by
  obtain ⟨b, first, later⟩ := reaches_all_append reached
  obtain ⟨one, passed, spells⟩ := reaches_spells _ _ _ first
  cases qs with
  | nil =>
    obtain ⟨two, passed', spells'⟩ := reaches_spells (Shape.char e) _ _ later
    obtain rfl := spells_char spells'
    exact ⟨one, [], passed.trans passed', spells, fun _ => rfl⟩
  | cons q qs =>
    obtain ⟨d, second, last⟩ := later
    obtain ⟨two, passed', spells'⟩ := reaches_spells (Shape.char e) _ _ second
    obtain rfl := spells_char spells'
    obtain ⟨three, passed'', -⟩ := reaches_spells _ _ _ last
    exact ⟨one, three, passed.trans (passed'.trans passed''), spells, nofun⟩

def IsName (text : List Char) : Prop :=
  ∃ c rest, text = c :: rest ∧ isNameStart c = true ∧ ∀ d ∈ rest, isNameRest d = true

theorem IsName.each {text : List Char} (name : IsName text) (c : Char) (member : c ∈ text) :
    isNameRest c = true := by
  obtain ⟨first, rest, rfl, start, more⟩ := name
  rcases List.mem_cons.mp member with rfl | member
  · exact isNameRest_of_isNameStart c start
  · exact more c member

theorem spells_identifier {first : CharSet} (starts : ∀ c, first.holds c = true → isNameStart c = true)
    {text : List Char} (spells : Spells (Shape.identifier first) text) : IsName text := by
  obtain ⟨_, rest, rfl, ⟨c, rfl, holds⟩, more⟩ := spells
  refine ⟨c, rest, rfl, starts c holds, fun d member => ?_⟩
  rw [← nameRest_holds]
  exact (spells_loop_set more).2 d member

theorem IsName.ne_nil {text : List Char} (name : IsName text) : text ≠ [] := by
  obtain ⟨c, rest, rfl, -⟩ := name
  exact List.cons_ne_nil c rest

/-- A name stands in a signature behind `before`, and white space and what ends the name follow. -/
structure Declares (signature before name : List Char) : Prop where
  named : IsName name
  early : ∀ c ∈ before, endsName c = false
  split : ∃ gap c rest, signature = before ++ (name ++ (gap ++ c :: rest)) ∧
    (∀ d ∈ gap, isBlank d = true) ∧ endsName c = true

-- No identifier goes on behind the name.
theorem Declares.whole {signature before name : List Char} (declares : Declares signature before name) :
    ∃ c rest, signature = before ++ (name ++ c :: rest) ∧ isIdentifierChar c = false := by
  obtain ⟨gap, c, rest, rfl, blank, ends⟩ := declares.split
  cases gap with
  | nil => exact ⟨c, rest, rfl, not_isIdentifierChar_of_endsName ends⟩
  | cons d gap =>
    exact ⟨d, gap ++ c :: rest, rfl, not_isIdentifierChar_of_isBlank (blank d List.mem_cons_self)⟩

/-- The words of a signature up to what ends its name. -/
def headWords (text : List Char) : List (List Char) :=
  nameWords (text.takeWhile fun c => !endsName c)

theorem Declares.headWords_eq {signature before name : List Char}
    (declares : Declares signature before name) (more : List Char) :
    headWords (signature ++ more) = nameWords (before ++ name) := by
  obtain ⟨gap, c, rest, rfl, blank, ends⟩ := declares.split
  have clear : ∀ d ∈ before ++ name ++ gap, (!endsName d) = true := by
    intro d member
    rw [Bool.not_eq_true']
    rcases List.mem_append.mp member with member | member
    · rcases List.mem_append.mp member with member | member
      · exact declares.early d member
      · exact not_endsName_of_isNameRest (declares.named.each d member)
    · exact not_endsName_of_isBlank (blank d member)
  have text : before ++ (name ++ (gap ++ c :: rest)) ++ more =
      before ++ name ++ gap ++ c :: (rest ++ more) := by simp
  rw [headWords, text, List.takeWhile_append_of_pos clear,
    List.takeWhile_cons_of_neg (by simp [ends]), List.append_nil]
  cases gap with
  | nil => rw [List.append_nil]
  | cons d gap =>
    have other (e : Char) (member : e ∈ d :: gap) : isNameRest e = false :=
      not_isNameRest (not_isIdentifierChar_of_isBlank (blank e member))
    rw [nameWords_split (other d List.mem_cons_self),
      nameWords_gap fun e member => other e (List.mem_cons_of_mem d member), List.append_nil]

theorem Phrase.nameWords_name {words : List String} {before name : List Char}
    (phrase : Phrase words before) (plain : Plain words) (named : IsName name) :
    nameWords (before ++ name) = words.map String.toList ++ [name] := by
  rw [phrase.edge.words_append, phrase.words_eq plain, nameWords_word named.ne_nil named.each]

-- The words of two phrases in front of names agree, if all of them agree.
theorem words_unique {words others : List String} {name other : List Char}
    (same : words.map String.toList ++ [name] = others.map String.toList ++ [other]) :
    words = others ∧ name = other := by
  obtain ⟨front, last⟩ := List.append_inj' same rfl
  refine ⟨?_, by simpa using last⟩
  exact List.map_injective_iff.mpr (fun _ _ => String.toList_inj.mp) front

section

variable {kind kind' : Kind} {words words' : List String}
  {signature before name signature' before' name' more more' : List Char}

theorem Led.words_eq (led : Led kind words before) (declares : Declares signature before name)
    (led' : Led kind' words' before') (declares' : Declares signature' before' name')
    (same : signature ++ more = signature' ++ more') : words = words' ∧ name = name' := by
  have heads := declares.headWords_eq more
  rw [same, declares'.headWords_eq, led.phrase.nameWords_name led.plain declares.named,
    led'.phrase.nameWords_name led'.plain declares'.named] at heads
  exact words_unique heads.symm

theorem Led.unique (led : Led kind words before) (declares : Declares signature before name)
    (led' : Led kind' words' before') (declares' : Declares signature' before' name')
    (same : signature ++ more = signature' ++ more') : kind = kind' := by
  obtain ⟨rfl, -⟩ := led.words_eq declares led' declares' same
  exact led.fits.unique led'.fits

-- The same words lead to the same name at the same place.
theorem Led.before_eq (led : Led kind words before) (declares : Declares signature before name)
    (led' : Led kind' words' before') (declares' : Declares signature' before' name')
    (same : signature ++ more = signature' ++ more') : before = before' := by
  obtain ⟨rfl, rfl⟩ := led.words_eq declares led' declares' same
  obtain ⟨c, rest, rfl, start, -⟩ := declares.named
  obtain ⟨gap, d, behind, rfl, -⟩ := declares.split
  obtain ⟨gap', d', behind', rfl, -⟩ := declares'.split
  have start := isNameRest_of_isNameStart c start
  simp only [List.append_assoc, List.cons_append] at same
  exact led.phrase.unique led'.phrase led.plain start start same

end

-- Where the word function is glued to a name, only marks stand in front of them, so what else is
-- declared there is a method, and both together are its name.
theorem glued_apart {kind : Kind} {words : List String}
    {signature front name signature' before' name' more more' : List Char}
    (among : Among markWords front) (declares : Declares signature (front ++ "function".toList) name)
    (led : Led kind words before') (declares' : Declares signature' before' name')
    (same : signature ++ more = signature' ++ more') :
    kind = .method ∧ name' = "function".toList ++ name := by
  obtain ⟨used, known, phrase⟩ := among
  have joined : IsName ("function".toList ++ name) :=
    ⟨'f', "unction".toList ++ name, rfl, by decide, by
      intro c member
      rcases List.mem_append.mp member with member | member
      · have each : "unction".toList.all isNameRest = true := by decide
        exact List.all_eq_true.mp each c member
      · exact declares.named.each c member⟩
  have heads := declares.headWords_eq more
  rw [same, declares'.headWords_eq, led.phrase.nameWords_name led.plain declares'.named,
    List.append_assoc,
    phrase.nameWords_name (plain_of_known known (by decide)) joined] at heads
  obtain ⟨rfl, whole⟩ := words_unique heads
  refine ⟨?_, whole⟩
  cases kind with
  | method => rfl
  | component => exact led.fits.elim
  | function => exact absurd (known _ led.fits) (by decide)
  | arrow =>
    obtain ⟨-, word, binding, member⟩ := led.fits
    have apart : ∀ word ∈ bindingWords, word ∉ markWords := by decide
    exact absurd (known word member) (apart word binding)

/-- A signature in which a name stands between what leads to it and what ends it. -/
structure Headed (lead : List Pattern) (first : CharSet) (tail : List Pattern)
    (signature before name : List Char) : Prop where
  declares : Declares signature before name
  lead_spells : Spells (Shape.all lead) before
  name_spells : Spells (Shape.identifier first) name
  tail_spells : ∃ gap rest, signature = before ++ (name ++ (gap ++ rest)) ∧
    Spells (Shape.many Shape.space) gap ∧ Spells (Shape.all tail) rest

theorem headed {index : Nat} {first : CharSet} (lead : List Pattern) {rest : List Pattern}
    {p : Pattern} (early : nameEnds.all (fun e => (alphabet (Shape.all lead)).all fun s => !s.holds e) = true)
    (starts : ∀ c, first.holds c = true → isNameStart c = true)
    (full : nullable (Shape.all (p :: rest)) = false)
    (ends : ∀ s ∈ heads (Shape.all (p :: rest)), s ∈ nameEnds.map CharSet.char)
    (apart : bodies index (Shape.all (p :: rest)) = []) {a c : Cursor}
    (reached : Reaches (Shape.all (lead ++ .group index (Shape.identifier first) ::
      Shape.many Shape.space :: p :: rest)) a c) :
    ∃ signature before name, Passes a signature c ∧
      Headed lead first (p :: rest) signature before name ∧ c.group? index = some name := by
  obtain ⟨b, leadReached, _, ⟨inner, nameReached, rfl⟩, d, spaceReached, tailReached⟩ :=
    reaches_all_append reached
  obtain ⟨before, beforePassed, beforeSpells⟩ := reaches_spells _ _ _ leadReached
  obtain ⟨name, namePassed, nameSpells⟩ := reaches_spells _ _ _ nameReached
  obtain ⟨gap, gapPassed, gapSpells⟩ := reaches_spells _ _ _ spaceReached
  obtain ⟨tail, tailPassed, tailSpells⟩ := reaches_spells _ _ _ tailReached
  obtain ⟨tail', tailPassed', tailTakes⟩ := reaches_takes _ _ _ tailReached
  obtain rfl := tailPassed.unique tailPassed'
  obtain ⟨e, behind, rfl⟩ := List.exists_cons_of_ne_nil (tailTakes.nonempty full)
  obtain ⟨s, member, holds⟩ := tailTakes.head e rfl
  have closed : Passes b name (inner.close index b) := namePassed
  refine ⟨before ++ (name ++ (gap ++ e :: behind)), before, name,
    beforePassed.trans (closed.trans (gapPassed.trans tailPassed)),
    ⟨?_, beforeSpells, nameSpells, gap, e :: behind, rfl, gapSpells, tailSpells⟩, ?_⟩
  · refine ⟨spells_identifier starts nameSpells, ?_, gap, e, behind, rfl, spells_spaces gapSpells, ?_⟩
    · intro d member
      by_contra ends
      have apart := List.all_eq_true.mp early d (mem_nameEnds (by simpa using ends))
      exact not_mem_of_spells apart beforeSpells member
    · obtain ⟨d, inside, rfl⟩ := List.mem_map.mp (ends s member)
      rw [(CharSet.char_holds d e).mp holds]
      simpa [endsName] using inside
  · -- Nothing behind the name closes its group again.
    have kept (q : Pattern) (none : bodies index q = []) {x y : Cursor} (reached : Reaches q x y) :
        y.group? index = x.group? index := by
      rcases reaches_tracks index q x y reached with ⟨body, inside, -⟩ | ⟨same, -⟩
      · rw [none] at inside
        cases inside
      · exact same
    rw [kept _ apart tailReached, kept _ rfl spaceReached, group?_close, if_pos (beq_self_eq_true index),
      namePassed.upTo_eq]

def functionBody : List Pattern :=
  functionLead ++ [.group 1 (Shape.identifier Shape.nameStart), Shape.many Shape.space,
    Shape.typeParameters, Shape.char '(']

def arrowBody : List Pattern :=
  arrowLead ++ [.group 1 (Shape.identifier Shape.nameStart), Shape.many Shape.space,
    Shape.maybe (.seq (Shape.char ':') (Shape.several Shape.notAssignment)), Shape.char '=',
    Shape.many Shape.space, Shape.maybe (Shape.spaced "async"), Shape.typeParameters,
    Shape.parameters, Shape.many Shape.space,
    Shape.maybe (Shape.all [Shape.char ':', Shape.many Shape.space,
      Shape.fewest Shape.notAssignment]), Shape.many Shape.space, Shape.word "=>"]

def methodBody : List Pattern :=
  [Shape.modifiers, .group 1 (Shape.identifier Shape.nameStart), Shape.many Shape.space,
    Shape.typeParameters, Shape.parameters, Shape.many Shape.space,
    Shape.maybe (Shape.all [Shape.char ':', Shape.many Shape.space,
      Shape.several (.set (Shape.setExcept [.char '\x7b', .char ';', .char '\n']))]),
    Shape.char '\x7b']

-- What the shapes that find units take behind a margin.
theorem finders_body {shape : DeclarationShape} (member : shape ∈ finders) {body : Pattern}
    (lined : Lined shape.pattern body) :
    shape.kind = .function ∧ body = Shape.all functionBody ∨
      shape.kind = .arrow ∧ body = Shape.all arrowBody ∨
        shape.kind = .method ∧ body = Shape.all methodBody := by
  have same := lined.shape
  rcases mem_finders.mp member with rfl | rfl | rfl
  · exact .inl ⟨rfl, (Pattern.seq.inj (Pattern.seq.inj same).2).2.symm⟩
  · exact .inr (.inl ⟨rfl, (Pattern.seq.inj (Pattern.seq.inj same).2).2.symm⟩)
  · exact .inr (.inr ⟨rfl, (Pattern.seq.inj (Pattern.seq.inj same).2).2.symm⟩)

/-- What leads to the name, in the shape that finds units of a kind. -/
def leadOf : Kind → List Pattern
  | .function => functionLead
  | .arrow => arrowLead
  | .method => [Shape.modifiers]
  | .component => []

/-- What follows the name and the white space behind it. -/
def tailOf : Kind → List Pattern
  | .function => functionBody.drop 9
  | .arrow => arrowBody.drop 5
  | .method => methodBody.drop 3
  | .component => []

theorem leadOf_lead {kind : Kind} (finds : kind ≠ .component) {text : List Char}
    (spells : Spells (Shape.all (leadOf kind)) text) : Lead kind text := by
  cases kind with
  | function => exact functionLead_lead spells
  | arrow => exact arrowLead_lead spells
  | method => exact modifiers_lead spells
  | component => exact absurd rfl finds

theorem finders_headed {shape : DeclarationShape} (member : shape ∈ finders) {body : Pattern}
    (lined : Lined shape.pattern body) {a c : Cursor} (reached : Reaches body a c) :
    ∃ signature before name, Passes a signature c ∧
      Headed (leadOf shape.kind) Shape.nameStart (tailOf shape.kind) signature before name ∧
      c.group? 1 = some name := by
  have starts (c : Char) (holds : Shape.nameStart.holds c = true) : isNameStart c = true := by
    rwa [← nameStart_holds]
  rcases finders_body member lined with ⟨kind, rfl⟩ | ⟨kind, rfl⟩ | ⟨kind, rfl⟩ <;> rw [kind]
  · exact headed functionLead (by decide) starts rfl (by decide) rfl reached
  · exact headed arrowLead (by decide) starts rfl (by decide) rfl reached
  · exact headed [Shape.modifiers] (by decide) starts rfl (by decide) rfl reached

/-- The first character of its kind ends a signature that the refining shape takes. -/
def closer : Kind → Char
  | .arrow => '='
  | .function | .method | .component => '('

-- No signature of a function or of an arrow function goes without it.
theorem finders_closer (shape : DeclarationShape) (member : shape ∈ finders)
    (other : shape.kind ≠ .method) {body : Pattern} (lined : Lined shape.pattern body) {a c : Cursor}
    (reached : Reaches body a c) : ∃ one two, Passes a (one ++ closer shape.kind :: two) c := by
  rcases finders_body member lined with ⟨kind, rfl⟩ | ⟨kind, rfl⟩ | ⟨kind, rfl⟩
  · obtain ⟨one, two, passed, -⟩ := reaches_char functionBody.dropLast [] reached
    exact ⟨one, two, kind ▸ passed⟩
  · obtain ⟨one, two, passed, -⟩ := reaches_char (arrowBody.take 6) (arrowBody.drop 7) reached
    exact ⟨one, two, kind ▸ passed⟩
  · exact absurd kind other

def functionComponent : List Pattern :=
  componentLead ++ [Shape.upperName 1, Shape.many Shape.space, Shape.typeParameters, Shape.char '(']

def constComponent : List Pattern :=
  constLead ++ [Shape.upperName 2, Shape.many Shape.space,
    Shape.maybe (.seq (Shape.char ':') (Shape.several Shape.notAssignment)), Shape.char '=']

def componentBody : Pattern :=
  .seq (Shape.spaced "export") (.seq (Shape.maybe (Shape.spaced "default"))
    (.choice (Shape.all (functionComponent.drop 2)) (Shape.all (constComponent.drop 2))))

theorem component_margined : Margined Shape.component componentBody :=
  ⟨rfl, by decide, by decide, by decide, rfl⟩

theorem component_reaches {a c : Cursor} (reached : Reaches componentBody a c) :
    Reaches (Shape.all functionComponent) a c ∨ Reaches (Shape.all constComponent) a c := by
  obtain ⟨b, exported, d, default, alternative⟩ := reached
  exact alternative.imp (fun last => ⟨b, exported, d, default, last⟩)
    fun last => ⟨b, exported, d, default, last⟩

theorem upper_holds (c : Char) : (Shape.setOf [Shape.upperLetters]).holds c = c.isUpper := by
  have upper : c.isUpper = true ↔ 65 ≤ c.toNat ∧ c.toNat ≤ 90 := decide_eq_true_iff
  rw [Bool.eq_iff_iff, upper]
  simp only [CharSet.holds, Shape.setOf, CharSet.itemHolds, Folding.fold, Shape.upperLetters,
    List.any_cons, List.any_nil, Bool.or_false, beq_true, exact_within]
  rfl

theorem isNameStart_of_upper (c : Char) (holds : (Shape.setOf [Shape.upperLetters]).holds c = true) :
    isNameStart c = true := by
  rw [upper_holds] at holds
  have letter : c.isAlpha = (c.isUpper || c.isLower) := rfl
  simp [isNameStart, letter, holds]

theorem functionComponent_headed {a c : Cursor} (reached : Reaches (Shape.all functionComponent) a c) :
    ∃ signature before name, Passes a signature c ∧
      Headed componentLead (Shape.setOf [Shape.upperLetters]) (functionComponent.drop 6) signature
        before name ∧ c.group? 1 = some name :=
  headed componentLead (by decide) isNameStart_of_upper rfl (by decide) rfl reached

theorem constComponent_headed {a c : Cursor} (reached : Reaches (Shape.all constComponent) a c) :
    ∃ signature before name, Passes a signature c ∧
      Headed constLead (Shape.setOf [Shape.upperLetters]) (constComponent.drop 5) signature
        before name ∧ c.group? 2 = some name :=
  headed constLead (by decide) isNameStart_of_upper rfl (by decide) rfl reached

/-- A signature that the refining shape takes. -/
structure Exported (kind : Kind) (signature : List Char) : Prop where
  other : kind ≠ .method
  led : ∃ words before name, Declares signature before name ∧ Led kind words before
  closed : ∃ init, signature = init ++ [closer kind] ∧ closer kind ∉ init

-- The only closer that such a pattern takes is its last character.
theorem closed_of_parts {closer : Char} (parts : List Pattern)
    (apart : (alphabet (Shape.all parts)).all (fun s => !s.holds closer) = true) {a c : Cursor}
    {signature : List Char} (passed : Passes a signature c)
    (reached : Reaches (Shape.all (parts ++ [Shape.char closer])) a c) :
    ∃ init, signature = init ++ [closer] ∧ closer ∉ init := by
  obtain ⟨init, two, closed, spells, last⟩ := reaches_char parts [] reached
  obtain rfl := last rfl
  exact ⟨init, passed.unique closed, not_mem_of_spells apart spells⟩

theorem component_exported {a c : Cursor} (reached : Reaches componentBody a c) :
    ∃ kind signature, Passes a signature c ∧ Exported kind signature := by
  rcases component_reaches reached with reached | reached
  · obtain ⟨signature, before, name, passed, headed, -⟩ := functionComponent_headed reached
    obtain ⟨words, led⟩ := componentLead_led headed.lead_spells
    exact ⟨.function, signature, passed, by decide, ⟨words, before, name, headed.declares, led⟩,
      closed_of_parts functionComponent.dropLast (by decide) passed reached⟩
  · obtain ⟨signature, before, name, passed, headed, -⟩ := constComponent_headed reached
    obtain ⟨words, led⟩ := constLead_led headed.lead_spells
    exact ⟨.arrow, signature, passed, by decide, ⟨words, before, name, headed.declares, led⟩,
      closed_of_parts constComponent.dropLast (by decide) passed reached⟩

end CodeAtlas.Source
