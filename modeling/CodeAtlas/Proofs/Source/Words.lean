import CodeAtlas.Proofs.Source.Calls
import CodeAtlas.Proofs.Text.Runs

set_option autoImplicit false

/-! Words of a text, where identifiers end, and phrases of words with white space behind each. -/

namespace CodeAtlas.Source

open CodeAtlas.Text

/-- Letters, digits, the underscore and the dollar sign. -/
def isIdentifierChar (c : Char) : Bool :=
  isWord c || c = '$'

theorem isIdentifierChar_of_isNameRest {c : Char} (rest : isNameRest c = true) :
    isIdentifierChar c = true := by
  simp only [isNameRest, Bool.or_eq_true, decide_eq_true_eq] at rest
  rcases rest with (letter | rfl) | rfl
  · simp [isIdentifierChar, isWord, isAsciiWord, letter]
  · decide
  · decide

-- Ranges that lie apart hold no number in common.
theorem inRanges_apart {left right : List (Nat × Nat)} {code : Nat}
    (apart : left.all (fun (low, high) => right.all fun (first, last) =>
      high < first || last < low) = true)
    (inside : inRanges left code = true) : inRanges right code = false := by
  obtain ⟨⟨low, high⟩, member, within⟩ := List.any_eq_true.mp inside
  apply List.any_eq_false.mpr
  rintro ⟨first, last⟩ other both
  have clear := List.all_eq_true.mp (List.all_eq_true.mp apart _ member) _ other
  simp only [Bool.and_eq_true, Bool.or_eq_true, decide_eq_true_eq] at within both clear
  omega

theorem not_isIdentifierChar_of_isBlank {c : Char} (blank : isBlank c = true) :
    isIdentifierChar c = false := by
  have other : isNameRest c = false := by
    by_contra rest
    rw [isBlank_of_isNameRest c (by simpa using rest)] at blank
    cases blank
  have far : inRanges wordRanges c.toNat = false :=
    inRanges_apart (by decide +kernel) blank
  simp only [isNameRest, Bool.or_eq_false_iff] at other
  simp only [isIdentifierChar, isWord, isAsciiWord, far, other.1.1, other.2, Bool.and_false,
    Bool.or_false, Bool.false_or]
  simpa using other.1.2

theorem not_isNameRest {c : Char} (other : isIdentifierChar c = false) : isNameRest c = false := by
  by_contra rest
  rw [isIdentifierChar_of_isNameRest (by simpa using rest)] at other
  cases other

/-- What may stand between the words of a declaration. -/
def isGap (c : Char) : Bool :=
  isBlank c || c = '*'

theorem isGap_of_isBlank {c : Char} (blank : isBlank c = true) : isGap c = true := by
  simp [isGap, blank]

theorem not_isIdentifierChar_of_isGap {c : Char} (gap : isGap c = true) :
    isIdentifierChar c = false := by
  simp only [isGap, Bool.or_eq_true, decide_eq_true_eq] at gap
  rcases gap with blank | rfl
  · exact not_isIdentifierChar_of_isBlank blank
  · decide

theorem not_isGap_of_isNameRest {c : Char} (rest : isNameRest c = true) : isGap c = false := by
  by_contra gap
  have other := not_isIdentifierChar_of_isGap (by simpa using gap)
  rw [isIdentifierChar_of_isNameRest rest] at other
  cases other

/-- What may follow the name of a declaration: parameters, a type or a value begin there. -/
def nameEnds : List Char := ['(', '<', ':', '=']

def endsName (c : Char) : Bool :=
  nameEnds.contains c

theorem mem_nameEnds {c : Char} (ends : endsName c = true) : c ∈ nameEnds := by
  simpa [endsName] using ends

theorem not_isIdentifierChar_of_endsName {c : Char} (ends : endsName c = true) :
    isIdentifierChar c = false := by
  have each : nameEnds.all (!isIdentifierChar ·) = true := by decide
  simpa using List.all_eq_true.mp each c (mem_nameEnds ends)

theorem not_endsName_of_isNameRest {c : Char} (rest : isNameRest c = true) :
    endsName c = false := by
  by_contra ends
  have other := not_isIdentifierChar_of_endsName (by simpa using ends)
  rw [isIdentifierChar_of_isNameRest rest] at other
  cases other

theorem not_endsName_of_isBlank {c : Char} (blank : isBlank c = true) : endsName c = false := by
  by_contra ends
  have each : nameEnds.all (!isBlank ·) = true := by decide
  have ink := List.all_eq_true.mp each c (mem_nameEnds (by simpa using ends))
  rw [blank] at ink
  cases ink

/-- No identifier reaches up to the end of the text. -/
def Edge (text : List Char) : Prop :=
  ∀ c, text.getLast? = some c → isIdentifierChar c = false

theorem edge_nil : Edge [] := by
  intro c last
  cases last

theorem edge_concat {text : List Char} {c : Char} (other : isIdentifierChar c = false) :
    Edge (text ++ [c]) := by
  intro d last
  obtain rfl : c = d := by simpa using last
  exact other

theorem Edge.append {before after : List Char} (first : Edge before) (second : Edge after) :
    Edge (before ++ after) := by
  intro c last
  cases after with
  | nil => exact first c (by simpa using last)
  | cons d after =>
    apply second c
    rw [← last, List.getLast?_append_of_ne_nil _ (List.cons_ne_nil d after)]

theorem edge_of_gap {gap : List Char} (plain : ∀ c ∈ gap, isIdentifierChar c = false) : Edge gap :=
  fun c last => plain c (List.mem_of_getLast? last)

/-- The names and keywords of a text, from left to right. -/
def nameWords (text : List Char) : List (List Char) :=
  (text.splitOnP fun c => !isNameRest c).filter (!·.isEmpty)

theorem nameWords_split {c : Char} (gap : isNameRest c = false) (before after : List Char) :
    nameWords (before ++ c :: after) = nameWords before ++ nameWords after :=
  runsOf_split gap before after

theorem nameWords_word {word : List Char} (nonempty : word ≠ [])
    (chars : ∀ c ∈ word, isNameRest c = true) : nameWords word = [word] :=
  runsOf_word nonempty chars

theorem nameWords_gap {gap : List Char} (plain : ∀ c ∈ gap, isNameRest c = false) :
    nameWords gap = [] :=
  runsOf_gap plain

theorem nameWords_word_gap {word gap : List Char} (nonempty : word ≠ [])
    (chars : ∀ c ∈ word, isNameRest c = true) (plain : ∀ c ∈ gap, isNameRest c = false) :
    nameWords (word ++ gap) = [word] := by
  cases gap with
  | nil => rw [List.append_nil, nameWords_word nonempty chars]
  | cons c gap =>
    rw [nameWords_split (plain c List.mem_cons_self), nameWords_word nonempty chars,
      nameWords_gap fun d member => plain d (List.mem_cons_of_mem c member)]
    rfl

theorem Edge.words_append {before : List Char} (edge : Edge before) (after : List Char) :
    nameWords (before ++ after) = nameWords before ++ nameWords after := by
  rcases List.eq_nil_or_concat before with rfl | ⟨init, c, rfl⟩
  · rfl
  · rw [List.concat_eq_append] at edge ⊢
    have gap : isNameRest c = false := not_isNameRest (edge c (by simp))
    rw [List.append_assoc, List.singleton_append, nameWords_split gap, nameWords_split gap]
    simp [nameWords_gap]

/-- Words, each of them with a gap behind it. -/
inductive Phrase : List String → List Char → Prop
  | nil : Phrase [] []
  | cons {words : List String} {rest : List Char} (word : String) (gap : List Char)
      (wide : gap ≠ []) (gaps : ∀ c ∈ gap, isGap c = true) (more : Phrase words rest) :
      Phrase (word :: words) (word.toList ++ (gap ++ rest))

/-- Words that consist of the characters of names. -/
def Plain (words : List String) : Prop :=
  ∀ word ∈ words, word ≠ "" ∧ word.toList.all isNameRest = true

instance (words : List String) : Decidable (Plain words) :=
  inferInstanceAs (Decidable (∀ word ∈ words, word ≠ "" ∧ word.toList.all isNameRest = true))

namespace Phrase

variable {words more : List String} {text rest : List Char}

theorem append (first : Phrase words text) (second : Phrase more rest) :
    Phrase (words ++ more) (text ++ rest) := by
  induction first with
  | nil => exact second
  | cons word gap wide gaps _ ih =>
    rw [List.append_assoc, List.append_assoc]
    exact .cons word gap wide gaps ih

theorem single (word : String) {gap : List Char} (wide : gap ≠ [])
    (gaps : ∀ c ∈ gap, isGap c = true) : Phrase [word] (word.toList ++ gap) := by
  simpa using Phrase.cons word gap wide gaps .nil

theorem edge (phrase : Phrase words text) : Edge text := by
  induction phrase with
  | nil => exact edge_nil
  | cons word gap wide gaps more ih =>
    have plain : Edge gap := edge_of_gap fun c member => not_isIdentifierChar_of_isGap (gaps c member)
    intro c last
    rw [List.getLast?_append_of_ne_nil _ (by simp [wide])] at last
    exact (plain.append ih) c last

theorem words_eq (phrase : Phrase words text) (plain : Plain words) :
    nameWords text = words.map String.toList := by
  induction phrase with
  | nil => rfl
  | cons word gap wide gaps more ih =>
    obtain ⟨nonempty, chars⟩ := plain word List.mem_cons_self
    have later := ih fun other member => plain other (List.mem_cons_of_mem word member)
    have front : Edge (word.toList ++ gap) := (single word wide gaps).edge
    have apart (c : Char) (member : c ∈ gap) : isNameRest c = false :=
      not_isNameRest (not_isIdentifierChar_of_isGap (gaps c member))
    rw [← List.append_assoc, front.words_append, later, nameWords_word_gap (by simpa using nonempty)
      (List.all_eq_true.mp chars) apart]
    rfl

-- What follows a phrase goes on with its first word.
theorem head_isNameRest (phrase : Phrase words text) (plain : Plain words) {c : Char} {after : List Char}
    (start : isNameRest c = true) (d : Char) (first : (text ++ c :: after).head? = some d) :
    isNameRest d = true := by
  cases phrase with
  | nil =>
    obtain rfl : c = d := by simpa using first
    exact start
  | cons word gap wide gaps later =>
    obtain ⟨nonempty, chars⟩ := plain word List.mem_cons_self
    obtain ⟨e, rest, split⟩ := List.exists_cons_of_ne_nil (fun none => nonempty (String.toList_eq_nil_iff.mp none))
    rw [split] at first
    obtain rfl : e = d := by simpa using first
    exact List.all_eq_true.mp chars e (by rw [split]; exact List.mem_cons_self)

theorem gap_eq (phrase : Phrase words text) (plain : Plain words) {gap after : List Char}
    (gaps : ∀ c ∈ gap, isGap c = true) {c : Char} (start : isNameRest c = true) :
    (gap ++ (text ++ c :: after)).takeWhile isGap = gap := by
  rw [List.takeWhile_append_of_pos gaps]
  cases behind : text ++ c :: after with
  | nil => simp at behind
  | cons d more =>
    have name := phrase.head_isNameRest plain start d (by rw [behind]; rfl)
    simp [not_isGap_of_isNameRest name]

-- The words of a phrase and a name behind it tell where its gaps are.
theorem unique {other after after' : List Char} {c d : Char} (first : Phrase words text)
    (second : Phrase words other) (plain : Plain words) (start : isNameRest c = true)
    (start' : isNameRest d = true) (same : text ++ c :: after = other ++ d :: after') :
    text = other := by
  induction first generalizing other with
  | nil =>
    cases second
    rfl
  | cons word gap wide gaps later ih =>
    cases second with
    | cons _ gap' wide' gaps' later' =>
      have plain' : Plain _ := fun other member => plain other (List.mem_cons_of_mem word member)
      simp only [List.append_assoc] at same
      have tails := List.append_cancel_left same
      obtain rfl : gap = gap' := by
        rw [← later.gap_eq plain' gaps start, tails, later'.gap_eq plain' gaps' start']
      rw [ih later' plain' (List.append_cancel_left tails)]

end Phrase

/-- Words, each of them with white space behind it. -/
inductive Spaced : List String → List Char → Prop
  | nil : Spaced [] []
  | cons {words : List String} {rest : List Char} (word : String) (gap : List Char)
      (wide : gap ≠ []) (blank : ∀ c ∈ gap, isBlank c = true) (more : Spaced words rest) :
      Spaced (word :: words) (word.toList ++ (gap ++ rest))

theorem Spaced.single (word : String) {gap : List Char} (wide : gap ≠ [])
    (blank : ∀ c ∈ gap, isBlank c = true) : Spaced [word] (word.toList ++ gap) := by
  simpa using Spaced.cons word gap wide blank .nil

theorem Spaced.append {words more : List String} {text rest : List Char} (first : Spaced words text)
    (second : Spaced more rest) : Spaced (words ++ more) (text ++ rest) := by
  induction first with
  | nil => exact second
  | cons word gap wide blank _ ih =>
    rw [List.append_assoc, List.append_assoc]
    exact .cons word gap wide blank ih

theorem Spaced.begins {word : String} {words : List String} {lead : List Char}
    (spaced : Spaced words lead) (first : words.head? = some word) : word.toList <+: lead := by
  cases spaced with
  | nil => cases first
  | cons other gap wide blank more =>
    obtain rfl : other = word := by simpa using first
    exact List.prefix_append _ _

theorem Spaced.phrase {words : List String} {text : List Char} (spaced : Spaced words text) :
    Phrase words text := by
  induction spaced with
  | nil => exact .nil
  | cons word gap wide blank _ ih =>
    exact .cons word gap wide (fun c member => isGap_of_isBlank (blank c member)) ih

end CodeAtlas.Source
