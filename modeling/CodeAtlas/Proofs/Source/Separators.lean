import CodeAtlas.Proofs.Text.Capital
import CodeAtlas.Source.Path

set_option autoImplicit false

/-! Paths that differ only in their separators. All that is taken from a path in lower case is the same
for them, up to the separators themselves. -/

namespace CodeAtlas.Source

open CodeAtlas.Text

/-- Both separators as one. -/
def unify (c : Char) : Char :=
  if isSeparator c then '/' else c

/-- The same texts but for which separator stands at each place. -/
def Alike (path other : String) : Prop :=
  other.toList.map unify = path.toList.map unify

theorem unify_plain {c : Char} (plain : isSeparator c = false) : unify c = c := by
  simp [unify, plain]

theorem isSeparator_unify (c : Char) : isSeparator (unify c) = isSeparator c := by
  rw [unify]
  split
  · next separator => rw [separator]; rfl
  · rfl

theorem splitWhere_unify (text : List Char) :
    splitWhere isSeparator (text.map unify) = splitWhere isSeparator text := by
  induction text with
  | nil => rfl
  | cons c rest ih =>
    cases separator : isSeparator c with
    | true => simp [splitWhere, isSeparator_unify, separator, ih]
    | false => simp [splitWhere, separator, ih, unify_plain separator]

theorem beq_unify {part : Char} (plain : isSeparator part = false) (c : Char) :
    (part == unify c) = (part == c) := by
  by_cases separator : isSeparator c = true
  · have apart : part ≠ c := by
      rintro rfl
      simp [plain] at separator
    have other : part ≠ '/' := by
      rintro rfl
      simp [isSeparator] at plain
    simp [unify, separator, beq_false_of_ne apart, beq_false_of_ne other]
  · simp [unify, separator]

theorem isPrefixOf_unify {part : List Char} (plain : ∀ c ∈ part, isSeparator c = false)
    (text : List Char) : part.isPrefixOf (text.map unify) = part.isPrefixOf text := by
  induction part generalizing text with
  | nil => simp
  | cons c rest ih =>
    cases text with
    | nil => rfl
    | cons d text =>
      simp [List.isPrefixOf, beq_unify (plain c List.mem_cons_self),
        ih (fun c member => plain c (List.mem_cons_of_mem _ member))]

theorem isSuffixOf_unify {part : List Char} (plain : ∀ c ∈ part, isSeparator c = false)
    (text : List Char) : part.isSuffixOf (text.map unify) = part.isSuffixOf text := by
  simp only [List.isSuffixOf, ← List.map_reverse]
  exact isPrefixOf_unify (by simpa using plain) text.reverse

theorem occursIn_unify {part : List Char} (plain : ∀ c ∈ part, isSeparator c = false)
    (text : List Char) : occursIn part (text.map unify) = occursIn part text := by
  induction text with
  | nil => rfl
  | cons c rest ih =>
    rw [List.map_cons, occursIn, ← List.map_cons, isPrefixOf_unify plain, ih, occursIn]

/-! ### Lower case -/

theorem isSeparator_iff (c : Char) : isSeparator c = true ↔ c = '/' ∨ c = '\\' := by
  simp [isSeparator]

-- Separators have no case, and are not looked through.
theorem casing_unify (c : Char) :
    isCased (unify c) = isCased c ∧ isCaseIgnorable (unify c) = isCaseIgnorable c := by
  cases separator : isSeparator c with
  | false => simp [unify_plain separator]
  | true =>
    obtain rfl | rfl := (isSeparator_iff c).mp separator
    · decide +kernel
    · decide +kernel

theorem isSeparator_above {n : Nat} (above : 92 < n) : isSeparator (Char.ofNat n) = false := by
  by_cases valid : n.isValidChar
  · have number : (Char.ofNat n).toNat = n := by
      rw [Char.ofNat, dif_pos valid]
      rfl
    rw [Bool.eq_false_iff]
    intro separator
    obtain slash | slash := (isSeparator_iff _).mp separator <;>
    · simp only [slash, Char.reduceToNat] at number
      omega
  · rw [Char.ofNat, dif_neg valid]
    rfl

-- No other character becomes a separator.
theorem lowerChar_plain {c : Char} (plain : isSeparator c = false) :
    isSeparator (lowerChar c) = false := by
  have above : ∀ run ∈ capitalRuns, (92 : Int) < run.1 + run.2.2.2 := by decide +kernel
  rw [lowerChar_eq]
  cases found : capitalRuns.find? (inRun c.toNat) with
  | none => exact plain
  | some run =>
    obtain ⟨low, high, step, distance⟩ := run
    obtain ⟨behind, -, -⟩ := (inRun_iff ..).mp (List.find?_some found)
    have image : (92 : Int) < low + distance := above _ (List.mem_of_find?_eq_some found)
    exact isSeparator_above (by omega)

theorem casedNext_unify (neighbours : List Char) :
    casedNext (neighbours.map unify) = casedNext neighbours := by
  induction neighbours with
  | nil => rfl
  | cons c rest ih =>
    simp only [casedNext] at ih
    cases ignorable : isCaseIgnorable c <;> simp [casedNext, casing_unify, ignorable, ih]

theorem lowerAt_unify (before : List Char) (c : Char) (after : List Char) :
    lowerAt (before.map unify) (unify c) (after.map unify) = (lowerAt before c after).map unify := by
  cases separator : isSeparator c with
  | true =>
    obtain rfl | rfl := (isSeparator_iff c).mp separator
    · rfl
    · rfl
  | false =>
    have plain := unify_plain (lowerChar_plain separator)
    simp only [lowerAt, unify_plain separator, casedNext_unify]
    split
    · split <;> rfl
    · split
      · rfl
      · simp [plain]

theorem lowerFrom_unify (before text : List Char) :
    lowerFrom (before.map unify) (text.map unify) = (lowerFrom before text).map unify := by
  induction text generalizing before with
  | nil => rfl
  | cons c rest ih =>
    simp only [List.map_cons, lowerFrom, lowerAt_unify, List.map_append, ← ih (c :: before)]

theorem lowerChars_unify (text : List Char) :
    lowerChars (text.map unify) = (lowerChars text).map unify :=
  lowerFrom_unify [] text

/-! ### What is taken of a path -/

namespace Alike

variable {path other : String}

theorem lowerChars_eq (alike : Alike path other) :
    (lowerChars other.toList).map unify = (lowerChars path.toList).map unify := by
  rw [← lowerChars_unify, ← lowerChars_unify, alike]

theorem splitPath_eq (alike : Alike path other) : splitPath other = splitPath path := by
  rw [splitPath, splitPath, ← splitWhere_unify, alike.lowerChars_eq, splitWhere_unify]

theorem baseName_eq (alike : Alike path other) : baseName other = baseName path := by
  have segments : splitWhere isSeparator other.toList = splitWhere isSeparator path.toList := by
    rw [← splitWhere_unify, alike, splitWhere_unify]
  simp only [baseName, segments]

theorem isEmpty_eq (alike : Alike path other) : other.isEmpty = path.isEmpty := by
  have size : other.toList = [] ↔ path.toList = [] := by
    rw [← List.map_eq_nil_iff (f := unify), alike, List.map_eq_nil_iff]
  rw [Bool.eq_iff_iff]
  simpa using size

theorem lower_isEmpty_eq (alike : Alike path other) : (lower other).isEmpty = (lower path).isEmpty := by
  have size : lowerChars other.toList = [] ↔ lowerChars path.toList = [] := by
    rw [← List.map_eq_nil_iff (f := unify), alike.lowerChars_eq, List.map_eq_nil_iff]
  rw [Bool.eq_iff_iff]
  simpa [lower] using size

variable {part : String}

theorem contains_eq (alike : Alike path other) (plain : ∀ c ∈ part.toList, isSeparator c = false) :
    contains (lower other) part = contains (lower path) part := by
  simp only [contains, lower, String.toList_ofList]
  rw [← occursIn_unify plain, alike.lowerChars_eq, occursIn_unify plain]

theorem hasEnd_eq (alike : Alike path other) (plain : ∀ c ∈ part.toList, isSeparator c = false) :
    hasEnd (lower other) part = hasEnd (lower path) part := by
  simp only [hasEnd, lower, String.toList_ofList]
  rw [← isSuffixOf_unify plain, alike.lowerChars_eq, isSuffixOf_unify plain]

end Alike

end CodeAtlas.Source
