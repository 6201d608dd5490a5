import CodeAtlas.Classify.Purpose
import CodeAtlas.Proofs.Rules.Condition
import CodeAtlas.Proofs.Source.Separators
import CodeAtlas.Proofs.Text.Distinct
import Mathlib.Data.List.Infix

set_option autoImplicit false

/-! What stands in a name or a path as it is written, and what a condition with the same literal finds there.
Names and paths are looked at in lower case, literals as they are. -/

namespace CodeAtlas.Text

/-! ### Parts of a text -/

theorem occursIn_iff (part text : List Char) : occursIn part text = true ↔ part <:+: text := by
  induction text with
  | nil => simp [occursIn]
  | cons c rest ih =>
    rw [occursIn, Bool.or_eq_true, ih, List.isPrefixOf_iff_prefix, List.infix_cons_iff]

theorem contains_iff (whole part : String) :
    contains whole part = true ↔ part.toList <:+: whole.toList :=
  occursIn_iff part.toList whole.toList

theorem hasStart_iff (whole part : String) :
    hasStart whole part = true ↔ part.toList <+: whole.toList :=
  List.isPrefixOf_iff_prefix

theorem hasEnd_iff (whole part : String) :
    hasEnd whole part = true ↔ part.toList <:+ whole.toList :=
  List.isSuffixOf_iff_suffix

/-- What occurs in a text in lower case is in lower case itself. -/
theorem lower_eq_of_part {part text : String} (occurs : part.toList <:+: (lower text).toList) :
    lower part = part := by
  rw [lower_eq_iff]
  intro c member
  have inside := occurs.subset member
  rw [lower_toList] at inside
  exact not_capital_lowerChars inside

theorem contains_lower {whole part : String} (occurs : contains whole part = true) :
    contains (lower whole) part = true ↔ lower part = part := by
  rw [contains_iff]
  refine ⟨lower_eq_of_part, fun plain => ?_⟩
  obtain ⟨front, rest, split⟩ := (contains_iff whole part).mp occurs
  obtain ⟨lowered, start⟩ := lowerFrom_append [] front (part.toList ++ rest)
  rw [lower_toList, lowerChars, ← split, List.append_assoc, start,
    lowerFrom_plain_append _ rest ((lower_eq_iff part).mp plain), ← List.append_assoc]
  exact List.infix_append lowered part.toList _

theorem hasStart_lower {whole part : String} (starts : hasStart whole part = true) :
    hasStart (lower whole) part = true ↔ lower part = part := by
  rw [hasStart_iff]
  refine ⟨fun occurs => lower_eq_of_part occurs.isInfix, fun plain => ?_⟩
  obtain ⟨rest, split⟩ := (hasStart_iff whole part).mp starts
  rw [lower_toList, lowerChars, ← split,
    lowerFrom_plain_append [] rest ((lower_eq_iff part).mp plain)]
  exact List.prefix_append part.toList _

theorem hasEnd_lower {whole part : String} (ends : hasEnd whole part = true) :
    hasEnd (lower whole) part = true ↔ lower part = part := by
  rw [hasEnd_iff]
  refine ⟨fun occurs => lower_eq_of_part occurs.isInfix, fun plain => ?_⟩
  obtain ⟨front, split⟩ := (hasEnd_iff whole part).mp ends
  obtain ⟨lowered, start⟩ := lowerFrom_append [] front part.toList
  rw [lower_toList, lowerChars, ← split, start,
    lowerFrom_of_not_capital _ ((lower_eq_iff part).mp plain)]
  exact List.suffix_append lowered part.toList

end CodeAtlas.Text

namespace CodeAtlas.Source

open CodeAtlas.Text

/-! ### Segments of a path -/

theorem splitWhere_ne_nil (text : List Char) : splitWhere isSeparator text ≠ [] := by
  induction text with
  | nil => simp [splitWhere]
  | cons c rest ih =>
    rw [splitWhere]
    split
    · exact List.cons_ne_nil _ _
    · split <;> exact List.cons_ne_nil _ _

theorem subset_of_mem_splitWhere {piece text : List Char}
    (inside : piece ∈ splitWhere isSeparator text) : piece ⊆ text := by
  induction text generalizing piece with
  | nil =>
    rw [splitWhere, List.mem_singleton] at inside
    exact inside ▸ List.nil_subset []
  | cons c rest ih =>
    rw [splitWhere] at inside
    split at inside
    · cases List.mem_cons.mp inside with
      | inl empty => exact empty ▸ List.nil_subset _
      | inr later => exact List.subset_cons_of_subset c (ih later)
    · split at inside
      · next nothing => exact absurd nothing (splitWhere_ne_nil rest)
      · next first others split =>
        rw [split] at ih
        cases List.mem_cons.mp inside with
        | inl here => exact here ▸ List.cons_subset_cons c (ih List.mem_cons_self)
        | inr later => exact List.subset_cons_of_subset c (ih (List.mem_cons_of_mem _ later))

theorem splitWhere_append {front rest : List Char} {piece : List Char} {pieces : List (List Char)}
    (plain : ∀ c ∈ front, isSeparator c = false)
    (split : splitWhere isSeparator rest = piece :: pieces) :
    splitWhere isSeparator (front ++ rest) = (front ++ piece) :: pieces := by
  induction front with
  | nil => exact split
  | cons c front ih =>
    have later := ih fun d member => plain d (List.mem_cons_of_mem c member)
    simp [splitWhere, plain c List.mem_cons_self, later]

theorem lowerAt_separator {c : Char} (separator : isSeparator c = true) (before after : List Char) :
    lowerAt before c after = [c] := by
  obtain rfl | rfl := (isSeparator_iff c).mp separator
  · rfl
  · rfl

theorem lowerAt_plain {c : Char} (plain : isSeparator c = false) (before after : List Char) :
    ∀ d ∈ lowerAt before c after, isSeparator d = false := by
  intro d member
  unfold lowerAt at member
  split at member
  · rw [List.mem_singleton] at member
    rw [member]
    split <;> rfl
  · split at member
    · simp only [List.mem_cons, List.not_mem_nil, or_false] at member
      obtain rfl | rfl := member <;> rfl
    · rw [List.mem_singleton] at member
      rw [member]
      exact lowerChar_plain plain

/-- The segments in lower case, one after the other: one without capitals stays as it is. -/
theorem splitWhere_lowerFrom (before text : List Char) :
    List.Forall₂ (fun piece lowered => (∀ c ∈ piece, isCapital c = false) → lowered = piece)
      (splitWhere isSeparator text) (splitWhere isSeparator (lowerFrom before text)) := by
  induction text generalizing before with
  | nil => exact .cons (fun _ => rfl) .nil
  | cons c rest ih =>
    have later := ih (c :: before)
    rw [lowerFrom]
    cases separator : isSeparator c with
    | true =>
      rw [lowerAt_separator separator]
      simp only [List.singleton_append, splitWhere, separator, if_true]
      exact .cons (fun _ => rfl) later
    | false =>
      cases split : splitWhere isSeparator rest with
      | nil => exact absurd split (splitWhere_ne_nil rest)
      | cons piece pieces =>
        rw [split] at later
        obtain ⟨lowered, others, first, more, low⟩ := List.forall₂_cons_left_iff.mp later
        rw [splitWhere_append (lowerAt_plain separator before rest) low]
        simp only [splitWhere, separator, split]
        refine .cons ?_ more
        intro plain
        rw [lowerAt_of_not_capital (plain c List.mem_cons_self), List.singleton_append,
          first fun d member => plain d (List.mem_cons_of_mem c member)]

theorem mem_splitPath (path part : String) :
    part ∈ splitPath path ↔
      part ≠ "" ∧ part.toList ∈ splitWhere isSeparator (lowerChars path.toList) := by
  simp only [splitPath, List.mem_map, List.mem_filter]
  constructor
  · rintro ⟨piece, ⟨inside, full⟩, rfl⟩
    rw [String.toList_ofList]
    refine ⟨?_, inside⟩
    intro empty
    have nothing : piece = [] := by simpa using congrArg String.toList empty
    simp [nothing] at full
  · rintro ⟨full, inside⟩
    refine ⟨part.toList, ⟨inside, ?_⟩, String.ofList_toList⟩
    simpa using full

/-- A segment as it is written is one of the path just where it is in lower case. -/
theorem mem_splitPath_lower {path part : String} (full : part ≠ "")
    (segment : part.toList ∈ splitWhere isSeparator path.toList) :
    part ∈ splitPath path ↔ lower part = part := by
  rw [mem_splitPath]
  constructor
  · rintro ⟨-, inside⟩
    rw [lower_eq_iff]
    intro c member
    exact not_capital_lowerChars (subset_of_mem_splitWhere inside member)
  · intro plain
    obtain ⟨lowered, inside, same⟩ := mem_of_forall₂ (splitWhere_lowerFrom [] path.toList) segment
    rw [same ((lower_eq_iff part).mp plain)] at inside
    exact ⟨full, inside⟩

end CodeAtlas.Source

namespace CodeAtlas.Classify

open CodeAtlas.Rules CodeAtlas.Rules.Condition CodeAtlas.Source CodeAtlas.Text

/-- A literal stands as it is written in what a condition on a unit looks at: the name of the unit or its
path. -/
def Occurs (value : String) (u : RawUnit) : Call → Prop
  | .nameStarts => hasStart u.name value = true
  | .nameContains => contains u.name value = true
  | .pathContains => value.toList ∈ splitWhere isSeparator u.path.toList
  | .fileContains => contains u.path value = true
  | .fileEnds => hasEnd u.path value = true
  | .nameMatches | .importContains => False

def asksPath : Call → Bool
  | .pathContains | .fileContains | .fileEnds => true
  | .nameStarts | .nameContains | .nameMatches | .importContains => false

-- Whether a name is empty does not matter where some text is looked for in it.
theorem guarded {part whole : String} (full : part ≠ "") {found : Bool}
    (inside : found = true → part.toList <:+: whole.toList) :
    (!whole.isEmpty && found) = true ↔ found = true := by
  rw [Bool.and_eq_true, and_iff_right_iff_imp]
  intro here
  rw [Bool.not_eq_true', Bool.eq_false_iff]
  intro empty
  have within := inside here
  rw [String.isEmpty_iff.mp empty] at within
  exact full (by simpa using List.infix_nil.mp within)

theorem guarded_start {part whole : String} (full : part ≠ "") :
    (!whole.isEmpty && hasStart whole part) = true ↔ hasStart whole part = true :=
  guarded full fun here => ((hasStart_iff whole part).mp here).isInfix

theorem guarded_part {part whole : String} (full : part ≠ "") :
    (!whole.isEmpty && contains whole part) = true ↔ contains whole part = true :=
  guarded full (contains_iff whole part).mp

theorem guarded_end {part whole : String} (full : part ≠ "") :
    (!whole.isEmpty && hasEnd whole part) = true ↔ hasEnd whole part = true :=
  guarded full fun here => ((hasEnd_iff whole part).mp here).isInfix

/-- A literal that occurs as it is written is found, in a unit and in a path alone, just if it is in lower
case itself. -/
theorem literal_occurs {call : Call} {value text : String} (full : value ≠ "") {quote : Char}
    (reading : Reading (.call call) quote value.toList (trim text.toList)) {u : RawUnit}
    (occurs : Occurs value u call) :
    ∃ condition, parse text = .ok condition ∧
      (condition.holds (unitSighting u) = true ↔ lower value = value) ∧
      (asksPath call = true →
        (condition.holds (pathSighting u.path) = true ↔ lower value = value)) := by
  have parsed := parseWith_reading compile reading
  rw [String.ofList_toList] at parsed
  cases call with
  | nameStarts =>
    exact ⟨.nameStarts value, parsed, (guarded_start full).trans (hasStart_lower occurs), nofun⟩
  | nameContains =>
    exact ⟨.nameContains value, parsed, (guarded_part full).trans (contains_lower occurs), nofun⟩
  | pathContains =>
    have segment := List.contains_iff_mem.trans (mem_splitPath_lower full occurs)
    exact ⟨.pathContains value, parsed, segment, fun _ => segment⟩
  | fileContains =>
    have part := (guarded_part full).trans (contains_lower occurs)
    exact ⟨.fileContains value, parsed, part, fun _ => part⟩
  | fileEnds =>
    have ending := (guarded_end full).trans (hasEnd_lower occurs)
    exact ⟨.fileEnds value, parsed, ending, fun _ => ending⟩
  | nameMatches => cases occurs
  | importContains => cases occurs

def mixedUnit : RawUnit :=
  { name := "handleSubmit"
    kind := "function"
    path := "Web\\services/Submit.TS"
    startLine := 1
    endLine := 1
    code := ""
    signature := ""
    context := {} }

/-- A segment between different separators, with capitals around it. -/
theorem literal_occurs_mixed :
    Reading (.call .pathContains) '\'' "services".toList
        (trim "pathParts.includes( 'services')".toList) ∧
      Occurs "services" mixedUnit .pathContains ∧
      ∃ condition, parse "pathParts.includes( 'services')" = .ok condition ∧
        condition.holds (unitSighting mixedUnit) = true ∧
        condition.holds (pathSighting mixedUnit.path) = true := by
  have written : Written '\'' "services".toList (.call .pathContains)
      (trim "pathParts.includes( 'services')".toList) := by
    have same : trim "pathParts.includes( 'services')".toList =
        Call.pathContains.word.toList ++ '(' :: ([' '] ++ '\'' ::
          ("services".toList ++ '\'' :: ([] ++ [')']))) := by decide +kernel
    rw [same]
    exact .call .pathContains [' '] [] rfl rfl
  have reading : Reading (.call .pathContains) '\'' "services".toList
      (trim "pathParts.includes( 'services')".toList) := ⟨.inl rfl, by decide +kernel, written⟩
  have occurs : Occurs "services" mixedUnit .pathContains := by
    rw [Occurs]
    decide +kernel
  have plain : lower "services" = "services" := by decide +kernel
  obtain ⟨condition, parsed, unit, path⟩ := literal_occurs (by decide) reading occurs
  exact ⟨reading, occurs, condition, parsed, unit.mpr plain, (path rfl).mpr plain⟩

/-- A segment with a capital is a literal of the path, and is not found in it. -/
theorem capital_not_found :
    Reading (.call .pathContains) '\'' "Web".toList (trim "pathParts.includes('Web')".toList) ∧
      Occurs "Web" mixedUnit .pathContains ∧
      ∃ condition, parse "pathParts.includes('Web')" = .ok condition ∧
        condition.holds (unitSighting mixedUnit) = false ∧
        condition.holds (pathSighting mixedUnit.path) = false := by
  have written : Written '\'' "Web".toList (.call .pathContains)
      (trim "pathParts.includes('Web')".toList) := by
    have same : trim "pathParts.includes('Web')".toList =
        Call.pathContains.word.toList ++ '(' :: ([] ++ '\'' ::
          ("Web".toList ++ '\'' :: ([] ++ [')']))) := by decide +kernel
    rw [same]
    exact .call .pathContains [] [] rfl rfl
  have reading : Reading (.call .pathContains) '\'' "Web".toList
      (trim "pathParts.includes('Web')".toList) := ⟨.inl rfl, by decide +kernel, written⟩
  have occurs : Occurs "Web" mixedUnit .pathContains := by
    rw [Occurs]
    decide +kernel
  have parsed := parseWith_reading compile reading
  rw [String.ofList_toList] at parsed
  exact ⟨reading, occurs, .pathContains "Web", parsed, by decide +kernel, by decide +kernel⟩

end CodeAtlas.Classify
