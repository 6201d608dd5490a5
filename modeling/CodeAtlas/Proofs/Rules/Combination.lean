import CodeAtlas.Rules.Basic

set_option autoImplicit false

/-! Conditions in combination: which of them are asked for, and what becomes of a rule when some of its
conditions are spoiled. A rule fails closed: it is met in no place where the sound rule is not. -/

namespace CodeAtlas.Rules

/-- A condition that was understood. -/
def Condition.Recognized (condition : Condition) : Prop :=
  ∀ text, condition ≠ .unrecognized text

/-- Conditions of which some were spoiled, with any number of spoiled ones put between them. -/
inductive Spoiled : List Condition → List Condition → Prop
  | nil : Spoiled [] []
  | keep (condition : Condition) {whole spoiled : List Condition} (later : Spoiled whole spoiled) :
      Spoiled (condition :: whole) (condition :: spoiled)
  | spoil (condition : Condition) (text : String) {whole spoiled : List Condition}
      (later : Spoiled whole spoiled) :
      Spoiled (condition :: whole) (.unrecognized text :: spoiled)
  | insert (text : String) {whole spoiled : List Condition} (later : Spoiled whole spoiled) :
      Spoiled whole (.unrecognized text :: spoiled)

variable {whole spoiled : List Condition} {s : Sighting}

theorem Condition.recognized_of_holds {condition : Condition} (holds : condition.holds s = true) :
    condition.Recognized := by
  rintro text rfl
  cases holds

-- What can still be understood was there before.
theorem Spoiled.mem (made : Spoiled whole spoiled) {condition : Condition}
    (inside : condition ∈ spoiled) (recognized : condition.Recognized) : condition ∈ whole := by
  induction made with
  | nil => exact inside
  | keep other _ ih =>
    rcases List.mem_cons.mp inside with rfl | behind
    · exact List.mem_cons_self
    · exact List.mem_cons_of_mem other (ih behind)
  | spoil other text _ ih =>
    rcases List.mem_cons.mp inside with rfl | behind
    · exact absurd rfl (recognized text)
    · exact List.mem_cons_of_mem other (ih behind)
  | insert text _ ih =>
    rcases List.mem_cons.mp inside with rfl | behind
    · exact absurd rfl (recognized text)
    · exact ih behind

theorem Spoiled.eq_of_recognized (made : Spoiled whole spoiled)
    (recognized : ∀ condition ∈ spoiled, condition.Recognized) : spoiled = whole := by
  induction made with
  | nil => rfl
  | keep condition _ ih =>
    rw [ih fun other behind => recognized other (List.mem_cons_of_mem condition behind)]
  | spoil _ text _ _ => exact absurd rfl (recognized _ List.mem_cons_self text)
  | insert text _ _ => exact absurd rfl (recognized _ List.mem_cons_self text)

namespace Combinator

-- Neither of the two shapes has room for a condition that was not understood.
theorem isEither_recognized (either : isEither whole = true) :
    ∀ condition ∈ whole, condition.Recognized := by
  intro condition inside text unread
  subst unread
  unfold isEither at either
  split at either
  · simp at inside
  · simp at inside
  · simp at inside
  · cases either

theorem holds_any (conditions : List Condition) (s : Sighting) :
    Combinator.any.holds conditions s = true ↔
      ∃ condition ∈ conditions, condition.holds s = true := by
  cases conditions with
  | nil => simp [Combinator.holds]
  | cons condition rest => simp [Combinator.holds]

theorem holds_all (conditions : List Condition) (s : Sighting) :
    Combinator.all.holds conditions s = true ↔
      conditions ≠ [] ∧ ∀ condition ∈ conditions, condition.holds s = true := by
  simp [Combinator.holds]

-- Only a rule that says so itself can be met by some of its conditions while others are spoiled.
theorem recognized_of_holds {explicit : Option Combinator} (unsaid : explicit ≠ some .any)
    (holds : (resolve whole explicit).holds whole s = true) :
    ∀ condition ∈ whole, condition.Recognized := by
  have both (holds : Combinator.all.holds whole s = true) :
      ∀ condition ∈ whole, condition.Recognized := fun condition inside =>
    Condition.recognized_of_holds (((holds_all whole s).mp holds).2 condition inside)
  match explicit with
  | some .all => exact both holds
  | some .any => exact absurd rfl unsaid
  | none =>
    cases either : isEither whole with
    | true => exact isEither_recognized either
    | false =>
      rw [resolve, either] at holds
      exact both holds

/-- A rule with spoiled conditions, combined as it is then read, is met only where the sound rule is. -/
theorem holds_of_spoiled (explicit : Option Combinator) (made : Spoiled whole spoiled)
    (s : Sighting) (holds : (resolve spoiled explicit).holds spoiled s = true) :
    (resolve whole explicit).holds whole s = true := by
  by_cases said : explicit = some .any
  · subst said
    obtain ⟨condition, inside, met⟩ := (holds_any spoiled s).mp holds
    exact (holds_any whole s).mpr
      ⟨condition, made.mem inside (Condition.recognized_of_holds met), met⟩
  · rw [made.eq_of_recognized (recognized_of_holds said holds)] at holds
    exact holds

/-- One of two conditions is spoiled and another one added; what is left is enough for a rule that asks for
either. -/
theorem holds_of_spoiled_either :
    Spoiled [.kindEquals "method", .nameStarts "use"]
        [.unrecognized "kind", .nameStarts "use", .unrecognized ""] ∧
      (resolve [.unrecognized "kind", .nameStarts "use", .unrecognized ""] (some .any)).holds
        [.unrecognized "kind", .nameStarts "use", .unrecognized ""]
        { kind := some "function", name := "usestate" } = true ∧
      (resolve [.kindEquals "method", .nameStarts "use"] (some .any)).holds
        [.kindEquals "method", .nameStarts "use"]
        { kind := some "function", name := "usestate" } = true := by
  have made : Spoiled [.kindEquals "method", .nameStarts "use"]
      [.unrecognized "kind", .nameStarts "use", .unrecognized ""] :=
    .spoil _ _ (.keep _ (.insert _ .nil))
  have met : (resolve [.unrecognized "kind", .nameStarts "use", .unrecognized ""] (some .any)).holds
      [.unrecognized "kind", .nameStarts "use", .unrecognized ""]
      { kind := some "function", name := "usestate" } = true := by decide +kernel
  exact ⟨made, met, holds_of_spoiled (some .any) made _ met⟩

end Combinator

end CodeAtlas.Rules
