import CodeAtlas.Text.Basic
import Mathlib.Data.List.Basic

set_option autoImplicit false

/-! Occurrences of a part in a text that do not overlap. -/

namespace CodeAtlas.Text

section

variable {α : Type} [BEq α] {part : List α}

-- As much fuel as there are characters is enough.
theorem countFrom_fuel (wide : part ≠ []) {m n : Nat} {text : List α} (first : text.length ≤ m)
    (second : text.length ≤ n) : countFrom part m text = countFrom part n text := by
  induction m generalizing n text with
  | zero =>
    obtain rfl := List.length_eq_zero_iff.mp (Nat.le_zero.mp first)
    cases n <;> rfl
  | succ m ih =>
    cases text with
    | nil => cases n <;> rfl
    | cons c rest =>
      obtain ⟨n, rfl⟩ := Nat.exists_eq_add_one.mpr (Nat.lt_of_lt_of_le rest.length.succ_pos second)
      have some : 0 < part.length := List.length_pos_of_ne_nil wide
      have fewer : ((c :: rest).drop part.length).length ≤ rest.length := by
        simp only [List.length_drop, List.length_cons]
        omega
      simp only [List.length_cons, Nat.add_le_add_iff_right] at first second
      rw [countFrom, countFrom, ih (Nat.le_trans fewer first) (Nat.le_trans fewer second), ih first second]

theorem countOf_eq (wide : part ≠ []) {fuel : Nat} {text : List α} (enough : text.length ≤ fuel) :
    countOf part text = countFrom part fuel text := by
  rw [countOf, if_neg (by simpa using wide)]
  exact countFrom_fuel wide (Nat.le_refl _) enough

theorem countOf_nil (wide : part ≠ []) : countOf part [] = 0 := by
  have none : ([] : List α).length ≤ 0 := Nat.le_refl 0
  exact countOf_eq wide none

theorem countOf_cons (wide : part ≠ []) (c : α) (rest : List α) :
    countOf part (c :: rest) = if part.isPrefixOf (c :: rest)
      then 1 + countOf part ((c :: rest).drop part.length) else countOf part rest := by
  have some : 0 < part.length := List.length_pos_of_ne_nil wide
  have fewer : ((c :: rest).drop part.length).length ≤ rest.length := by
    simp only [List.length_drop, List.length_cons]
    omega
  rw [countOf_eq wide (Nat.le_refl (c :: rest).length), countOf_eq wide fewer,
    countOf_eq wide (Nat.le_refl rest.length)]
  rfl

end

section

variable {α : Type} [BEq α] [LawfulBEq α] {part : List α} {c : α}

-- What a text starts with ends before the first character that is none of its own.
theorem isPrefixOf_split (apart : c ∉ part) (before after : List α) :
    part.isPrefixOf (before ++ c :: after) = part.isPrefixOf before := by
  rw [Bool.eq_iff_iff, List.isPrefixOf_iff_prefix, List.isPrefixOf_iff_prefix]
  constructor
  · intro starts
    have short : part.length ≤ before.length := by
      by_contra long
      apply apart
      obtain ⟨rest, same⟩ := starts
      have there : (part ++ rest)[before.length]? = some c := by simp [same]
      rw [List.getElem?_append_left (by omega)] at there
      exact List.mem_of_getElem? there
    exact List.prefix_of_prefix_length_le starts (List.prefix_append _ _) short
  · exact fun starts => starts.trans (List.prefix_append _ _)

/-- A character that is none of `part` lies in no occurrence of it. -/
theorem countOf_split (wide : part ≠ []) (apart : c ∉ part) (before after : List α) :
    countOf part (before ++ c :: after) = countOf part before + countOf part after := by
  have some : 0 < part.length := List.length_pos_of_ne_nil wide
  have start := isPrefixOf_split apart before after
  cases before with
  | nil =>
    have none : part.isPrefixOf ([] : List α) = false := by
      cases part with
      | nil => exact absurd rfl wide
      | cons _ _ => rfl
    rw [List.nil_append, none] at start
    rw [List.nil_append, countOf_cons wide, start, countOf_nil wide, Nat.zero_add]
    rfl
  | cons d before =>
    rw [List.cons_append] at start ⊢
    rw [countOf_cons wide, countOf_cons wide, start]
    split
    next occurs =>
      have short := (List.isPrefixOf_iff_prefix.mp occurs).length_le
      have behind := countOf_split wide apart ((d :: before).drop part.length) after
      rw [← List.drop_append_of_le_length short, List.cons_append] at behind
      rw [behind, Nat.add_assoc]
    next => exact countOf_split wide apart before after
termination_by before.length
decreasing_by
  · exact Nat.lt_succ_self _
  · simp only [List.length_drop, List.length_cons]
    omega

end

end CodeAtlas.Text
