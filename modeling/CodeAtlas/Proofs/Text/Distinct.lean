import CodeAtlas.Text.Basic
import Mathlib.Data.List.Forall2

set_option autoImplicit false

/-! Lists: elements without repetition, the same ones each once, and lists that are related element by
element. -/

namespace CodeAtlas.Text

variable {α : Type} [BEq α] [LawfulBEq α]

@[simp]
theorem mem_distinct (a : α) (elements : List α) : a ∈ distinct elements ↔ a ∈ elements := by
  induction elements with
  | nil => rfl
  | cons first rest ih =>
    by_cases same : a = first
    · simp [distinct, same]
    · simp [distinct, same, ih]

theorem nodup_distinct (elements : List α) : (distinct elements).Nodup := by
  induction elements with
  | nil => exact List.nodup_nil
  | cons first rest ih =>
    rw [distinct, List.nodup_cons]
    exact ⟨by simp, ih.filter _⟩

theorem distinct_perm {elements others : List α} (same : ∀ a, a ∈ elements ↔ a ∈ others) :
    (distinct elements).Perm (distinct others) := by
  rw [List.perm_ext_iff_of_nodup (nodup_distinct elements) (nodup_distinct others)]
  intro a
  rw [mem_distinct, mem_distinct, same]

theorem distinct_concat (elements : List α) (a : α) :
    distinct (elements ++ [a]) =
      if a ∈ elements then distinct elements else distinct elements ++ [a] := by
  induction elements with
  | nil => rfl
  | cons first rest ih =>
    rw [List.cons_append, distinct, ih, distinct]
    by_cases inside : a ∈ rest
    · simp [inside]
    · by_cases same : a = first
      · subst same
        simp [inside]
      · simp [inside, same]

theorem mem_of_forall₂ {β γ : Type} {R : β → γ → Prop} {items : List β} {others : List γ}
    (related : List.Forall₂ R items others) {a : β} (member : a ∈ items) :
    ∃ b ∈ others, R a b := by
  induction related with
  | nil => cases member
  | cons first _ ih =>
    cases List.mem_cons.mp member with
    | inl here => exact ⟨_, List.mem_cons_self, here ▸ first⟩
    | inr later =>
      obtain ⟨b, inside, related⟩ := ih later
      exact ⟨b, List.mem_cons_of_mem _ inside, related⟩

end CodeAtlas.Text
