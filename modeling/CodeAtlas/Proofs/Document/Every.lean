import CodeAtlas.Document.Basic
import CodeAtlas.Proofs.Keyed

set_option autoImplicit false

/-! Checks that hold of all values inside a document. -/

namespace CodeAtlas.Document

/-- A property of all documents, by way of what lists and objects hold. -/
theorem induct {holds : Document → Prop}
    (scalar : ∀ document, (∀ items, document ≠ .list items) →
      (∀ fields, document ≠ .object fields) → holds document)
    (list : ∀ items, (∀ item ∈ items, holds item) → holds (.list items))
    (object : ∀ fields, (∀ field ∈ fields, holds field.2) → holds (.object fields)) :
    (document : Document) → holds document
  | .list items => list items fun item _ => induct scalar list object item
  | .object fields => object fields fun field _ => induct scalar list object field.2
  | .null | .bool _ | .int _ | .float _ | .text _ =>
    scalar _ (fun _ same => by cases same) (fun _ same => by cases same)
termination_by document => sizeOf document
decreasing_by
  · have smaller := List.sizeOf_lt_of_mem ‹_›
    simp only [Document.list.sizeOf_spec]
    omega
  · have smaller := List.sizeOf_lt_of_mem ‹_›
    obtain ⟨name, value⟩ := field
    simp only [Prod.mk.sizeOf_spec, Document.object.sizeOf_spec] at smaller ⊢
    omega

variable {check : Document → Bool}

theorem everyItem_iff (items : List Document) :
    everyItem check items = true ↔ ∀ item ∈ items, item.every check = true := by
  induction items with
  | nil => simp [everyItem]
  | cons item items ih => simp [everyItem, ih]

theorem everyField_iff (fields : List (String × Document)) :
    everyField check fields = true ↔ ∀ field ∈ fields, field.2.every check = true := by
  induction fields with
  | nil => simp [everyField]
  | cons field fields ih => simp [everyField, ih]

theorem every_scalar {document : Document} (items : ∀ items, document ≠ .list items)
    (fields : ∀ fields, document ≠ .object fields) : document.every check = check document := by
  cases document with
  | list others => exact absurd rfl (items others)
  | object others => exact absurd rfl (fields others)
  | _ => rfl

theorem every_and (first second : Document → Bool) (document : Document) :
    document.every (fun value => first value && second value) =
      (document.every first && document.every second) := by
  rw [Bool.eq_iff_iff, Bool.and_eq_true]
  induction document using induct with
  | scalar document items fields => simp only [every_scalar items fields, Bool.and_eq_true]
  | list items ih =>
    simp only [every, Bool.and_eq_true, everyItem_iff]
    grind
  | object fields ih =>
    simp only [every, Bool.and_eq_true, everyField_iff]
    grind

theorem every_lookup {name : String} {value : Document} {fields : List (String × Document)}
    (all : (Document.object fields).every check = true)
    (found : Keyed.lookup name fields = some value) : value.every check = true := by
  rw [every, Bool.and_eq_true, everyField_iff] at all
  exact all.2 _ (Keyed.mem_of_lookup found)

theorem everyField_put {name : String} {value : Document} {fields : List (String × Document)}
    (all : everyField check fields = true) (new : value.every check = true) :
    everyField check (Keyed.put name value fields) = true := by
  rw [everyField_iff] at all ⊢
  intro field member
  obtain rfl | old := Keyed.mem_put name value fields field member
  · exact new
  · exact all field old

end CodeAtlas.Document
