import Mathlib
import CodeAtlas.Classify.Entry
import CodeAtlas.Proofs.Source.Anchoring

set_option autoImplicit false

/-! Identities of units: a name, a path and a line can be read back from them, whatever the path is. -/

namespace CodeAtlas.Classify

open CodeAtlas.Pattern CodeAtlas.Source CodeAtlas.Text

/-- A name that a declaration can have. -/
structure Plain (name : String) : Prop where
  nonempty : name ≠ ""
  no_colon : ':' ∉ name.toList

theorem identifier_plain (name : String)
    (takes : Takes (Shape.identifier Shape.nameStart) name.toList) : Plain name := by
  constructor
  · rintro rfl
    exact takes.nonempty (by decide) rfl
  · intro member
    obtain ⟨s, inside, holds⟩ := takes.each ':' member
    have clear : (alphabet (Shape.identifier Shape.nameStart)).all (·.avoids [(58, 58)]) = true := by
      decide
    have outside := CharSet.avoids_holds (List.all_eq_true.mp clear s inside) holds
    exact absurd outside (by decide)

theorem extract_plain (least : Int) (path text : String) (u : RawUnit)
    (member : u ∈ extract least path text) : Plain u.name := by
  obtain ⟨s, inside, rfl⟩ := List.mem_map.mp member
  exact identifier_plain s.name (spans_anchored least _ s inside).named

theorem extract_path (least : Int) (path text : String) (u : RawUnit)
    (member : u ∈ extract least path text) : u.path = path := by
  obtain ⟨s, inside, rfl⟩ := List.mem_map.mp member
  rfl

section

variable {α : Type} {mark : α} {first other rest remaining : List α}

-- What stands around the first mark of a list.
theorem split_first (absent : mark ∉ first) (missing : mark ∉ other)
    (same : first ++ mark :: rest = other ++ mark :: remaining) :
    first = other ∧ rest = remaining := by
  induction first generalizing other with
  | nil =>
    cases other with
    | nil => exact ⟨rfl, (List.cons.inj same).2⟩
    | cons a other =>
      obtain ⟨rfl, -⟩ := List.cons.inj same
      simp at missing
  | cons a first ih =>
    cases other with
    | nil =>
      obtain ⟨rfl, -⟩ := List.cons.inj same
      simp at absent
    | cons b other =>
      obtain ⟨rfl, later⟩ := List.cons.inj same
      rw [List.mem_cons, not_or] at absent missing
      obtain ⟨rfl, rfl⟩ := ih absent.2 missing.2 later
      exact ⟨rfl, rfl⟩

-- What stands around the last mark of a list.
theorem split_last (absent : mark ∉ rest) (missing : mark ∉ remaining)
    (same : first ++ mark :: rest = other ++ mark :: remaining) :
    first = other ∧ rest = remaining := by
  have reversed := congrArg List.reverse same
  simp only [List.reverse_append, List.reverse_cons, List.append_assoc, List.singleton_append]
    at reversed
  obtain ⟨behind, before⟩ := split_first (by simpa using absent) (by simpa using missing) reversed
  exact ⟨List.reverse_injective before, List.reverse_injective behind⟩

end

theorem line_no_colon (line : Int) : ':' ∉ (toString line).toList := by
  have digits (n : Nat) : ':' ∉ (Nat.repr n).toList := by
    intro member
    rw [Nat.toList_repr] at member
    exact absurd (Nat.isDigit_of_mem_toDigits (by decide) (by decide) member) (by decide)
  cases line with
  | ofNat n => exact digits n
  | negSucc n =>
    have written : (toString (Int.negSucc n)).toList = '-' :: (Nat.repr (n + 1)).toList := by
      simp [toString, Int.repr]
    rw [written, List.mem_cons, not_or]
    exact ⟨by decide, digits (n + 1)⟩

theorem unitId_toList (name path : String) (line : Int) :
    (unitId name path line).toList =
      name.toList ++ ':' :: (path.toList ++ ':' :: (toString line).toList) := by
  simp [unitId, toString]

-- A path may hold colons: the first colon ends the name, and the last one begins the line.
theorem unitId_inj {name other path place : String} {line row : Int} (plain : Plain name)
    (clear : Plain other) (same : unitId name path line = unitId other place row) :
    name = other ∧ path = place ∧ line = row := by
  have texts := congrArg String.toList same
  rw [unitId_toList, unitId_toList] at texts
  obtain ⟨names, texts⟩ := split_first plain.no_colon clear.no_colon texts
  obtain ⟨paths, lines⟩ := split_last (line_no_colon line) (line_no_colon row) texts
  exact ⟨String.toList_inj.mp names, String.toList_inj.mp paths,
    Int.repr_inj.mp (String.toList_inj.mp lines)⟩

theorem entry_idAt (u : ClassifiedUnit) (plain : Plain u.raw.name) (filed : u.raw.path ≠ "")
    (position : Int) : u.entry.idAt position = u.id := by
  have present : (u.raw.name.isEmpty || u.raw.path.isEmpty) = false := by
    simp [plain.nonempty, filed]
  simp only [Entry.idAt, recordId, ClassifiedUnit.entry, present]
  rfl

theorem entry_idAt_unfiled (u : ClassifiedUnit) (unfiled : u.raw.path = "") (position : Int) :
    (u.entry.idAt position).toList = "chunk-".toList ++ (toString position).toList := by
  have absent : (u.raw.name.isEmpty || u.raw.path.isEmpty) = true := by simp [unfiled]
  simp only [Entry.idAt, recordId, ClassifiedUnit.entry, absent, if_true]
  exact String.toList_append

theorem unfiled_no_colon (u : ClassifiedUnit) (unfiled : u.raw.path = "") (position : Int) :
    ':' ∉ (u.entry.idAt position).toList := by
  rw [entry_idAt_unfiled u unfiled, List.mem_append, not_or]
  exact ⟨by decide, line_no_colon position⟩

theorem filed_colon (u : ClassifiedUnit) (plain : Plain u.raw.name) (filed : u.raw.path ≠ "")
    (position : Int) : ':' ∈ (u.entry.idAt position).toList := by
  rw [entry_idAt u plain filed]
  simp [ClassifiedUnit.id, RawUnit.id, unitId_toList]

-- Units without a path are told apart by their positions, all others by their identities.
theorem entry_idAt_inj {u v : ClassifiedUnit} {i j : Int} (plain : Plain u.raw.name)
    (clear : Plain v.raw.name) (same : u.entry.idAt i = v.entry.idAt j) : i = j ∨ u.id = v.id := by
  by_cases filed : u.raw.path = ""
  · by_cases other : v.raw.path = ""
    · have texts := congrArg String.toList same
      rw [entry_idAt_unfiled u filed, entry_idAt_unfiled v other, List.append_cancel_left_eq] at texts
      exact .inl (Int.repr_inj.mp (String.toList_inj.mp texts))
    · have colon := filed_colon v clear other j
      rw [← same] at colon
      exact absurd colon (unfiled_no_colon u filed i)
  · by_cases other : v.raw.path = ""
    · have colon := filed_colon u plain filed i
      rw [same] at colon
      exact absurd colon (unfiled_no_colon v other j)
    · rw [entry_idAt u plain filed, entry_idAt v clear other] at same
      exact .inr same

end CodeAtlas.Classify
