import CodeAtlas.Proofs.Keyed
import CodeAtlas.Store
import Mathlib.Data.List.Perm.Basic

set_option autoImplicit false

/-! Stores that any changes have led to. The units of each file determine all units but for their order.
-/

namespace CodeAtlas.Store

/-- A change of a store. -/
inductive Change (U : Type)
  | replace (path : String) (units : List U)
  | remove (path : String)
  | clear

variable {U : Type}

def Change.apply (s : Store U) : Change U → Store U
  | .replace path units => s.replace path units
  | .remove path => s.remove path
  | .clear => .empty

def changed (s : Store U) (changes : List (Change U)) : Store U :=
  changes.foldl Change.apply s

/-! ### Files -/

theorem apply_apart {s : Store U} (apart : s.paths.Nodup) (change : Change U) :
    (change.apply s).paths.Nodup := by
  cases change with
  | replace path units => exact Keyed.nodup_put path units s.files apart
  | remove path => exact apart.sublist (List.filter_sublist.map _)
  | clear => exact List.nodup_nil

theorem changed_apart {s : Store U} (apart : s.paths.Nodup) (changes : List (Change U)) :
    (s.changed changes).paths.Nodup := by
  induction changes generalizing s with
  | nil => exact apart
  | cons change later ih => exact ih (apply_apart apart change)

-- No file is twice in a store that was empty once.
theorem history_apart (changes : List (Change U)) : (empty.changed changes).paths.Nodup :=
  changed_apart (s := empty) List.nodup_nil changes

theorem mem_paths {s : Store U} {path : String} (filled : s.units path ≠ []) : path ∈ s.paths := by
  rw [units] at filled
  cases found : Keyed.lookup path s.files with
  | none => simp [found] at filled
  | some units => exact List.mem_map_of_mem (Keyed.mem_of_lookup found)

theorem units_of_mem {s : Store U} (apart : s.paths.Nodup) {entry : String × List U}
    (member : entry ∈ s.files) : s.units entry.1 = entry.2 := by
  rw [units, (Keyed.lookup_eq_some entry.1 entry.2 s.files apart).mpr member, Option.getD_some]

/-! ### Units -/

theorem all_eq {s : Store U} (apart : s.paths.Nodup) : s.all = s.paths.flatMap s.units := by
  rw [all, paths, List.flatMap_map]
  exact List.flatMap_congr fun entry member => (units_of_mem apart member).symm

theorem mem_all {s : Store U} (apart : s.paths.Nodup) (u : U) :
    u ∈ s.all ↔ ∃ path, u ∈ s.units path := by
  rw [all_eq apart, List.mem_flatMap]
  constructor
  · rintro ⟨path, -, member⟩
    exact ⟨path, member⟩
  · rintro ⟨path, member⟩
    exact ⟨path, mem_paths (List.ne_nil_of_mem member), member⟩

-- Files without units add nothing.
def filled (s : Store U) : List String :=
  s.paths.filter fun path => !(s.units path).isEmpty

theorem mem_filled (s : Store U) (path : String) : path ∈ s.filled ↔ s.units path ≠ [] := by
  simp only [filled, List.mem_filter, Bool.not_eq_true', List.isEmpty_eq_false_iff]
  exact ⟨And.right, fun some => ⟨mem_paths some, some⟩⟩

theorem nodup_filled {s : Store U} (apart : s.paths.Nodup) : s.filled.Nodup :=
  apart.filter _

theorem all_eq_filled {s : Store U} (apart : s.paths.Nodup) :
    s.all = s.filled.flatMap s.units := by
  have dropped := List.flatten_filter_not_isEmpty (L := s.paths.map s.units)
  rw [List.filter_map, ← List.flatMap_def, ← List.flatMap_def] at dropped
  rw [all_eq apart]
  exact dropped.symm

/-- Stores with the same units in each file have the same units, in whatever order the files came. -/
theorem all_perm {s t : Store U} (apart : s.paths.Nodup) (other : t.paths.Nodup)
    (same : ∀ path, s.units path = t.units path) : s.all.Perm t.all := by
  have files : s.filled.Perm t.filled := by
    rw [List.perm_ext_iff_of_nodup (nodup_filled apart) (nodup_filled other)]
    intro path
    rw [mem_filled, mem_filled, same]
  rw [all_eq_filled apart, all_eq_filled other, ← funext same]
  exact files.flatMap_right s.units

end CodeAtlas.Store
