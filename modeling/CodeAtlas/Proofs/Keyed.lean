import CodeAtlas.Keyed
import CodeAtlas.Proofs.Text.Distinct
import Mathlib.Data.List.Induction

set_option autoImplicit false

/-! Values under keys: what is found after a value was put or erased, and keys that stay apart. -/

namespace CodeAtlas.Keyed

open CodeAtlas.Text

variable {α β : Type} [BEq α] [LawfulBEq α]

theorem lookup_put (key other : α) (value : β) (entries : List (α × β)) :
    lookup other (put key value entries) =
      if key == other then some value else lookup other entries := by
  induction entries with
  | nil => simp [put, lookup]
  | cons entry rest ih =>
    obtain ⟨first, old⟩ := entry
    by_cases here : first = key
    · subst here
      by_cases same : first = other <;> simp [put, lookup, same]
    · by_cases same : first = other
      · subst same
        have apart : key ≠ first := Ne.symm here
        simp [put, lookup, here, apart]
      · simp [put, lookup, here, same, ih]

theorem lookup_erase (key other : α) (entries : List (α × β)) :
    lookup other (erase key entries) = if key == other then none else lookup other entries := by
  induction entries with
  | nil => simp [erase, lookup]
  | cons entry rest ih =>
    obtain ⟨first, old⟩ := entry
    by_cases here : first = key
    · subst here
      have dropped : erase first ((first, old) :: rest) = erase first rest := by simp [erase]
      rw [dropped, ih]
      by_cases same : first = other <;> simp [lookup, same]
    · have kept : erase key ((first, old) :: rest) = (first, old) :: erase key rest := by
        simp [erase, here]
      rw [kept]
      by_cases same : first = other
      · subst same
        have apart : key ≠ first := Ne.symm here
        simp [lookup, apart]
      · simp [lookup, same, ih]

theorem put_fresh (key : α) (value : β) (entries : List (α × β))
    (fresh : key ∉ entries.map (·.1)) : put key value entries = entries ++ [(key, value)] := by
  induction entries with
  | nil => rfl
  | cons entry rest ih =>
    obtain ⟨first, old⟩ := entry
    simp only [List.map_cons, List.mem_cons, not_or] at fresh
    have apart : first ≠ key := Ne.symm fresh.1
    simp [put, apart, ih fresh.2]

omit [BEq α] [LawfulBEq α] in
theorem fresh_of_apart {before after : List (α × β)} {entry : α × β}
    (apart : ((before ++ entry :: after).map (·.1)).Nodup) : entry.1 ∉ before.map (·.1) := by
  rw [List.map_append, List.nodup_append] at apart
  exact fun member => apart.2.2 entry.1 member entry.1 (by simp) rfl

theorem keys_put (key : α) (value : β) (entries : List (α × β)) :
    (put key value entries).map (·.1) =
      if key ∈ entries.map (·.1) then entries.map (·.1) else entries.map (·.1) ++ [key] := by
  induction entries with
  | nil => rfl
  | cons entry rest ih =>
    obtain ⟨first, old⟩ := entry
    by_cases here : first = key
    · simp [put, here]
    · have apart : key ≠ first := Ne.symm here
      simp only [put, beq_iff_eq, here, if_false, List.map_cons, List.mem_cons, apart, false_or, ih]
      split <;> rfl

theorem nodup_put (key : α) (value : β) (entries : List (α × β))
    (apart : (entries.map (·.1)).Nodup) : ((put key value entries).map (·.1)).Nodup := by
  rw [keys_put]
  split
  · exact apart
  next fresh =>
    rw [List.nodup_append]
    refine ⟨apart, by simp, ?_⟩
    intro a inside b last
    rw [List.mem_singleton] at last
    rintro rfl
    exact fresh (last ▸ inside)

-- Keys that are all new come behind the old ones, in order.
theorem foldl_put_fresh (entries pairs : List (α × β))
    (apart : ((entries ++ pairs).map (·.1)).Nodup) :
    pairs.foldl (fun kept pair => put pair.1 pair.2 kept) entries = entries ++ pairs := by
  induction pairs generalizing entries with
  | nil => simp
  | cons pair rest ih =>
    rw [List.foldl_cons, put_fresh pair.1 pair.2 entries (fresh_of_apart apart)]
    rw [ih (entries ++ [(pair.1, pair.2)]) (by simpa using apart)]
    simp

theorem ofList_apart (entries : List (α × β)) (apart : (entries.map (·.1)).Nodup) :
    ofList entries = entries :=
  foldl_put_fresh [] entries apart

theorem mem_put (key : α) (value : β) (entries : List (α × β)) (entry : α × β)
    (member : entry ∈ put key value entries) : entry = (key, value) ∨ entry ∈ entries := by
  induction entries with
  | nil => exact .inl (List.mem_singleton.mp member)
  | cons first rest ih =>
    obtain ⟨other, old⟩ := first
    simp only [put] at member
    split at member
    next same =>
      rw [beq_iff_eq] at same
      subst same
      rcases List.mem_cons.mp member with rfl | later
      · exact .inl rfl
      · exact .inr (List.mem_cons_of_mem _ later)
    next =>
      rcases List.mem_cons.mp member with rfl | later
      · exact .inr (by simp)
      · exact (ih later).imp id (List.mem_cons_of_mem _)

theorem mem_foldl_put (entries pairs : List (α × β)) (entry : α × β)
    (member : entry ∈ pairs.foldl (fun kept pair => put pair.1 pair.2 kept) entries) :
    entry ∈ entries ∨ entry ∈ pairs := by
  induction pairs generalizing entries with
  | nil => exact .inl member
  | cons pair rest ih =>
    rcases ih _ member with old | later
    · rcases mem_put pair.1 pair.2 entries entry old with rfl | before
      · exact .inr (by simp)
      · exact .inl before
    · exact .inr (List.mem_cons_of_mem pair later)

theorem mem_of_lookup {key : α} {value : β} {entries : List (α × β)}
    (found : lookup key entries = some value) : (key, value) ∈ entries := by
  induction entries with
  | nil => cases found
  | cons entry rest ih =>
    obtain ⟨first, old⟩ := entry
    by_cases same : first = key
    · subst same
      have equal : old = value := by simpa [lookup] using found
      simp [equal]
    · exact List.mem_cons_of_mem _ (ih (by simpa [lookup, same] using found))

-- Where keys are apart, a value is found under its key.
theorem lookup_eq_some (key : α) (value : β) (entries : List (α × β))
    (apart : (entries.map (·.1)).Nodup) :
    lookup key entries = some value ↔ (key, value) ∈ entries := by
  induction entries with
  | nil => simp [lookup]
  | cons entry rest ih =>
    obtain ⟨first, old⟩ := entry
    simp only [List.map_cons, List.nodup_cons] at apart
    by_cases same : first = key
    · subst same
      have absent : (first, value) ∉ rest := fun member =>
        apart.1 (List.mem_map_of_mem (f := (·.1)) member)
      simp [lookup, absent, eq_comm]
    · have differs : key ≠ first := Ne.symm same
      simp [lookup, same, differs, ih apart.2]

-- Where keys are apart, the order of the entries does not matter.
theorem lookup_perm {entries others : List (α × β)} (apart : (entries.map (·.1)).Nodup)
    (perm : others.Perm entries) (key : α) : lookup key others = lookup key entries := by
  have keys : (others.map (·.1)).Nodup := (perm.map (·.1)).nodup_iff.mpr apart
  ext value
  rw [lookup_eq_some key value others keys, lookup_eq_some key value entries apart, perm.mem_iff]

/-! ### Entries that are put one after the other -/

/-- Each key of entries at the place where it came first, with its last value. -/
def standing (entries : List (α × β)) : List (α × β) :=
  (distinct (entries.map (·.1))).filterMap fun key =>
    (lookup key entries.reverse).map (key, ·)

omit [LawfulBEq α] in
theorem ofList_concat (entries : List (α × β)) (entry : α × β) :
    ofList (entries ++ [entry]) = put entry.1 entry.2 (ofList entries) := by
  simp [ofList, List.foldl_append]

theorem keys_ofList (entries : List (α × β)) :
    (ofList entries).map (·.1) = distinct (entries.map (·.1)) := by
  induction entries using List.reverseRecOn with
  | nil => rfl
  | append_singleton entries entry ih =>
    rw [ofList_concat, keys_put, ih, List.map_append, List.map_singleton, distinct_concat]
    simp only [mem_distinct]

theorem lookup_ofList (key : α) (entries : List (α × β)) :
    lookup key (ofList entries) = lookup key entries.reverse := by
  induction entries using List.reverseRecOn with
  | nil => rfl
  | append_singleton entries entry ih =>
    rw [ofList_concat, lookup_put, ih, List.reverse_append, List.reverse_singleton,
      List.singleton_append, lookup]

theorem eq_lookups (entries : List (α × β)) (apart : (entries.map (·.1)).Nodup) :
    entries = (entries.map (·.1)).filterMap fun key => (lookup key entries).map (key, ·) := by
  have each : ∀ entry ∈ entries,
      (lookup entry.1 entries).map (entry.1, ·) = some entry := by
    intro entry member
    rw [(lookup_eq_some entry.1 entry.2 entries apart).mpr member]
    rfl
  rw [List.filterMap_map]
  conv_lhs => rw [← List.filterMap_some (l := entries)]
  exact (List.filterMap_congr each).symm

theorem ofList_eq_standing (entries : List (α × β)) : ofList entries = standing entries := by
  have apart : ((ofList entries).map (·.1)).Nodup := by
    rw [keys_ofList]
    exact nodup_distinct _
  have found := eq_lookups (ofList entries) apart
  simp only [keys_ofList, lookup_ofList] at found
  exact found

theorem keys_standing (entries : List (α × β)) :
    (standing entries).map (·.1) = distinct (entries.map (·.1)) := by
  rw [← ofList_eq_standing, keys_ofList]

end CodeAtlas.Keyed
