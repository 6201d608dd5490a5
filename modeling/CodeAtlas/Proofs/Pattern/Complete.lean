import CodeAtlas.Proofs.Pattern.Cut
import CodeAtlas.Proofs.Pattern.Found
import CodeAtlas.Proofs.Pattern.Spelling
import Mathlib.Algebra.BigOperators.Group.List.Basic

set_option autoImplicit false

/-! The search misses nothing: what a pattern spells is found if the rest matches behind it. What it finds
does not overlap. -/

namespace CodeAtlas.Pattern

theorem spells_ne_nil {p : Pattern} (full : moves p = true) {text : List Char}
    (spells : Spells p text) : text ≠ [] := by
  induction p generalizing text with
  | set s =>
    obtain ⟨c, rfl, -⟩ := spells
    exact List.cons_ne_nil c []
  | seq first second ihFirst ihSecond =>
    obtain ⟨one, two, rfl, spellsFirst, spellsSecond⟩ := spells
    simp only [moves, Bool.or_eq_true] at full
    rcases full with full | full
    · simp [ihFirst full spellsFirst]
    · simp [ihSecond full spellsSecond]
  | choice first second ihFirst ihSecond =>
    simp only [moves, Bool.and_eq_true] at full
    rcases spells with spells | spells
    · exact ihFirst full.1 spells
    · exact ihSecond full.2 spells
  | group index body ih => exact ih full spells
  | empty | anchor | loop | again | ahead | behind | atomic | given => cases full

/-- From every place in front of a text that the pattern spells a step succeeds, if what follows
succeeds wherever that text ends. -/
def Finds (p : Pattern) : Prop :=
  ∀ {α : Type} {taken rest : List Char} (next : Cursor → Option α), Spells p taken →
    (∀ later, later.after = rest → (next later).isSome = true) →
    ∀ cursor, cursor.after = taken ++ rest → (run p cursor next).isSome = true

section

variable {α : Type} {body : Pattern} {rest : List Char}

theorem isSome_or_left {a b : Option α} (found : a.isSome = true) : (a.or b).isSome = true := by
  rw [Option.isSome_or, found, Bool.true_or]

theorem isSome_or_right {a b : Option α} (found : b.isSome = true) : (a.or b).isSome = true := by
  rw [Option.isSome_or, found, Bool.or_true]

-- Each piece makes one round. The rounds stop behind the last piece, or later if they can.
theorem iterate_complete (finds : Finds body) (full : moves body = true) (least : Nat)
    (most : Option Nat) (lazy : Bool) (next : Cursor → Option α)
    (goes : ∀ later, later.after = rest → (next later).isSome = true)
    (pieces : List (List Char)) (each : ∀ piece ∈ pieces, Spells body piece) (fuel count : Nat)
    (mark : Option Nat) (enough : pieces.length < fuel)
    (allowed : Allowed least most (count + pieces.length)) (cursor : Cursor)
    (fresh : ∀ left, mark = some left → cursor.left < left)
    (after : cursor.after = pieces.flatten ++ rest) :
    (iterate (run body) least most lazy fuel count mark cursor next).isSome = true := by
  induction pieces generalizing fuel count mark cursor with
  | nil =>
    obtain ⟨fuel, rfl⟩ := Nat.exists_eq_add_one.mpr (Nat.zero_lt_of_lt enough)
    have done : (next cursor).isSome = true := goes cursor (by simpa using after)
    have reached : ¬count < least := by
      have := allowed.1
      simp only [List.length_nil] at this
      omega
    rw [iterate_succ]
    simp only [if_neg reached]
    split
    · split
      · exact isSome_or_left done
      · exact isSome_or_right done
    · exact done
  | cons piece pieces ih =>
    obtain ⟨fuel, rfl⟩ := Nat.exists_eq_add_one.mpr (Nat.zero_lt_of_lt enough)
    have spelled := each piece List.mem_cons_self
    have wide := List.length_pos_of_ne_nil (spells_ne_nil full spelled)
    have fewer : Allowed least most (count + 1 + pieces.length) := by
      rwa [List.length_cons, ← Nat.add_assoc, Nat.add_right_comm] at allowed
    have round (mark : Option Nat) (fresh : ∀ left, mark = some left → cursor.left ≤ left) :
        (run body cursor fun later =>
          iterate (run body) least most lazy fuel (count + 1) mark later next).isSome = true := by
      refine @finds _ _ (pieces.flatten ++ rest) _ spelled ?_ cursor ?_
      · intro later behind
        refine ih (fun other member => each other (List.mem_cons_of_mem piece member)) fuel
          (count + 1) mark (by simpa using enough) fewer later ?_ behind
        intro left same
        have le := fresh left same
        rw [cursor.left_eq, after, List.flatten_cons, List.append_assoc, List.length_append, ← behind,
          ← later.left_eq] at le
        omega
      · rw [after, List.flatten_cons, List.append_assoc]
    rw [iterate_succ]
    simp only
    split
    · exact round mark fun left same => Nat.le_of_lt (fresh left same)
    next reached =>
      have goes : (mayRepeat most count && mark != some cursor.left) = true := by
        rw [Bool.and_eq_true, bne_iff_ne]
        constructor
        · unfold mayRepeat
          split
          next limit =>
            have within := fewer.2 limit rfl
            rw [decide_eq_true_eq]
            omega
          next => rfl
        · intro same
          exact absurd (fresh _ same) (Nat.lt_irrefl _)
      have again := round (some cursor.left) fun left same =>
        Nat.le_of_eq (Option.some.inj same)
      rw [if_pos goes]
      split
      · exact isSome_or_right again
      · exact isSome_or_left again

end

-- A simple pattern finds whatever it spells.
theorem run_complete (p : Pattern) (plain : simple p = true) : Finds p := by
  induction p with
  | empty =>
    intro α taken rest next spells goes cursor after
    obtain rfl : taken = [] := spells
    exact goes cursor after
  | set s =>
    intro α taken rest next spells goes cursor after
    obtain ⟨c, rfl, holds⟩ := spells
    rw [cursor.eq_between, after, List.singleton_append, run_set_cons, if_pos holds]
    exact goes _ rfl
  | seq first second ihFirst ihSecond =>
    simp only [simple, Bool.and_eq_true] at plain
    intro α taken rest next spells goes cursor after
    obtain ⟨one, two, rfl, spellsFirst, spellsSecond⟩ := spells
    refine @ihFirst plain.1 _ _ (two ++ rest) _ spellsFirst ?_ cursor ?_
    · exact fun later behind => ihSecond plain.2 next spellsSecond goes later behind
    · rw [after, List.append_assoc]
  | choice first second ihFirst ihSecond =>
    simp only [simple, Bool.and_eq_true] at plain
    intro α taken rest next spells goes cursor after
    simp only [run, Option.orElse_eq_orElse, Option.orElse_eq_or]
    rcases spells with spells | spells
    · exact isSome_or_left (ihFirst plain.1 next spells goes cursor after)
    · exact isSome_or_right (ihSecond plain.2 next spells goes cursor after)
  | loop body least most greed ih =>
    simp only [simple, Bool.and_eq_true, bne_iff_ne, ne_eq] at plain
    obtain ⟨⟨kept, full⟩, plain⟩ := plain
    intro α taken rest next spells goes cursor after
    obtain ⟨pieces, rfl, allowed, each⟩ := spells
    have few : pieces.length ≤ cursor.left := by
      have wide := (pieces.map List.length).length_le_sum_of_one_le (by
        intro size member
        obtain ⟨piece, inside, rfl⟩ := List.mem_map.mp member
        exact List.length_pos_of_ne_nil (spells_ne_nil full (each piece inside)))
      rw [List.length_map, ← List.length_flatten] at wide
      rw [cursor.left_eq, after, List.length_append]
      omega
    have loop (lazy : Bool) : (iterate (run body) least most lazy (loopFuel least cursor) 0 none
        cursor next).isSome = true := by
      refine iterate_complete (ih plain) full least most lazy next goes pieces each _ 0 none ?_
        (by rwa [Nat.zero_add]) cursor (by simp) after
      unfold loopFuel
      omega
    cases greed with
    | greedy => exact loop false
    | lazy => exact loop true
    | possessive => exact absurd rfl kept
  | group index body ih =>
    intro α taken rest next spells goes cursor after
    exact ih plain (fun later => next (later.close index cursor)) spells
      (fun later behind => goes (later.close index cursor) behind) cursor after
  | anchor | again | ahead | behind | atomic | given => cases plain

section

variable {p : Pattern} {text : List Char}

theorem findAllFrom_apart (full : nullable p = false) {fuel : Nat} {cursor : Cursor}
    (within : cursor.Within text) :
    (∀ m ∈ findAllFrom p fuel cursor, cursor.index ≤ m.index) ∧
      (findAllFrom p fuel cursor).Pairwise fun m m' => m.endIndex ≤ m'.index := by
  induction fuel generalizing cursor with
  | zero => simp [findAllFrom]
  | succ fuel ih =>
    rw [findAllFrom]
    split
    next => simp
    next m found =>
      have late := findFrom_late found
      have matched := findFrom_matches p text _ cursor m within found
      obtain ⟨resumes, moved⟩ := resume_of_full full matched
      obtain ⟨behind, apart⟩ := ih (resume_within matched m.stop resumes)
      simp only [resumes]
      constructor
      · intro m' member
        rcases List.mem_cons.mp member with rfl | later
        · exact late
        · have le : m.endIndex ≤ m'.index := behind m' later
          omega
      · exact List.pairwise_cons.mpr ⟨behind, apart⟩

-- No match begins before the one in front of it ends.
theorem findAll_apart (full : nullable p = false) :
    (p.findAll text).Pairwise fun m m' => m.endIndex ≤ m'.index := by
  have within : (Cursor.start text).Within text := by simp [Cursor.Within, Cursor.start]
  exact (findAllFrom_apart full within).2

theorem findAll_disjoint (full : nullable p = false) {m m' : Match} (found : m ∈ p.findAll text)
    (found' : m' ∈ p.findAll text) :
    m = m' ∨ m.endIndex ≤ m'.index ∨ m'.endIndex ≤ m.index := by
  refine List.Pairwise.forall_of_forall_of_flip
    (R := fun m m' : Match => m = m' ∨ m.endIndex ≤ m'.index ∨ m'.endIndex ≤ m.index) ?_ ?_ ?_ found found'
  · exact fun _ _ => .inl rfl
  · exact (findAll_apart full).imp fun le => .inr (.inl le)
  · exact (findAll_apart full).imp fun le => .inr (.inr le)

end

end CodeAtlas.Pattern
