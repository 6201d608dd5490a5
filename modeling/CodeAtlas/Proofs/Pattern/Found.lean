import CodeAtlas.Proofs.Pattern.Matches
import Mathlib.Data.List.Basic

set_option autoImplicit false

/-! What a search finds: at each place where a pattern matches a match found begins, unless the place
lies inside a match that begins before it. -/

namespace CodeAtlas.Pattern

theorem Cursor.Within.unique {text : List Char} {a b : Cursor} (one : a.Within text)
    (two : b.Within text) (same : a.index = b.index) : a.before = b.before ∧ a.after = b.after := by
  have length : a.before.reverse.length = b.before.reverse.length := by
    rw [List.length_reverse, List.length_reverse, ← a.index_eq, ← b.index_eq, same]
  obtain ⟨before, after⟩ := List.append_inj (one.trans two.symm) length
  exact ⟨List.reverse_injective before, after⟩

theorem Cursor.Within.size {text : List Char} {a : Cursor} (within : a.Within text) :
    a.index + a.left = text.length := by
  rw [← within, List.length_append, List.length_reverse, a.index_eq, a.left_eq]

theorem advance_of_left {a : Cursor} (more : 0 < a.left) :
    ∃ c b, a.advance = some (c, b) ∧ b.index = a.index + 1 ∧ a.left = b.left + 1 := by
  cases step : a.advance with
  | none =>
    unfold Cursor.advance at step
    split at step
    · cases step
    next empty =>
      rw [a.left_eq, empty] at more
      cases more
  | some next =>
    obtain ⟨c, b⟩ := next
    have passed := Passes.of_advance step
    refine ⟨c, b, rfl, passed.index_eq, ?_⟩
    rw [a.left_eq, b.left_eq, passed.2]
    rfl

theorem matchAt_start {p : Pattern} {cursor : Cursor} {m : Match} (found : matchAt p cursor = some m) :
    m.start = cursor := by
  obtain ⟨stop, -, made⟩ := run_sound p _ _ _ found
  rw [← Option.some.inj made]

theorem findFrom_matchAt {p : Pattern} {places : Nat} {cursor : Cursor} {m : Match}
    (found : findFrom p places cursor = some m) : matchAt p m.start = some m := by
  induction places generalizing cursor with
  | zero => cases found
  | succ places ih =>
    simp only [findFrom] at found
    split at found
    next first here =>
      obtain rfl := Option.some.inj found
      rwa [matchAt_start here]
    next =>
      obtain ⟨⟨c, next⟩, -, later⟩ := Option.bind_eq_some_iff.mp found
      exact ih later

theorem findFrom_late {p : Pattern} {places : Nat} {cursor : Cursor} {m : Match}
    (found : findFrom p places cursor = some m) : cursor.index ≤ m.index := by
  induction places generalizing cursor with
  | zero => cases found
  | succ places ih =>
    simp only [findFrom] at found
    split at found
    next first here =>
      obtain rfl := Option.some.inj found
      exact Nat.le_of_eq (congrArg Cursor.index (matchAt_start here)).symm
    next =>
      obtain ⟨⟨c, next⟩, step, later⟩ := Option.bind_eq_some_iff.mp found
      have index : next.index = cursor.index + 1 := (Passes.of_advance step).index_eq
      have le : next.index ≤ m.index := ih later
      omega

theorem findAllFrom_matchAt {p : Pattern} {fuel : Nat} {cursor : Cursor} {m : Match}
    (member : m ∈ findAllFrom p fuel cursor) : matchAt p m.start = some m := by
  induction fuel generalizing cursor with
  | zero => cases member
  | succ fuel ih =>
    simp only [findAllFrom] at member
    split at member
    next => cases member
    next first found =>
      rcases List.mem_cons.mp member with rfl | later
      · exact findFrom_matchAt found
      · split at later
        next next resumes => exact ih later
        next => cases later

theorem findAll_matchAt {p : Pattern} {text : List Char} {m : Match} (member : m ∈ p.findAll text) :
    matchAt p m.start = some m :=
  findAllFrom_matchAt member

-- A match at the very start is the first that is found.
theorem findAll_first {p : Pattern} {text : List Char} {m : Match}
    (here : matchAt p (.start text) = some m) : m ∈ p.findAll text := by
  have found : findNext p (.start text) = some m := by
    rw [findNext, findFrom, here]
  rw [findAll, findAllFrom, found]
  exact List.mem_cons_self

theorem run_none {α : Type} {p : Pattern} (full : nullable p = false) {cursor : Cursor}
    (apart : ∀ c, cursor.after.head? = some c → ¬InSome (heads p) c) (next : Cursor → Option α) :
    run p cursor next = none := by
  cases found : run p cursor next with
  | none => rfl
  | some answer =>
    obtain ⟨later, reached, -⟩ := run_sound p cursor next answer found
    obtain ⟨taken, passed, takes⟩ := reaches_takes p cursor later reached
    obtain ⟨c, more, rfl⟩ := List.exists_cons_of_ne_nil (takes.nonempty full)
    refine absurd (takes.head c rfl) (apart c ?_)
    rw [passed.2]
    rfl

/-- Whether a pattern matches depends on the place alone, not on the groups matched before. -/
def Steady (p : Pattern) : Prop :=
  ∀ a b : Cursor, a.before = b.before → a.after = b.after → (matchAt p a).isSome = true →
    (matchAt p b).isSome = true

section

variable {p : Pattern} {text : List Char} {place : Cursor}

theorem findFrom_hit (steady : Steady p) (placed : place.Within text)
    (hit : (matchAt p place).isSome = true) {places : Nat} {cursor : Cursor}
    (within : cursor.Within text) (enough : cursor.left < places) (le : cursor.index ≤ place.index) :
    ∃ m, findFrom p places cursor = some m ∧ cursor.index ≤ m.index ∧ m.index ≤ place.index := by
  induction places generalizing cursor with
  | zero => omega
  | succ places ih =>
    rw [findFrom]
    cases here : matchAt p cursor with
    | some m =>
      have start : m.index = cursor.index := congrArg Cursor.index (matchAt_start here)
      exact ⟨m, rfl, by omega, by omega⟩
    | none =>
      have elsewhere : cursor.index ≠ place.index := by
        intro same
        obtain ⟨before, after⟩ := placed.unique within same.symm
        have again := steady place cursor before after hit
        rw [here] at again
        cases again
      have size := within.size
      have size' := placed.size
      obtain ⟨c, next, step, index, left⟩ := advance_of_left (a := cursor) (by omega)
      have within' := (Passes.of_advance step).within within
      obtain ⟨m, found, late, early⟩ := ih within' (by omega) (by omega)
      exact ⟨m, by rw [step]; exact found, by omega, early⟩

theorem resume_of_full (full : nullable p = false) {m : Match} (matched : Matches p text m) :
    resume m = some m.stop ∧ m.index < m.endIndex := by
  obtain ⟨taken, passed, takes⟩ := reaches_takes p _ _ matched.reached
  have some := List.length_pos_of_ne_nil (takes.nonempty full)
  have stop : m.stop.index = m.start.index + taken.length := passed.index_eq
  have apart : ¬(m.stop.index == m.start.index) = true := by
    rw [beq_iff_eq]
    omega
  exact ⟨by rw [resume, if_neg apart], by unfold Match.index Match.endIndex; omega⟩

theorem findAllFrom_complete (steady : Steady p) (full : nullable p = false)
    (placed : place.Within text) (hit : (matchAt p place).isSome = true) {fuel : Nat}
    {cursor : Cursor} (within : cursor.Within text) (enough : cursor.left < fuel)
    (le : cursor.index ≤ place.index) : ∃ m ∈ findAllFrom p fuel cursor,
      m.index = place.index ∨ (m.index < place.index ∧ place.index < m.endIndex) := by
  induction fuel generalizing cursor with
  | zero => omega
  | succ fuel ih =>
    obtain ⟨m, found, late, early⟩ :=
      findFrom_hit steady placed hit within (Nat.lt_succ_self cursor.left) le
    have matched := findFrom_matches p text _ cursor m within found
    obtain ⟨resumes, moved⟩ := resume_of_full full matched
    have next : findNext p cursor = some m := found
    rw [findAllFrom, next]
    simp only [resumes]
    by_cases covered : place.index < m.endIndex
    · refine ⟨m, List.mem_cons_self, ?_⟩
      rcases Nat.lt_or_eq_of_le early with lt | same
      · exact .inr ⟨lt, covered⟩
      · exact .inl same
    · have within' := resume_within matched m.stop resumes
      have size := within.size
      have size' := within'.size
      have behind : m.endIndex = m.stop.index := rfl
      obtain ⟨later, member, there⟩ := ih within' (by omega) (by omega)
      exact ⟨later, List.mem_cons_of_mem m member, there⟩

-- Each place where the pattern matches is accounted for.
theorem findAll_complete (steady : Steady p) (full : nullable p = false) (placed : place.Within text)
    (hit : (matchAt p place).isSome = true) : ∃ m ∈ p.findAll text,
      m.index = place.index ∨ (m.index < place.index ∧ place.index < m.endIndex) := by
  refine findAllFrom_complete steady full placed hit ?_ (Nat.lt_succ_self _) (Nat.zero_le _)
  simp [Cursor.Within, Cursor.start]

end

end CodeAtlas.Pattern
