import CodeAtlas.Proofs.Pattern.Groups

set_option autoImplicit false

/-! Matches of a pattern in a text: where they lie and what they take. -/

namespace CodeAtlas.Pattern

def Cursor.Within (text : List Char) (cursor : Cursor) : Prop :=
  cursor.before.reverse ++ cursor.after = text

theorem Passes.within {a b : Cursor} {taken text : List Char} (passed : Passes a taken b)
    (within : a.Within text) : b.Within text := by
  unfold Cursor.Within at *
  rw [← within, passed.1, passed.2]
  simp

/-- A match that lies in the text and was made by the pattern. -/
structure Matches (p : Pattern) (text : List Char) (m : Match) : Prop where
  within : m.start.Within text
  reached : Reaches p { m.start with groups := [] } m.stop

theorem matchAt_matches (p : Pattern) (text : List Char) (cursor : Cursor) (m : Match)
    (within : cursor.Within text) (found : matchAt p cursor = some m) : Matches p text m := by
  obtain ⟨stop, reached, made⟩ := run_sound p _ _ _ found
  obtain rfl := Option.some.inj made
  exact ⟨within, reached⟩

theorem findFrom_matches (p : Pattern) (text : List Char) (places : Nat) (cursor : Cursor)
    (m : Match) (within : cursor.Within text) (found : findFrom p places cursor = some m) :
    Matches p text m := by
  induction places generalizing cursor with
  | zero => simp [findFrom] at found
  | succ places ih =>
    simp only [findFrom] at found
    split at found
    next first at_cursor =>
      obtain rfl := Option.some.inj found
      exact matchAt_matches p text cursor first within at_cursor
    next =>
      obtain ⟨⟨c, next⟩, step, later⟩ := Option.bind_eq_some_iff.mp found
      exact ih next ((Passes.of_advance step).within within) later

theorem resume_within {p : Pattern} {text : List Char} {m : Match} (matched : Matches p text m)
    (next : Cursor) (resumes : resume m = some next) : next.Within text := by
  obtain ⟨taken, passed, -⟩ := reaches_takes p _ _ matched.reached
  have stop : m.stop.Within text := passed.within matched.within
  unfold resume at resumes
  split at resumes
  · obtain ⟨⟨c, later⟩, step, rfl⟩ := Option.map_eq_some_iff.mp resumes
    exact (Passes.of_advance step).within stop
  · obtain rfl := Option.some.inj resumes
    exact stop

theorem findAllFrom_matches (p : Pattern) (text : List Char) (fuel : Nat) (cursor : Cursor)
    (within : cursor.Within text) (m : Match) (member : m ∈ findAllFrom p fuel cursor) :
    Matches p text m := by
  induction fuel generalizing cursor with
  | zero => simp [findAllFrom] at member
  | succ fuel ih =>
    simp only [findAllFrom] at member
    split at member
    next => simp at member
    next first found =>
      have matched := findFrom_matches p text _ cursor first within found
      rcases List.mem_cons.mp member with rfl | later
      · exact matched
      · split at later
        next next resumes => exact ih next (resume_within matched next resumes) later
        next => simp at later

theorem findAll_matches (p : Pattern) (text : List Char) (m : Match)
    (member : m ∈ p.findAll text) : Matches p text m :=
  findAllFrom_matches p text _ _ (by simp [Cursor.Within, Cursor.start]) m member

theorem Match.index_eq (m : Match) : m.index = m.start.before.length :=
  m.start.index_eq

namespace Matches

variable {p : Pattern} {text : List Char} {m : Match}

theorem passes (matched : Matches p text m) :
    Passes { m.start with groups := [] } m.text m.stop := by
  obtain ⟨taken, passed, -⟩ := reaches_takes p _ _ matched.reached
  have same : m.text = taken := passed.upTo_eq
  rwa [same]

theorem text_eq (matched : Matches p text m) :
    text = m.start.before.reverse ++ (m.text ++ m.stop.after) := by
  have after : m.start.after = m.text ++ m.stop.after := matched.passes.2
  rw [← after]
  exact matched.within.symm

theorem endIndex_eq (matched : Matches p text m) : m.endIndex = m.index + m.text.length :=
  matched.passes.index_eq

end Matches

end CodeAtlas.Pattern
