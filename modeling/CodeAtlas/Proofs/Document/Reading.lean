import CodeAtlas.Proofs.Document.Every
import CodeAtlas.Proofs.Document.Numeral

set_option autoImplicit false

/-! What is read from JSON text can be written again. -/

namespace CodeAtlas.Document

open CodeAtlas.Number

/-- What is read, if anything, passes a check. -/
def Gives {α : Type} (check : α → Bool) (result : Except ReadFailure (α × Cursor)) : Prop :=
  ∀ value after, result = .ok (value, after) → check value = true

section

variable {α β : Type} {check : α → Bool}

theorem gives_error (failure : ReadFailure) : Gives check (.error failure) := by
  intro value after failed
  cases failed

theorem gives_ok {value : α} (given : check value = true) (after : Cursor) :
    Gives check (.ok (value, after)) := by
  intro other later same
  cases same
  exact given

theorem Gives.bind {wanted : β → Bool} {result : Except ReadFailure (α × Cursor)}
    {next : α × Cursor → Except ReadFailure (β × Cursor)} (first : Gives check result)
    (later : ∀ value after, check value = true → Gives wanted (next (value, after))) :
    Gives wanted (result >>= next) := by
  cases result with
  | error failure => exact gives_error failure
  | ok found => exact later found.1 found.2 (first found.1 found.2 rfl)

end

theorem wholePart_digits {text whole left : List Char}
    (found : wholePart text = some (whole, left)) :
    0 < whole.length ∧ ∀ c ∈ whole, c.isDigit = true := by
  cases text with
  | nil => cases found
  | cons c text =>
    rw [wholePart_cons] at found
    split at found
    · cases found
      refine ⟨Nat.one_pos, fun c member => ?_⟩
      rw [List.mem_singleton.mp member]
      rfl
    · split at found
      · next digit =>
        have same := Option.some.inj found
        refine ⟨?_, digitsOf_isDigit same⟩
        rw [digitsOf_eq, List.takeWhile_cons_of_pos digit] at same
        rw [← (Prod.mk.inj same).1]
        exact Nat.succ_pos _
      · cases found

theorem numeral?_digits {text : List Char} {n : Numeral} (found : numeral? text = some n) :
    0 < n.whole.length ∧ ∀ c ∈ n.whole, c.isDigit = true := by
  have part {negative : Bool} {source : List Char} (given : numeralOf negative source = some n) :
      0 < n.whole.length ∧ ∀ c ∈ n.whole, c.isDigit = true := by
    rw [numeralOf] at given
    split at given
    · cases given
    · next whole =>
      dsimp only at given
      split at given <;>
      · cases given
        exact wholePart_digits whole
  unfold numeral? at found
  split at found <;> exact part found

theorem numeral_writable {text : List Char} {n : Numeral} (found : numeral? text = some n)
    {value : Document} (read : n.value = .ok value) : value.isWritable = true := by
  obtain ⟨some, digits⟩ := numeral?_digits found
  rw [Numeral.value] at read
  split at read
  · split at read
    · cases read
    · next within =>
      cases read
      have short : (Nat.toDigits 10 (digitsValue n.whole)).length ≤ digitLimit :=
        Nat.le_trans ((Nat.length_toDigits_le_iff (by decide) some).mpr (digitsValue_lt digits))
          (Nat.not_lt.mp within)
      cases n.negative <;> simpa [isWritable, every, hasShortInt] using short
  · cases read
    rfl

theorem words_writable : ∀ entry ∈ words, entry.2.isWritable = true := by
  intro entry member
  simp only [words, List.mem_cons, List.not_mem_nil, or_false] at member
  obtain rfl | rfl | rfl | rfl | rfl | rfl := member <;> rfl

theorem readScalar_writable (cursor : Cursor) :
    Gives isWritable (readScalar cursor) := by
  rw [readScalar]
  split
  · next word =>
    obtain ⟨name, member, -⟩ := word?_mem word
    exact gives_ok (words_writable _ member) _
  · split
    · exact gives_error _
    · next number =>
      intro value after read
      cases result : Numeral.value _ with
      | error failure =>
        rw [result] at read
        cases read
      | ok found =>
        rw [result] at read
        cases read
        exact numeral_writable number result

-- By induction on the fuel, for values, items and fields at once.
theorem read_writable (fuel : Nat) :
    (∀ cursor, Gives isWritable (readValue fuel cursor)) ∧
    (∀ cursor, Gives (everyItem hasShortInt) (readItems fuel cursor)) ∧
    ∀ fields cursor, everyField hasShortInt fields = true →
      Gives (everyField hasShortInt) (readFields fuel fields cursor) := by
  induction fuel with
  | zero =>
    refine ⟨?_, ?_, ?_⟩
    · intro cursor
      exact gives_error _
    · intro cursor
      exact gives_error _
    · intro fields cursor _
      exact gives_error _
  | succ fuel ih =>
    obtain ⟨values, items, fields⟩ := ih
    refine ⟨?_, ?_, ?_⟩
    · intro cursor
      rw [readValue]
      split
      · refine Gives.bind (fun _ _ _ => rfl : Gives (fun _ => true) _) ?_
        intro value after _
        exact gives_ok rfl _
      · dsimp only
        split
        · exact gives_ok rfl _
        · refine Gives.bind (items _) ?_
          intro found after all
          exact gives_ok (show isWritable (.list found) = true from all) _
      · dsimp only
        split
        · exact gives_ok rfl _
        · refine Gives.bind (fields [] _ rfl) ?_
          intro found after all
          exact gives_ok (show isWritable (.object found) = true from all) _
      · exact readScalar_writable cursor
    · intro cursor
      rw [readItems]
      refine Gives.bind (values cursor) ?_
      intro item after writable
      dsimp only
      split
      · exact gives_ok (by simpa [everyItem, isWritable] using writable) _
      · refine Gives.bind (items _) ?_
        intro found last all
        exact gives_ok (by simpa [everyItem, isWritable, all] using writable) _
      · exact gives_error _
    · intro kept cursor all
      rw [readFields]
      split
      · refine Gives.bind (fun _ _ _ => rfl : Gives (fun _ => true) _) ?_
        intro name after _
        dsimp only
        split
        · refine Gives.bind (values _) ?_
          intro value last writable
          have more : everyField hasShortInt (Keyed.put name value kept) = true :=
            everyField_put all writable
          dsimp only
          split
          · exact gives_ok more _
          · exact fields _ _ more
          · exact gives_error _
        · exact gives_error _
      · exact gives_error _

theorem parse_writable {text : List Char} {document : Document}
    (parsed : parse text = .ok document) : document.isWritable = true := by
  unfold parse at parsed
  split at parsed
  · cases parsed
  · cases read : readValue (2 * text.length + 2) (skipSpace 0 text) with
    | error failure =>
      rw [read] at parsed
      cases parsed
    | ok found =>
      rw [read] at parsed
      simp only [bind, Except.bind] at parsed
      split at parsed
      · cases parsed
        exact (read_writable _).1 _ found.1 found.2 read
      · cases parsed

end CodeAtlas.Document
