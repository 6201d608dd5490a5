import CodeAtlas.Pattern.Search
import Mathlib.Data.Option.Basic

set_option autoImplicit false

/-! The places to which a pattern can lead. The search hands on no other place. -/

namespace CodeAtlas.Pattern

-- The later place lies behind the text that was taken.
def Passes (cursor : Cursor) (taken : List Char) (later : Cursor) : Prop :=
  later.before = taken.reverse ++ cursor.before ∧ cursor.after = taken ++ later.after

theorem Passes.trans {a b c : Cursor} {first second : List Char} (one : Passes a first b)
    (two : Passes b second c) : Passes a (first ++ second) c := by
  simp [Passes, one.1, one.2, two.1, two.2]

theorem Passes.of_same {a b : Cursor} (before : b.before = a.before) (after : b.after = a.after) :
    Passes a [] b := by
  simp [Passes, before, after]

theorem Passes.of_advance {a b : Cursor} {c : Char} (step : a.advance = some (c, b)) :
    Passes a [c] b := by
  unfold Cursor.advance at step
  split at step
  next first rest after =>
    simp only [Option.some.injEq, Prod.mk.injEq] at step
    obtain ⟨rfl, rfl⟩ := step
    simp [Passes, after]
  next => simp at step

theorem Cursor.groups_of_advance {a b : Cursor} {c : Char} (step : a.advance = some (c, b)) :
    b.groups = a.groups := by
  unfold Cursor.advance at step
  split at step
  next =>
    simp only [Option.some.injEq, Prod.mk.injEq] at step
    rw [← step.2]
  next => simp at step

theorem Passes.upTo_eq {a b : Cursor} {taken : List Char} (passed : Passes a taken b) :
    a.upTo b = taken := by
  have size : a.left - b.left = taken.length := by
    simp [a.left_eq, b.left_eq, passed.2]
  simp [Cursor.upTo, size, passed.2]

theorem Passes.index_eq {a b : Cursor} {taken : List Char} (passed : Passes a taken b) :
    b.index = a.index + taken.length := by
  simp [a.index_eq, b.index_eq, passed.1, Nat.add_comm]

theorem Passes.unique {a b : Cursor} {one two : List Char} (first : Passes a one b)
    (second : Passes a two b) : one = two := by
  rw [← first.upTo_eq, second.upTo_eq]

/-- So many rounds of a step, one behind the other. -/
inductive Rounds (step : Cursor → Cursor → Prop) : Nat → Cursor → Cursor → Prop
  | none (cursor : Cursor) : Rounds step 0 cursor cursor
  | more {count : Nat} {a b c : Cursor} (first : step a b) (rest : Rounds step count b c) :
      Rounds step (count + 1) a c

-- A number of rounds that a loop may go through.
def Allowed (least : Nat) (most : Option Nat) (count : Nat) : Prop :=
  least ≤ count ∧ ∀ limit, most = some limit → count ≤ max least limit

/-- The places to which a pattern can lead. A look ahead or behind that must fail leads nowhere
else than where it started, whether it fails or not. -/
def Reaches : Pattern → Cursor → Cursor → Prop
  | .empty, cursor, later => later = cursor
  | .set s, cursor, later => ∃ c, cursor.advance = some (c, later) ∧ s.holds c = true
  | .anchor a, cursor, later => a.holds cursor = true ∧ later = cursor
  | .seq first second, cursor, later =>
    ∃ between, Reaches first cursor between ∧ Reaches second between later
  | .choice first second, cursor, later => Reaches first cursor later ∨ Reaches second cursor later
  | .loop body least most _, cursor, later =>
    ∃ count, Allowed least most count ∧ Rounds (Reaches body) count cursor later
  | .group index body, cursor, later =>
    ∃ inner, Reaches body cursor inner ∧ later = inner.close index cursor
  | .again index folding, cursor, later =>
    ∃ text, cursor.group? index = some text ∧ cursor.skipText folding text = some later
  | .ahead true body, cursor, later =>
    ∃ inner, Reaches body cursor inner ∧ later = { cursor with groups := inner.groups }
  | .ahead false _, cursor, later => later = cursor
  | .behind true width body, cursor, later =>
    ∃ earlier inner, cursor.back width = some earlier ∧ Reaches body earlier inner ∧
      later = { cursor with groups := inner.groups }
  | .behind false _ _, cursor, later => later = cursor
  | .atomic body, cursor, later => Reaches body cursor later
  | .given index yes no, cursor, later =>
    if (cursor.group? index).isSome then Reaches yes cursor later else Reaches no cursor later

/-- A step hands on only places to which `reach` leads. -/
def Sound {α : Type} (step : Step α) (reach : Cursor → Cursor → Prop) : Prop :=
  ∀ cursor next answer, step cursor next = some answer →
    ∃ later, reach cursor later ∧ next later = some answer

-- One round more stays within the most, as long as the loop goes on.
theorem succ_le_of_mayRepeat {most : Option Nat} {count : Nat} {fresh : Bool} (least : Nat)
    (goes : (mayRepeat most count && fresh) = true) (limit : Nat) (given : most = some limit) :
    count + 1 ≤ max least limit := by
  simp only [mayRepeat, given, Bool.and_eq_true, decide_eq_true_eq] at goes
  omega

section

variable {α : Type} {body : Step α} {reach : Cursor → Cursor → Prop}

theorem Sound.reach_some {body : Step Cursor} (sound : Sound body reach) {cursor later : Cursor}
    (found : body cursor some = some later) : reach cursor later := by
  obtain ⟨last, reached, same⟩ := sound cursor some later found
  obtain rfl := Option.some.inj same
  exact reached

theorem iterate_succ (body : Step α) (least : Nat) (most : Option Nat) (lazy : Bool)
    (fuel count : Nat) (mark : Option Nat) (cursor : Cursor) (next : Cursor → Option α) :
    iterate body least most lazy (fuel + 1) count mark cursor next =
      let round mark := body cursor fun later =>
        iterate body least most lazy fuel (count + 1) mark later next
      if count < least then round mark
      else if mayRepeat most count && mark != some cursor.left then
        if lazy then (next cursor).or (round (some cursor.left))
        else (round (some cursor.left)).or (next cursor)
      else next cursor := by
  cases lazy <;> simp only [iterate, Option.orElse_eq_orElse, Option.orElse_eq_or]

-- The fuel lasts at least until the least count is reached.
theorem iterate_sound (sound : Sound body reach) (least : Nat) (most : Option Nat) (lazy : Bool)
    (fuel count : Nat) (mark : Option Nat) (enough : least ≤ fuel + count)
    (within : ∀ limit, most = some limit → count ≤ max least limit) (cursor : Cursor)
    (next : Cursor → Option α) (answer : α)
    (found : iterate body least most lazy fuel count mark cursor next = some answer) :
    ∃ more later, Allowed least most (count + more) ∧ Rounds reach more cursor later ∧
      next later = some answer := by
  induction fuel generalizing count mark cursor next answer with
  | zero => exact ⟨0, cursor, ⟨by omega, within⟩, .none cursor, found⟩
  | succ fuel ih =>
    have round (mark : Option Nat)
        (bound : ∀ limit, most = some limit → count + 1 ≤ max least limit)
        (step : (body cursor fun later =>
          iterate body least most lazy fuel (count + 1) mark later next) = some answer) :
        ∃ more later, Allowed least most (count + more) ∧ Rounds reach more cursor later ∧
          next later = some answer := by
      obtain ⟨between, first, rest⟩ := sound _ _ _ step
      obtain ⟨more, later, allowed, rounds, done⟩ :=
        ih (count + 1) mark (by omega) bound between next answer rest
      refine ⟨more + 1, later, ?_, .more first rounds, done⟩
      rwa [show count + (more + 1) = count + 1 + more by omega]
    have finish (least_le : ¬count < least) (step : next cursor = some answer) :
        ∃ more later, Allowed least most (count + more) ∧ Rounds reach more cursor later ∧
          next later = some answer :=
      ⟨0, cursor, ⟨by omega, within⟩, .none cursor, step⟩
    simp only [iterate_succ] at found
    split at found
    next less => exact round mark (fun limit _ => by omega) found
    next enough' =>
      split at found
      next goes =>
        have bound := succ_le_of_mayRepeat least goes
        split at found
        next =>
          rcases Option.or_eq_some_iff.mp found with step | ⟨-, step⟩
          · exact finish enough' step
          · exact round _ bound step
        next =>
          rcases Option.or_eq_some_iff.mp found with step | ⟨-, step⟩
          · exact round _ bound step
          · exact finish enough' step
      next => exact finish enough' found

theorem possess_sound {body : Cursor → Option Cursor}
    (sound : ∀ cursor later, body cursor = some later → reach cursor later) (least : Nat)
    (most : Option Nat) (fuel count : Nat) (mark : Option Nat) (enough : least ≤ fuel + count)
    (within : ∀ limit, most = some limit → count ≤ max least limit) (cursor last : Cursor)
    (found : possess body least most fuel count mark cursor = some last) :
    ∃ more, Allowed least most (count + more) ∧ Rounds reach more cursor last := by
  induction fuel generalizing count mark cursor with
  | zero =>
    obtain rfl := Option.some.inj found
    exact ⟨0, ⟨by omega, within⟩, .none cursor⟩
  | succ fuel ih =>
    have round (mark : Option Nat) (between : Cursor)
        (bound : ∀ limit, most = some limit → count + 1 ≤ max least limit)
        (first : body cursor = some between)
        (rest : possess body least most fuel (count + 1) mark between = some last) :
        ∃ more, Allowed least most (count + more) ∧ Rounds reach more cursor last := by
      obtain ⟨more, allowed, rounds⟩ := ih (count + 1) mark (by omega) bound between rest
      refine ⟨more + 1, ?_, .more (sound _ _ first) rounds⟩
      rwa [show count + (more + 1) = count + 1 + more by omega]
    have finish (least_le : ¬count < least) (same : some cursor = some last) :
        ∃ more, Allowed least most (count + more) ∧ Rounds reach more cursor last := by
      obtain rfl := Option.some.inj same
      exact ⟨0, ⟨by omega, within⟩, .none cursor⟩
    simp only [possess] at found
    split at found
    next less =>
      obtain ⟨between, first, rest⟩ := Option.bind_eq_some_iff.mp found
      exact round mark between (fun limit _ => by omega) first rest
    next enough' =>
      split at found
      next goes =>
        have bound := succ_le_of_mayRepeat least goes
        split at found
        next between first => exact round _ between bound first found
        next => exact finish enough' found
      next => exact finish enough' found

end

-- What a look ahead or behind has seen, and where it leads.
theorem look_sound {α : Type} (positive : Bool) (seen : Option Cursor) (cursor : Cursor)
    (next : Cursor → Option α) (answer : α)
    (found : (match seen with
      | some later => if positive then next { cursor with groups := later.groups } else none
      | none => if positive then none else next cursor) = some answer) :
    ∃ later, next later = some answer ∧
      match positive with
      | true => ∃ inner, seen = some inner ∧ later = { cursor with groups := inner.groups }
      | false => later = cursor := by
  cases seen with
  | none =>
    cases positive with
    | true => simp at found
    | false => exact ⟨cursor, found, rfl⟩
  | some inner =>
    cases positive with
    | true => exact ⟨_, found, inner, rfl, rfl⟩
    | false => simp at found

theorem loop_sound {α : Type} {body : Pattern}
    (sound : ∀ {β : Type}, Sound (run (α := β) body) (Reaches body)) (least : Nat)
    (most : Option Nat) (greed : Greed) :
    Sound (run (α := α) (.loop body least most greed)) (Reaches (.loop body least most greed)) := by
  intro cursor next answer found
  have enough : least ≤ loopFuel least cursor + 0 := by
    unfold loopFuel
    omega
  have none_yet : ∀ limit, most = some limit → 0 ≤ max least limit := fun _ _ => by omega
  cases greed with
  | greedy | lazy =>
    obtain ⟨count, later, allowed, rounds, done⟩ :=
      iterate_sound sound least most _ _ 0 none enough none_yet cursor next answer found
    rw [Nat.zero_add] at allowed
    exact ⟨later, ⟨count, allowed, rounds⟩, done⟩
  | possessive =>
    obtain ⟨later, kept, done⟩ := Option.bind_eq_some_iff.mp found
    obtain ⟨count, allowed, rounds⟩ := possess_sound (fun _ _ => sound.reach_some) least most _ 0
      none enough none_yet cursor later kept
    rw [Nat.zero_add] at allowed
    exact ⟨later, ⟨count, allowed, rounds⟩, done⟩

-- The search hands on just places to which the pattern leads, whatever is to follow.
theorem run_sound {α : Type} (p : Pattern) : Sound (run (α := α) p) (Reaches p) := by
  induction p generalizing α with
  | empty =>
    intro cursor next answer found
    exact ⟨cursor, rfl, found⟩
  | set s =>
    intro cursor next answer found
    simp only [run] at found
    split at found
    next c later step =>
      split at found
      next holds => exact ⟨later, ⟨c, step, holds⟩, found⟩
      next => simp at found
    next => simp at found
  | anchor a =>
    intro cursor next answer found
    simp only [run] at found
    split at found
    next holds => exact ⟨cursor, ⟨holds, rfl⟩, found⟩
    next => simp at found
  | seq first second ihFirst ihSecond =>
    intro cursor next answer found
    obtain ⟨between, one, rest⟩ := ihFirst _ _ _ found
    obtain ⟨later, two, done⟩ := ihSecond _ _ _ rest
    exact ⟨later, ⟨between, one, two⟩, done⟩
  | choice first second ihFirst ihSecond =>
    intro cursor next answer found
    simp only [run, Option.orElse_eq_orElse, Option.orElse_eq_or] at found
    rcases Option.or_eq_some_iff.mp found with found | ⟨-, found⟩
    · obtain ⟨later, one, done⟩ := ihFirst _ _ _ found
      exact ⟨later, .inl one, done⟩
    · obtain ⟨later, two, done⟩ := ihSecond _ _ _ found
      exact ⟨later, .inr two, done⟩
  | loop body least most greed ih => exact loop_sound ih least most greed
  | group index body ih =>
    intro cursor next answer found
    obtain ⟨inner, reached, done⟩ := ih _ _ _ found
    exact ⟨inner.close index cursor, ⟨inner, reached, rfl⟩, done⟩
  | again index folding =>
    intro cursor next answer found
    simp only [run] at found
    split at found
    next text known =>
      obtain ⟨later, skipped, done⟩ := Option.bind_eq_some_iff.mp found
      exact ⟨later, ⟨text, known, skipped⟩, done⟩
    next => simp at found
  | ahead positive body ih =>
    intro cursor next answer found
    obtain ⟨later, done, seen⟩ := look_sound positive _ cursor next answer found
    cases positive with
    | true =>
      obtain ⟨inner, seen, same⟩ := seen
      exact ⟨later, ⟨inner, ih.reach_some seen, same⟩, done⟩
    | false => exact ⟨later, seen, done⟩
  | behind positive width body ih =>
    intro cursor next answer found
    obtain ⟨later, done, seen⟩ := look_sound positive _ cursor next answer found
    cases positive with
    | true =>
      obtain ⟨inner, seen, same⟩ := seen
      obtain ⟨earlier, back, seen⟩ := Option.bind_eq_some_iff.mp seen
      exact ⟨later, ⟨earlier, inner, back, ih.reach_some seen, same⟩, done⟩
    | false => exact ⟨later, seen, done⟩
  | atomic body ih =>
    intro cursor next answer found
    obtain ⟨later, seen, done⟩ := Option.bind_eq_some_iff.mp found
    exact ⟨later, ih.reach_some seen, done⟩
  | given index yes no ihYes ihNo =>
    intro cursor next answer found
    simp only [run] at found
    split at found
    next known =>
      obtain ⟨later, reached, done⟩ := ihYes _ _ _ found
      exact ⟨later, by simpa only [Reaches, known, if_true] using reached, done⟩
    next unknown =>
      obtain ⟨later, reached, done⟩ := ihNo _ _ _ found
      exact ⟨later, by simpa only [Reaches, if_neg unknown] using reached, done⟩

theorem skipText_passes (folding : Folding) (text : List Char) (cursor later : Cursor)
    (skipped : cursor.skipText folding text = some later) :
    (∃ taken, Passes cursor taken later) ∧ later.groups = cursor.groups := by
  induction text generalizing cursor with
  | nil =>
    obtain rfl := Option.some.inj skipped
    exact ⟨⟨[], .of_same rfl rfl⟩, rfl⟩
  | cons c text ih =>
    simp only [Cursor.skipText] at skipped
    split at skipped
    next d between step =>
      split at skipped
      next =>
        obtain ⟨⟨taken, passed⟩, same⟩ := ih between skipped
        exact ⟨⟨d :: taken, (Passes.of_advance step).trans passed⟩,
          same.trans (Cursor.groups_of_advance step)⟩
      next => simp at skipped
    next => simp at skipped

end CodeAtlas.Pattern
