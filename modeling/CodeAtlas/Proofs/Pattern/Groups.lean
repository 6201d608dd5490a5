import CodeAtlas.Proofs.Pattern.Taken

set_option autoImplicit false

/-! The texts of groups: each is one that a body of the group can take. -/

namespace CodeAtlas.Pattern

-- The bodies of the groups with one index.
def bodies (index : Nat) : Pattern → List Pattern
  | .empty | .set _ | .anchor _ | .again _ _ => []
  | .seq first second | .choice first second | .given _ first second =>
    bodies index first ++ bodies index second
  | .loop body _ _ _ | .atomic body | .ahead _ body | .behind _ _ body => bodies index body
  | .group other body => if other == index then body :: bodies index body else bodies index body

-- Whether every way through a pattern closes the group.
def always (index : Nat) : Pattern → Bool
  | .seq first second => always index first || always index second
  | .choice first second | .given _ first second => always index first && always index second
  | .loop body least _ _ => least != 0 && always index body
  | .atomic body | .ahead true body | .behind true _ body => always index body
  | .group other body => other == index || always index body
  | _ => false

-- The group holds a text that one of its bodies has taken.
def Captured (index : Nat) (p : Pattern) (later : Cursor) : Prop :=
  ∃ body ∈ bodies index p, ∃ a b, Reaches body a b ∧ later.group? index = some (a.upTo b)

theorem Captured.mono {index : Nat} {p q : Pattern} {a b : Cursor} (captured : Captured index p a)
    (same : b.group? index = a.group? index) (covers : ∀ body ∈ bodies index p, body ∈ bodies index q) :
    Captured index q b := by
  obtain ⟨body, member, opened, closed, reached, holds⟩ := captured
  exact ⟨body, covers body member, opened, closed, reached, by rw [same, holds]⟩

theorem group?_close (inner opened : Cursor) (other index : Nat) :
    (inner.close other opened).group? index =
      if other == index then some (opened.upTo inner) else inner.group? index := by
  unfold Cursor.group? Cursor.close
  by_cases same : other = index <;> simp [same]

theorem group?_of_same {a b : Cursor} (same : b.groups = a.groups) (index : Nat) :
    b.group? index = a.group? index := by
  simp [Cursor.group?, same]

/-- From `a` to `b` the group was closed, or nothing has changed it and it need not be closed. -/
def Tracks (index : Nat) (p : Pattern) (a b : Cursor) : Prop :=
  Captured index p b ∨ (b.group? index = a.group? index ∧ always index p = false)

theorem Tracks.mono {index : Nat} {p q : Pattern} {a b : Cursor} (tracks : Tracks index p a b)
    (covers : ∀ body ∈ bodies index p, body ∈ bodies index q)
    (never : always index p = false → always index q = false) : Tracks index q a b := by
  rcases tracks with captured | ⟨same, leaves⟩
  · exact .inl (captured.mono rfl covers)
  · exact .inr ⟨same, never leaves⟩

theorem Tracks.seq {index : Nat} {p q : Pattern} {a b c : Cursor} (first : Tracks index p a b)
    (second : Tracks index q b c) : Tracks index (.seq p q) a c := by
  rcases second with captured | ⟨kept, never⟩
  · exact .inl (captured.mono rfl (by simp +contextual [bodies]))
  · rcases first with captured | ⟨same, neither⟩
    · exact .inl (captured.mono kept (by simp +contextual [bodies]))
    · exact .inr ⟨kept.trans same, by simp [always, never, neither]⟩

-- A later group of the same index covers an earlier one, so the last round that closes it counts.
theorem Rounds.tracks {index : Nat} {body : Pattern}
    (each : ∀ a b, Reaches body a b → Tracks index body a b) (most : Option Nat) (greed : Greed)
    {count least : Nat} (enough : least ≤ count) {a b : Cursor}
    (rounds : Rounds (Reaches body) count a b) : Tracks index (.loop body least most greed) a b := by
  induction rounds generalizing least with
  | none cursor =>
    obtain rfl := Nat.le_zero.mp enough
    exact .inr ⟨rfl, by simp [always]⟩
  | more first _ ih =>
    have step := (each _ _ first).seq (ih (Nat.zero_le _))
    refine step.mono (by simp [bodies]) ?_
    intro never
    simp only [always, Bool.or_eq_false_iff] at never
    simp [always, never.1]

theorem Tracks.close {index other : Nat} {body : Pattern} {a inner : Cursor}
    (reached : Reaches body a inner) (tracks : Tracks index body a inner) :
    Tracks index (.group other body) a (inner.close other a) := by
  have closed := group?_close inner a other index
  by_cases same : other = index
  · refine .inl ⟨body, by simp [bodies, same], a, inner, reached, ?_⟩
    rw [closed, if_pos (beq_iff_eq.mpr same)]
  · have apart : (inner.close other a).group? index = inner.group? index := by
      simp [closed, same]
    rcases tracks with captured | ⟨kept, never⟩
    · exact .inl (captured.mono apart (by simp [bodies, same]))
    · exact .inr ⟨apart.trans kept, by simp [always, never, same]⟩

theorem groups_of_back {a b : Cursor} {width : Nat} (back : a.back width = some b) :
    b.groups = a.groups := by
  unfold Cursor.back at back
  split at back
  next => rw [← Option.some.inj back]
  next => simp at back

theorem reaches_tracks (index : Nat) (p : Pattern) (cursor later : Cursor)
    (reached : Reaches p cursor later) : Tracks index p cursor later := by
  induction p generalizing cursor later with
  | empty =>
    obtain rfl := reached
    exact .inr ⟨rfl, rfl⟩
  | set s =>
    obtain ⟨c, step, -⟩ := reached
    exact .inr ⟨group?_of_same (Cursor.groups_of_advance step) index, rfl⟩
  | anchor a =>
    obtain ⟨-, rfl⟩ := reached
    exact .inr ⟨rfl, rfl⟩
  | seq first second ihFirst ihSecond =>
    obtain ⟨between, one, two⟩ := reached
    exact (ihFirst _ _ one).seq (ihSecond _ _ two)
  | choice first second ihFirst ihSecond =>
    cases reached with
    | inl reached =>
      apply (ihFirst _ _ reached).mono <;> simp +contextual [bodies, always]
    | inr reached =>
      apply (ihSecond _ _ reached).mono <;> simp +contextual [bodies, always]
  | loop body least most greed ih =>
    obtain ⟨count, allowed, rounds⟩ := reached
    exact rounds.tracks ih most greed allowed.1
  | group other body ih =>
    obtain ⟨inner, reached, rfl⟩ := reached
    exact (ih _ _ reached).close reached
  | again other folding =>
    obtain ⟨text, -, skipped⟩ := reached
    exact .inr ⟨group?_of_same (skipText_passes folding text cursor later skipped).2 index, rfl⟩
  | ahead positive body ih =>
    cases positive with
    | true =>
      obtain ⟨inner, reached, rfl⟩ := reached
      exact ih _ inner reached
    | false =>
      obtain rfl := reached
      exact .inr ⟨rfl, rfl⟩
  | behind positive width body ih =>
    cases positive with
    | true =>
      obtain ⟨earlier, inner, back, reached, rfl⟩ := reached
      cases ih _ inner reached with
      | inl captured => exact .inl captured
      | inr kept => exact .inr ⟨kept.1.trans (group?_of_same (groups_of_back back) index), kept.2⟩
    | false =>
      obtain rfl := reached
      exact .inr ⟨rfl, rfl⟩
  | atomic body ih => exact ih _ _ reached
  | given other yes no ihYes ihNo =>
    simp only [Reaches] at reached
    split at reached
    next => apply (ihYes _ _ reached).mono <;> simp +contextual [bodies, always]
    next => apply (ihNo _ _ reached).mono <;> simp +contextual [bodies, always]

-- A group that is always closed holds a text that one of its bodies takes.
theorem captured_takes (index : Nat) (p : Pattern) (closes : always index p = true)
    (cursor later : Cursor) (reached : Reaches p cursor later) :
    ∃ body ∈ bodies index p, ∃ taken, Takes body taken ∧ later.group? index = some taken := by
  rcases reaches_tracks index p cursor later reached with
    ⟨body, member, a, b, inner, holds⟩ | ⟨-, never⟩
  · obtain ⟨taken, passed, fits⟩ := reaches_takes body a b inner
    exact ⟨body, member, taken, fits, by rw [holds, passed.upTo_eq]⟩
  · simp [closes] at never

end CodeAtlas.Pattern
