import CodeAtlas.Proofs.Atlas.Overlap

set_option autoImplicit false

/-! Of each file the units of the newest scan stay, in whatever order scans commit. A scan that is
superseded stays so until the atlas is cleared. -/

namespace CodeAtlas

open CodeAtlas.Classify

namespace Session

/-- The state of an atlas between two moves. The marks of the commits that were tried, and of those yet to
come, are apart and count from one. -/
structure Settled (s : Session) : Prop where
  stored : ∀ path, Keyed.lookup path s.atlas.store.files =
    (Commit.newest path s.tried).map (·.units)
  numbered : ∀ path, Keyed.lookup path s.atlas.generations =
    (Commit.newest path s.tried).map (·.generation)
  known : s.atlas.generations.map (·.1) = s.atlas.store.paths
  answered : ∀ path c, Commit.newest path s.tried = some c → c ∈ s.taken
  once : (s.tried.map (·.mark) ++ s.waiting).Nodup
  counted : ∀ mark ∈ s.tried.map (·.mark) ++ s.waiting, 0 < mark.1 ∧ mark.1 ≤ s.atlas.generation
  begun : 0 ≤ s.atlas.generation

theorem start_settled (a : Atlas) (fresh : a.store = .empty) (unnumbered : a.generations = [])
    (begun : 0 ≤ a.generation) : (start a).Settled where
  stored path := by simp [start, fresh, tried, Commit.newest, Store.empty, Keyed.lookup]
  numbered path := by simp [start, unnumbered, tried, Commit.newest, Keyed.lookup]
  known := by simp [start, fresh, unnumbered, Store.paths, Store.empty]
  answered path c found := by simp [start, tried, Commit.newest] at found
  once := List.nodup_nil
  counted mark member := by simp [start, tried] at member
  begun := begun

/-- What a commit does: it is refused for a newer one, which stays, or taken as the newest. -/
inductive Taking (s : Session) (c : Commit) : Prop
  | refused (d : Commit) (newest : Commit.newest c.path s.tried = some d)
      (older : c.generation < d.generation) (take_eq : s.atlas.take c = (false, s.atlas))
      (stays : Commit.newest c.path (s.tried ++ [c]) = some d)
  | taken
      (take_eq : s.atlas.take c = (true, { s.atlas with
        generations := Keyed.put c.path c.generation s.atlas.generations
        store := s.atlas.store.replace c.path c.units }))
      (newest : Commit.newest c.path (s.tried ++ [c]) = some c)

theorem Settled.taking {s : Session} (settled : s.Settled) {c : Commit}
    (waits : c.mark ∈ s.waiting) : Taking s c := by
  have number := settled.numbered c.path
  cases found : Commit.newest c.path s.tried with
  | none =>
    have positive := (settled.counted c.mark (List.mem_append_right _ waits)).1
    have later : ¬ c.generation < 0 := Int.not_lt.mpr (Int.le_of_lt positive)
    apply Taking.taken
    · simp [Atlas.take, Atlas.commit, Atlas.generationOf, number, found, later]
    · exact Commit.newest_append_first rfl found
  | some d =>
    obtain ⟨member, here⟩ := Commit.newest_mem found
    by_cases older : c.generation < d.generation
    · apply Taking.refused d found older
      · simp [Atlas.take, Atlas.commit, Atlas.generationOf, number, found, older]
      · rw [Commit.newest_append_again rfl found, if_neg (by omega)]
    · -- The same scan cannot have committed the file before.
      have differs : d.generation ≠ c.generation := by
        intro same
        have marks : d.mark = c.mark := Prod.ext same here
        have apart := (List.nodup_append.mp settled.once).2.2
        exact apart d.mark (List.mem_map_of_mem member) c.mark waits marks
      apply Taking.taken
      · simp [Atlas.take, Atlas.commit, Atlas.generationOf, number, found, older]
      · rw [Commit.newest_append_again rfl found, if_pos (by omega)]

theorem Settled.begin {s : Session} (settled : s.Settled) (paths : List String) :
    Settled { s with
      atlas := s.atlas.nextGeneration
      waiting := (Text.distinct paths).map (s.atlas.nextGeneration.generation, ·) ++ s.waiting } where
  stored := settled.stored
  numbered := settled.numbered
  known := settled.known
  answered := settled.answered
  once := by
    have fresh : ((Text.distinct paths).map (s.atlas.nextGeneration.generation, ·)).Nodup :=
      (Text.nodup_distinct paths).map fun _ _ same => (Prod.mk.inj same).2
    rw [List.perm_append_comm_assoc _ _ _ |>.nodup_iff, List.nodup_append]
    refine ⟨fresh, settled.once, ?_⟩
    rintro mark inside old member rfl
    obtain ⟨path, -, rfl⟩ := List.mem_map.mp inside
    have bound := (settled.counted _ member).2
    simp only [Atlas.nextGeneration] at bound
    omega
  counted mark member := by
    simp only [List.mem_append, List.mem_map] at member
    have begun := settled.begun
    rcases member with old | ⟨path, -, rfl⟩ | old
    · have bounds := settled.counted mark (List.mem_append_left _ (List.mem_map.mpr old))
      exact ⟨bounds.1, Int.le_trans bounds.2 (Int.le_add_one (Int.le_refl _))⟩
    · simp only [Atlas.nextGeneration]
      omega
    · have bounds := settled.counted mark (List.mem_append_right _ old)
      exact ⟨bounds.1, Int.le_trans bounds.2 (Int.le_add_one (Int.le_refl _))⟩
  begun := by
    have begun := settled.begun
    simp only [Atlas.nextGeneration]
    omega

theorem Settled.clear {s : Session} (settled : s.Settled) :
    Settled { s with atlas := s.atlas.clear, log := [] } where
  stored path := rfl
  numbered path := rfl
  known := rfl
  answered path c found := by simp [tried, Commit.newest] at found
  once := (List.nodup_append.mp settled.once).2.1
  counted mark member := settled.counted mark (List.mem_append_right _ member)
  begun := settled.begun

theorem Settled.aside {s : Session} (settled : s.Settled) {a : Atlas}
    (keeps : s.atlas.Unscanned a) : Settled { s with atlas := a } where
  stored := by
    simp only [keeps.store_eq]
    exact settled.stored
  numbered := by
    simp only [keeps.generations_eq]
    exact settled.numbered
  known := by
    simp only [keeps.store_eq, keeps.generations_eq]
    exact settled.known
  answered := settled.answered
  once := settled.once
  counted := by
    simp only [keeps.generation_eq]
    exact settled.counted
  begun := by
    simp only [keeps.generation_eq]
    exact settled.begun

-- The mark of the commit goes from those to come to those that were tried.
theorem marks_perm (s : Session) {c : Commit} (waits : c.mark ∈ s.waiting) :
    ((s.tried ++ [c]).map (·.mark) ++ s.waiting.erase c.mark).Perm
      (s.tried.map (·.mark) ++ s.waiting) := by
  rw [List.map_append, List.append_assoc]
  exact (List.perm_cons_erase waits).symm.append_left _

theorem Settled.commit {s t : Session} (settled : s.Settled) {c : Commit}
    (moved : s.move? (.commit c) = some t) : t.Settled := by
  obtain ⟨waits, atlas, waiting, log⟩ := commit_move moved
  have tried : t.tried = s.tried ++ [c] := by simp [Session.tried, log]
  have perm := marks_perm s waits
  have once : (t.tried.map (·.mark) ++ t.waiting).Nodup := by
    rw [tried, waiting]
    exact perm.nodup_iff.mpr settled.once
  have counted : ∀ mark ∈ t.tried.map (·.mark) ++ t.waiting,
      0 < mark.1 ∧ mark.1 ≤ s.atlas.generation := by
    rw [tried, waiting]
    exact fun mark member => settled.counted mark (perm.mem_iff.mp member)
  cases settled.taking waits with
  | refused d newest older take_eq stays =>
    have same : ∀ path, Commit.newest path t.tried = Commit.newest path s.tried := by
      intro path
      rw [tried]
      by_cases here : c.path = path
      · rw [← here, stays, newest]
      · exact Commit.newest_append_other here s.tried
    have taken : t.taken = s.taken := by simp [Session.taken, log, take_eq]
    rw [take_eq] at atlas
    constructor
    · simpa only [atlas, same] using settled.stored
    · simpa only [atlas, same] using settled.numbered
    · simpa only [atlas] using settled.known
    · simpa only [taken, same] using settled.answered
    · exact once
    · simpa only [atlas] using counted
    · simpa only [atlas] using settled.begun
  | taken take_eq newest =>
    have other : ∀ path, c.path ≠ path →
        Commit.newest path t.tried = Commit.newest path s.tried := by
      intro path apart
      rw [tried]
      exact Commit.newest_append_other apart s.tried
    have taken : t.taken = s.taken ++ [c] := by simp [Session.taken, log, take_eq]
    rw [← tried] at newest
    rw [take_eq] at atlas
    constructor
    · intro path
      rw [atlas, Store.replace, Keyed.lookup_put]
      by_cases here : c.path = path
      · simp [← here, newest]
      · simp [here, other path here, settled.stored path]
    · intro path
      rw [atlas, Keyed.lookup_put]
      by_cases here : c.path = path
      · simp [← here, newest]
      · simp [here, other path here, settled.numbered path]
    · have keys := settled.known
      rw [Store.paths] at keys
      rw [atlas, Store.paths, Store.replace, Keyed.keys_put, Keyed.keys_put, keys]
    · intro path d found
      rw [taken]
      by_cases here : c.path = path
      · rw [← here, newest] at found
        simp [Option.some.inj found]
      · rw [other path here] at found
        exact List.mem_append_left _ (settled.answered path d found)
    · exact once
    · simpa only [atlas] using counted
    · simpa only [atlas] using settled.begun

theorem Settled.move {s t : Session} (settled : s.Settled) {move : Move}
    (moved : s.move? move = some t) : t.Settled := by
  cases move with
  | begin paths =>
    obtain rfl := Option.some.inj moved
    exact settled.begin paths
  | commit c => exact settled.commit moved
  | clear =>
    obtain rfl := Option.some.inj moved
    exact settled.clear
  | aside change keeps =>
    obtain rfl := Option.some.inj moved
    exact settled.aside (keeps s.atlas)

theorem Settled.run {s t : Session} (settled : s.Settled) {moves : List Move}
    (ran : s.run? moves = some t) : t.Settled := by
  induction moves generalizing s with
  | nil =>
    obtain rfl := Option.some.inj ran
    exact settled
  | cons move moves ih =>
    rw [run?, Option.bind_eq_some_iff] at ran
    obtain ⟨next, moved, later⟩ := ran
    exact ih (settled.move moved) later

theorem Reached.settled {s : Session} (reached : s.Reached) : s.Settled := by
  obtain ⟨book, index, cache, least, moves, ran⟩ := reached
  exact (start_settled (.empty book index cache least) rfl rfl (Int.le_refl 0)).run ran

theorem mem_tried_of_taken {s : Session} {c : Commit} (taken : c ∈ s.taken) : c ∈ s.tried := by
  obtain ⟨entry, member, rfl⟩ := List.mem_map.mp taken
  exact List.mem_map_of_mem (List.mem_of_mem_filter member)

theorem Settled.take_older {s : Session} (settled : s.Settled) {c d : Commit}
    (member : c ∈ s.tried) (same : d.path = c.path) (older : d.generation < c.generation) :
    s.atlas.take d = (false, s.atlas) := by
  have number := settled.numbered d.path
  cases found : Commit.newest d.path s.tried with
  | none => exact absurd same.symm (Commit.newest_eq_none.mp found c member)
  | some e =>
    have least := Commit.le_newest found member same.symm
    have later : d.generation < e.generation := Int.lt_of_lt_of_le older least
    simp [Atlas.take, Atlas.commit, Atlas.generationOf, number, found, later]

theorem Settled.refused_iff {s : Session} (settled : s.Settled) {c : Commit}
    (waits : c.mark ∈ s.waiting) :
    (s.atlas.take c).1 = false ↔
      ∃ d ∈ s.taken, d.path = c.path ∧ c.generation < d.generation := by
  constructor
  · intro refused
    cases settled.taking waits with
    | refused d newest older take_eq stays =>
      exact ⟨d, settled.answered c.path d newest, (Commit.newest_mem newest).2, older⟩
    | taken take_eq newest => simp [take_eq] at refused
  · rintro ⟨d, taken, same, older⟩
    rw [settled.take_older (mem_tried_of_taken taken) same.symm older]

/-- What overlapping scans leave in the store since it was last empty, and what a commit that comes next
does. -/
structure NewestStays (s : Session) : Prop where
  apart : (s.tried.map (·.mark)).Nodup
  stored : ∀ path, Keyed.lookup path s.atlas.store.files =
    (Commit.newest path s.tried).map (·.units)
  unordered : ∀ t : Session, t.Reached → t.tried.Perm s.tried → ∀ path,
    Keyed.lookup path t.atlas.store.files = Keyed.lookup path s.atlas.store.files
  others : ∀ c t, s.move? (.commit c) = some t → ∀ path, path ≠ c.path →
    Keyed.lookup path t.atlas.store.files = Keyed.lookup path s.atlas.store.files
  refused : ∀ c t, s.move? (.commit c) = some t →
    ((s.atlas.take c).1 = false ↔
      ∃ d ∈ s.taken, d.path = c.path ∧ c.generation < d.generation)
  known : s.atlas.generations.map (·.1) = s.atlas.store.paths

theorem newest_stays {s : Session} (reached : s.Reached) : s.NewestStays := by
  have settled := reached.settled
  have apart := (List.nodup_append.mp settled.once).1
  constructor
  · exact apart
  · exact settled.stored
  · intro t other perm path
    rw [settled.stored path, other.settled.stored path, Commit.newest_perm apart perm]
  · intro c t moved path differs
    have log := (commit_move moved).2.2.2
    have tried : t.tried = s.tried ++ [c] := by simp [Session.tried, log]
    rw [settled.stored path, (settled.commit moved).stored path, tried,
      Commit.newest_append_other differs.symm]
  · intro c t moved
    exact settled.refused_iff (commit_move moved).1
  · exact settled.known

-- Two versions of one file.
def olderText : String := "function draw() \x7b\n\x7d\n"

def newerText : String := "function drawAll() \x7b\n\x7d\n"

-- A file as one of its scans saw it.
def seen (text : String) (generation : Int) : Commit :=
  ⟨"a.ts", classifyText Rules.builtin 10 "a.ts" text, generation⟩

-- Two scans of one file are under way.
def contested : Session :=
  ⟨{ Atlas.empty (.ofPath "") (.empty (.hashing 384) 32) none 10 with generation := 2 },
    [(2, "a.ts"), (1, "a.ts")], []⟩

theorem contested_reached : contested.Reached :=
  ⟨.ofPath "", .empty (.hashing 384) 32, none, 10, [.begin ["a.ts"], .begin ["a.ts"]], rfl⟩

-- The older scan is done last.
theorem newest_stays_contested : ∃ s : Session,
    contested.run? [.commit (seen newerText 2), .commit (seen olderText 1)] = some s ∧
    s.tried = [seen newerText 2, seen olderText 1] ∧ s.taken = [seen newerText 2] ∧
    (seen olderText 1).units.map (·.raw.name) = ["draw"] ∧
    (Keyed.lookup "a.ts" s.atlas.store.files).map (·.map (·.raw.name)) = some ["drawAll"] ∧
    s.NewestStays := by
  have ran : ∃ s, contested.run? [.commit (seen newerText 2), .commit (seen olderText 1)] = some s ∧
      s.tried = [seen newerText 2, seen olderText 1] ∧ s.taken = [seen newerText 2] :=
    ⟨_, rfl, rfl, rfl⟩
  obtain ⟨s, ran, tried, taken⟩ := ran
  have stays := newest_stays (contested_reached.leads ⟨_, ran⟩)
  have newest : Commit.newest "a.ts" s.tried = some (seen newerText 2) := by
    rw [tried]
    rfl
  have older : (seen olderText 1).units.map (·.raw.name) = ["draw"] := by decide +kernel
  have newer : (seen newerText 2).units.map (·.raw.name) = ["drawAll"] := by decide +kernel
  have stored : (Keyed.lookup "a.ts" s.atlas.store.files).map (·.map (·.raw.name)) =
      some ["drawAll"] := by
    rw [stays.stored, newest, ← newer]
    rfl
  exact ⟨s, ran, tried, taken, older, stored, stays⟩

-- Commits are forgotten by a clearing only.
theorem taken_subset {s t : Session} {moves : List Move} (ran : s.run? moves = some t)
    (uncleared : .clear ∉ moves) : s.taken ⊆ t.taken := by
  induction moves generalizing s with
  | nil =>
    obtain rfl := Option.some.inj ran
    exact List.Subset.refl _
  | cons move moves ih =>
    rw [run?, Option.bind_eq_some_iff] at ran
    obtain ⟨next, moved, later⟩ := ran
    rw [List.mem_cons, not_or] at uncleared
    refine List.Subset.trans ?_ (ih later uncleared.2)
    cases move with
    | begin paths =>
      obtain rfl := Option.some.inj moved
      exact List.Subset.refl _
    | commit c =>
      rw [taken, taken, (commit_move moved).2.2.2, List.filter_append, List.map_append]
      exact List.subset_append_left _ _
    | clear => exact absurd rfl uncleared.1
    | aside change keeps =>
      obtain rfl := Option.some.inj moved
      exact List.Subset.refl _

-- A scan whose file a newer one has committed does not get it back, unless the atlas is cleared: then
-- all depends on what has been committed since.
theorem superseded_refused {s t u : Session} (c d : Commit) (moves : List Move)
    (reached : s.Reached) (moved : s.move? (.commit c) = some t)
    (taken : (s.atlas.take c).1 = true) (ran : t.run? moves = some u) (same : d.path = c.path)
    (older : d.generation < c.generation) :
    (.clear ∉ moves → u.atlas.take d = (false, u.atlas)) ∧
      (d.mark ∈ u.waiting → ((u.atlas.take d).1 = true ↔
        ∀ e ∈ u.taken, e.path = d.path → e.generation ≤ d.generation)) := by
  have settled := (reached.settled.commit moved).run ran
  constructor
  · intro uncleared
    have member : c ∈ t.taken := by
      simp [Session.taken, (commit_move moved).2.2.2, taken]
    exact settled.take_older (mem_tried_of_taken (taken_subset ran uncleared member)) same older
  · intro waits
    rw [← Bool.not_eq_false, settled.refused_iff waits]
    simp only [not_exists, not_and, Int.not_lt]

theorem superseded_refused_contested : ∃ s : Session,
    contested.move? (.commit (seen newerText 2)) = some s ∧
    (contested.atlas.take (seen newerText 2)).1 = true ∧
    s.atlas.take (seen olderText 1) = (false, s.atlas) := by
  have moved : ∃ s, contested.move? (.commit (seen newerText 2)) = some s := ⟨_, rfl⟩
  obtain ⟨s, moved⟩ := moved
  have refused := superseded_refused (seen newerText 2) (seen olderText 1) [] contested_reached moved rfl
    rfl rfl (by decide)
  exact ⟨s, moved, rfl, refused.1 List.not_mem_nil⟩

-- A clearing lets a superseded scan back in.
theorem superseded_returns : ¬ ∀ (s t u : Session) (c d : Commit) (moves : List Move),
    s.Reached → s.move? (.commit c) = some t → (s.atlas.take c).1 = true →
      t.run? moves = some u → d.mark ∈ u.waiting → d.path = c.path →
        d.generation < c.generation → u.atlas.take d = (false, u.atlas) := by
  intro always
  have refused := always contested _ _ (seen newerText 2) (seen olderText 1) [.clear] contested_reached rfl
    rfl rfl (by decide) rfl (by decide)
  exact absurd (congrArg Prod.fst refused) (by decide)

end Session

end CodeAtlas
