import CodeAtlas.Proofs.Atlas.History
import CodeAtlas.Proofs.Text.Distinct
import Mathlib.Data.List.Nodup

set_option autoImplicit false

/-! Scans that overlap: each takes a generation and commits its files when they are done, in whatever
order the commits of all scans come. -/

namespace CodeAtlas

open CodeAtlas.Classify CodeAtlas.Files

/-- The units that a scan has found in a file. -/
structure Commit where
  path : String
  units : List ClassifiedUnit
  generation : Int

namespace Commit

-- No scan commits a file twice, so that this tells commits apart.
def mark (c : Commit) : Int × String :=
  (c.generation, c.path)

def newest (path : String) (commits : List Commit) : Option Commit :=
  (commits.filter (·.path = path)).maxOn? (·.generation)

theorem newest_append_other {path : String} {c : Commit} (other : c.path ≠ path)
    (commits : List Commit) : newest path (commits ++ [c]) = newest path commits := by
  simp [newest, other]

theorem newest_append_first {path : String} {c : Commit} (here : c.path = path)
    {commits : List Commit} (first : newest path commits = none) :
    newest path (commits ++ [c]) = some c := by
  rw [newest] at first
  simp [newest, here, List.maxOn?_append, first]

theorem newest_append_again {path : String} {c d : Commit} (here : c.path = path)
    {commits : List Commit} (before : newest path commits = some d) :
    newest path (commits ++ [c]) = if d.generation < c.generation then some c else some d := by
  rw [newest] at before
  by_cases later : d.generation < c.generation
  · simp [newest, here, List.maxOn?_append, before, maxOn_eq_if, later, Int.not_le.mpr later]
  · simp [newest, here, List.maxOn?_append, before, maxOn_eq_if, later, Int.not_lt.mp later]

theorem newest_mem {path : String} {commits : List Commit} {c : Commit}
    (found : newest path commits = some c) : c ∈ commits ∧ c.path = path := by
  have member := List.maxOn?_mem found
  simpa using member

theorem le_newest {path : String} {commits : List Commit} {c d : Commit}
    (found : newest path commits = some c) (member : d ∈ commits) (here : d.path = path) :
    d.generation ≤ c.generation := by
  have inside : d ∈ commits.filter (·.path = path) := by simp [member, here]
  have highest := List.le_apply_get_maxOn?_of_mem (f := (·.generation)) inside
  rw [newest] at found
  simpa [found] using highest

theorem newest_eq_none {path : String} {commits : List Commit} :
    newest path commits = none ↔ ∀ c ∈ commits, c.path ≠ path := by
  rw [newest, ← Option.not_isSome_iff_eq_none, List.isSome_maxOn?_iff, not_not,
    List.filter_eq_nil_iff]
  simp

-- Where marks are apart, the order of the commits does not matter.
theorem newest_perm {path : String} {commits others : List Commit}
    (apart : (commits.map mark).Nodup) (perm : others.Perm commits) :
    newest path others = newest path commits := by
  cases found : newest path commits with
  | none =>
    rw [newest_eq_none] at found ⊢
    exact fun c member => found c (perm.mem_iff.mp member)
  | some c =>
    obtain ⟨member, here⟩ := newest_mem found
    cases again : newest path others with
    | none => exact absurd here (newest_eq_none.mp again c (perm.mem_iff.mpr member))
    | some d =>
      obtain ⟨inside, there⟩ := newest_mem again
      have upper := le_newest found (perm.mem_iff.mp inside) there
      have lower := le_newest again (perm.mem_iff.mpr member) here
      have marks : d.mark = c.mark :=
        Prod.ext (Int.le_antisymm upper lower) (there.trans here.symm)
      rw [List.inj_on_of_nodup_map apart (perm.mem_iff.mp inside) member marks]

end Commit

namespace Atlas

def take (a : Atlas) (c : Commit) : Bool × Atlas :=
  a.commit c.path c.units c.generation

/-- Nothing was done to the files of the store or to the count of scans. -/
structure Unscanned (a b : Atlas) : Prop where
  store_eq : b.store = a.store
  generations_eq : b.generations = a.generations
  generation_eq : b.generation = a.generation

theorem build_unscanned (a : Atlas) : Unscanned a a.build.2 := by
  have alike := build_alike a
  exact ⟨alike.store_eq, alike.generations_eq, alike.generation_eq⟩

end Atlas

/-- An atlas in use by several scans. `waiting` has the files that they have yet to commit, under their
generations, and `log` the commits since the atlas was empty, each with its answer. -/
structure Session where
  atlas : Atlas
  waiting : List (Int × String)
  log : List (Commit × Bool)

/-- What may happen next. A scan begins with all its files, and commits one of them at a time. What else
is done in between, such as reading files and rules or building the index, is no business of scans. -/
inductive Move
  | begin (paths : List String)
  | commit (c : Commit)
  | clear
  | aside (change : Atlas → Atlas) (keeps : ∀ a : Atlas, a.Unscanned (change a))

namespace Session

def start (a : Atlas) : Session :=
  ⟨a, [], []⟩

def tried (s : Session) : List Commit :=
  s.log.map (·.1)

def taken (s : Session) : List Commit :=
  (s.log.filter (·.2)).map (·.1)

-- Only a file that waits can be committed.
def move? (s : Session) : Move → Option Session
  | .begin paths =>
    let a := s.atlas.nextGeneration
    some { s with
      atlas := a
      waiting := (Text.distinct paths).map (a.generation, ·) ++ s.waiting }
  | .commit c =>
    if c.mark ∈ s.waiting then
      let (answer, a) := s.atlas.take c
      some ⟨a, s.waiting.erase c.mark, s.log ++ [(c, answer)]⟩
    else none
  | .clear => some { s with atlas := s.atlas.clear, log := [] }
  | .aside change _ => some { s with atlas := change s.atlas }

def run? (s : Session) : List Move → Option Session
  | [] => some s
  | move :: moves => (s.move? move).bind (run? · moves)

theorem run?_append (s : Session) (moves more : List Move) :
    s.run? (moves ++ more) = (s.run? moves).bind (run? · more) := by
  induction moves generalizing s with
  | nil => rfl
  | cons move moves ih =>
    rw [List.cons_append, run?, run?]
    cases s.move? move with
    | none => rfl
    | some t => exact ih t

theorem commit_move {s t : Session} {c : Commit} (moved : s.move? (.commit c) = some t) :
    c.mark ∈ s.waiting ∧ t.atlas = (s.atlas.take c).2 ∧ t.waiting = s.waiting.erase c.mark ∧
      t.log = s.log ++ [(c, (s.atlas.take c).1)] := by
  rw [move?] at moved
  split at moved
  next waits =>
    obtain rfl := Option.some.inj moved
    exact ⟨waits, rfl, rfl, rfl⟩
  next => simp at moved

def Leads (s t : Session) : Prop :=
  ∃ moves, s.run? moves = some t

theorem Leads.refl (s : Session) : s.Leads s :=
  ⟨[], rfl⟩

theorem Leads.trans {s t u : Session} (first : s.Leads t) (second : t.Leads u) : s.Leads u := by
  obtain ⟨moves, ran⟩ := first
  obtain ⟨more, later⟩ := second
  exact ⟨moves ++ more, by rw [run?_append, ran, Option.bind_some, later]⟩

theorem leads_of_move {s t : Session} (move : Move) (moved : s.move? move = some t) : s.Leads t :=
  ⟨[move], by rw [run?, moved]; rfl⟩

/-- A session that began with an empty atlas. -/
def Reached (s : Session) : Prop :=
  ∃ book index cache least, (start (.empty book index cache least)).Leads s

theorem Reached.leads {s t : Session} (reached : s.Reached) (leads : s.Leads t) : t.Reached := by
  obtain ⟨book, index, cache, least, before⟩ := reached
  exact ⟨book, index, cache, least, before.trans leads⟩

/-! A scan that is not disturbed is a run like any other. -/

theorem leads_processText (s : Session) (w : Workspace) (path text : String) :
    s.Leads { s with atlas := (s.atlas.processText w path text).2 } :=
  leads_of_move (.aside (fun a => (a.processText w path text).2) fun _ => ⟨rfl, rfl, rfl⟩) rfl

theorem processFile_unscanned (a : Atlas) (w : Workspace) (path : String) :
    a.Unscanned (a.processFile w path).2 := by
  rw [Atlas.processFile]
  split <;> exact ⟨rfl, rfl, rfl⟩

theorem leads_processFile (s : Session) (w : Workspace) (path : String) :
    s.Leads { s with atlas := (s.atlas.processFile w path).2 } :=
  leads_of_move (.aside (fun a => (a.processFile w path).2) fun a => processFile_unscanned a w path) rfl

theorem leads_commit (s : Session) (c : Commit) (waits : c.mark ∈ s.waiting) :
    s.Leads ⟨(s.atlas.take c).2, s.waiting.erase c.mark, s.log ++ [(c, (s.atlas.take c).1)]⟩ :=
  leads_of_move (.commit c) (by rw [move?, if_pos waits])

theorem leads_scanFile (s : Session) (w : Workspace) (generation : Int) (stats : ScanStats)
    (path : String) (waits : (generation, path) ∈ s.waiting) :
    ∃ t, s.Leads t ∧ t.atlas = (Atlas.scanFile w generation s.atlas stats path).2 ∧
      ∀ other, other ≠ path → (generation, other) ∈ s.waiting → (generation, other) ∈ t.waiting := by
  have processed := leads_processFile s w path
  rw [Atlas.scanFile]
  split
  next units a done =>
    rw [done] at processed
    let c : Commit := ⟨path, units, generation⟩
    have committed := processed.trans (leads_commit { s with atlas := a } c waits)
    refine ⟨_, committed, ?_, ?_⟩
    · split
      next b kept => exact congrArg Prod.snd kept
      next b stale => exact congrArg Prod.snd stale
    · intro other differs inside
      have apart : (generation, other) ≠ c.mark := fun same => differs (Prod.mk.inj same).2
      exact (List.mem_erase_of_ne apart).mpr inside
  next problem place a done =>
    rw [done] at processed
    exact ⟨_, processed, rfl, fun _ _ inside => inside⟩
  next fault a _ done =>
    rw [done] at processed
    exact ⟨_, processed, rfl, fun _ _ inside => inside⟩

theorem leads_scanEach (s : Session) (w : Workspace) (generation : Int) (paths : List String)
    (stats : ScanStats) (apart : paths.Nodup) (wait : ∀ path ∈ paths, (generation, path) ∈ s.waiting) :
    ∃ t, s.Leads t ∧ t.atlas = (Atlas.scanEach w generation paths s.atlas stats).2 := by
  induction paths generalizing s stats with
  | nil => exact ⟨s, .refl s, rfl⟩
  | cons path rest ih =>
    rw [List.nodup_cons] at apart
    obtain ⟨t, leads, atlas, waiting⟩ := leads_scanFile s w generation stats path (wait path (by simp))
    have left : ∀ other ∈ rest, (generation, other) ∈ t.waiting := by
      intro other member
      have differs : other ≠ path := fun same => apart.1 (same ▸ member)
      exact waiting other differs (wait other (List.mem_cons_of_mem path member))
    rw [Atlas.scanEach]
    split
    next stats a done =>
      rw [done] at atlas
      obtain ⟨u, later, scanned⟩ := ih t stats apart.2 left
      rw [atlas] at scanned
      exact ⟨u, leads.trans later, scanned⟩
    next fault a done =>
      rw [done] at atlas
      exact ⟨t, leads, atlas⟩

theorem leads_act (s : Session) (action : Atlas.Action) :
    ∃ t, s.Leads t ∧ t.atlas = s.atlas.act action := by
  cases action with
  | scanText w path text =>
    have processed := leads_processText s w path text
    simp only [Atlas.act]
    rw [Atlas.scanText]
    split
    next units a done =>
      rw [done] at processed
      let began : Session := ⟨a.nextGeneration, (a.nextGeneration.generation, path) :: s.waiting, s.log⟩
      have begins : Leads { s with atlas := a } began := leads_of_move (.begin [path]) rfl
      let c : Commit := ⟨path, units, a.nextGeneration.generation⟩
      have committed := leads_commit began c (by simp [began, c, Commit.mark])
      exact ⟨_, processed.trans (begins.trans committed), rfl⟩
    next fault a done =>
      rw [done] at processed
      exact ⟨_, processed, rfl⟩
  | scanFiles w paths order done =>
    let a := s.atlas.nextGeneration
    let began : Session := ⟨a, (Text.distinct paths).map (a.generation, ·) ++ s.waiting, s.log⟩
    have begins : s.Leads began := leads_of_move (.begin paths) rfl
    have apart : order.Nodup := done.nodup_iff.mpr (Text.nodup_distinct paths)
    have wait : ∀ path ∈ order, (a.generation, path) ∈ began.waiting := by
      intro path member
      exact List.mem_append_left _ (List.mem_map_of_mem (done.mem_iff.mp member))
    obtain ⟨t, later, scanned⟩ := leads_scanEach began w a.generation order
      (.start order.length) apart wait
    exact ⟨t, begins.trans later, scanned⟩
  | clear => exact ⟨_, leads_of_move .clear rfl, rfl⟩
  | build =>
    exact ⟨_, leads_of_move (.aside (fun a => a.build.2) Atlas.build_unscanned) rfl, rfl⟩

theorem leads_run (s : Session) (actions : List Atlas.Action) :
    ∃ t, s.Leads t ∧ t.atlas = s.atlas.run actions := by
  induction actions generalizing s with
  | nil => exact ⟨s, .refl s, rfl⟩
  | cons action rest ih =>
    obtain ⟨t, first, acted⟩ := leads_act s action
    obtain ⟨u, later, ran⟩ := ih t
    rw [acted] at ran
    exact ⟨u, first.trans later, ran⟩

end Session

end CodeAtlas
