import CodeAtlas.Proofs.Atlas.Completion
import CodeAtlas.Proofs.Atlas.Supersession
import CodeAtlas.Proofs.Rules.Loading

set_option autoImplicit false

/-! A file that cannot be read is told of and spares the others. Only a path that no file can have, or
rules that cannot be had, end a scan: then those files are stored that were done before. -/

namespace CodeAtlas

open CodeAtlas.Classify CodeAtlas.Files CodeAtlas.Rules

theorem Files.read_unnameable (w : Workspace) {location : Location}
    (unnameable : location.isNameable = false) : w.read location = .error .badValue := by
  rw [Workspace.read, Workspace.nodeAt, Workspace.spotOf, unnameable]
  rfl

theorem Files.read_error {w : Workspace} {location : Location} {fault : Fault}
    (nameable : location.isNameable = true) (failed : w.read location = .error fault) :
    fault.ofFile = true := by
  cases found : w.nodeAt location with
  | ok node =>
    obtain ⟨problem, path, rfl⟩ := read_error_of_nodeAt found failed
    rfl
  | error other =>
    rw [Workspace.read] at failed
    obtain ⟨_, unnameable⟩ | ⟨problem, rfl, -⟩ := nodeAt_error found
    · simp [nameable] at unnameable
    · simp only [found, bind, Except.bind, Except.error.injEq] at failed
      simp [← failed, Fault.ofFile]

theorem Session.Reached.generationOf_le {s : Session} (reached : s.Reached) (path : String) :
    s.atlas.generationOf path ≤ s.atlas.generation := by
  have settled := reached.settled
  rw [Atlas.generationOf, settled.numbered path]
  cases found : Commit.newest path s.tried with
  | none => simpa using settled.begun
  | some c =>
    have member := List.mem_map_of_mem (f := (·.mark)) (Commit.newest_mem found).1
    simpa [Commit.mark] using (settled.counted c.mark (List.mem_append_left _ member)).2

theorem Scanning.finish_raised {a : Atlas} {w : Workspace} (generation : Int) {s : Scanning}
    {stats : ScanStats} {path : String} {fault : Fault} (going : s.outcome = .ok stats)
    (alike : a.ReadsAlike w s.atlas) (failed : a.unitsIn w path = .error fault)
    (other : fault.ofFile = false) :
    (s.finish w generation path).outcome = .error fault ∧
      (s.finish w generation path).atlas.store = s.atlas.store := by
  rw [← alike.unitsIn_eq] at failed
  have finishes := finish_finishes w generation s path
  generalize s.finish w generation path = t at finishes ⊢
  cases finishes with
  | ended fault ended => simp [ended] at going
  | stored stats b units _ found => simp [found] at failed
  | stale stats b units _ found => simp [found] at failed
  | unread stats b problem place _ found =>
    rw [found, Except.error.injEq] at failed
    simp [← failed, Fault.ofFile] at other
  | raised stats b raised _ found _ _ same =>
    obtain rfl : raised = fault := by simpa [found] using failed
    exact ⟨rfl, same.store_eq⟩

namespace Atlas

-- What a scan of a file leaves in the store, if nothing comes between.
def unitsAfter (a : Atlas) (w : Workspace) (path : String) : Option (List ClassifiedUnit) :=
  match a.unitsIn w path with
  | .ok units => some units
  | .error _ => Keyed.lookup path a.store.files

theorem calm_iff (a : Atlas) (w : Workspace) (path : String) :
    a.calm w path = true ↔ (Location.ofText path).isNameable = true ∧
      ∀ bytes fault, w.read (.ofText path) = .ok bytes → (a.book.rules w).1 = .error fault →
        fault.ofFile = true := by
  rw [calm, unitsIn_eq]
  cases nameable : (Location.ofText path).isNameable with
  | false => simp [read_unnameable w nameable, Fault.ofFile]
  | true =>
    cases read : w.read (.ofText path) with
    | error fault => simp [read_error nameable read]
    | ok bytes => cases rules : (a.book.rules w).1 <;> simp [processText_eq, Except.map, rules]

section

variable {a : Atlas} {w : Workspace} {paths order : List String}

theorem lookup_done (numbered : ∀ path, a.generationOf path ≤ a.generation) (paths : List String)
    (apart : order.Nodup) (calm : ∀ path ∈ order, a.calm w path = true) (path : String) :
    Keyed.lookup path (a.scanAmid w paths (order.map .done)).atlas.store.files =
      if path ∈ order then a.unitsAfter w path else Keyed.lookup path a.store.files := by
  have fate := scanAmid_fate_of_calm a paths (order.map .done) (by simpa using calm) path
  have newest : ¬ a.nextGeneration.generation < a.generationOf path := by
    have known := numbered path
    simp only [nextGeneration]
    omega
  refine (congrArg Fate.units fate).trans ?_
  rw [filter_done, apart.count]
  split
  · cases found : a.unitsIn w path <;>
      simp [fateOf, unitsAfter, Fate.turn, Fate.finish, Fate.take, found, newest]
  · rfl

-- A scan that fails does so at the first file that lets it fail, and leaves it at those before.
theorem scanAmid_fails (a : Atlas) (paths : List String) {path : String}
    (member : path ∈ order) (loud : a.calm w path = false) :
    ∃ before path after fault, order = before ++ path :: after ∧
      (∀ other ∈ before, a.calm w other = true) ∧ a.unitsIn w path = .error fault ∧
      fault.ofFile = false ∧ (a.scanAmid w paths (order.map .done)).outcome = .error fault ∧
      (a.scanAmid w paths (order.map .done)).atlas.store =
        (a.scanAmid w paths (before.map .done)).atlas.store := by
  have ends : (order.find? (!a.calm w ·)).isSome :=
    List.find?_isSome.mpr ⟨path, member, by simpa using loud⟩
  obtain ⟨first, found⟩ := Option.isSome_iff_exists.mp ends
  obtain ⟨loud, before, after, rfl, quiet⟩ := List.find?_eq_some_iff_append.mp found
  have calm : ∀ other ∈ before, a.calm w other = true := by simpa using quiet
  have counted := scanAmid_counted a paths (before.map .done) (by simpa using calm)
  have alike : a.ReadsAlike w (a.scanAmid w paths (before.map .done)).atlas :=
    (nextGeneration_readsAlike a w).trans
      (Scanning.run_readsAlike (before.map .done) (.start a.nextGeneration paths))
  cases failed : a.unitsIn w first with
  | ok units => simp [Atlas.calm, failed] at loud
  | error fault =>
    have other : fault.ofFile = false := by simpa [Atlas.calm, failed] using loud
    obtain ⟨ended, kept⟩ := Scanning.finish_raised a.nextGeneration.generation counted.outcome_eq
      alike failed other
    have whole : a.scanAmid w paths ((before ++ first :: after).map .done) =
        (a.scanAmid w paths (before.map .done)).finish w a.nextGeneration.generation first := by
      rw [List.map_append, List.map_cons, scanAmid, Scanning.run, List.foldl_append]
      exact Scanning.run_ended ended after
    exact ⟨before, first, after, fault, rfl, calm, failed, other, whole ▸ ended, whole ▸ kept⟩

end

/-- What is known of each file when a scan is over that nothing came between. -/
structure Accounts (a : Atlas) (w : Workspace) (paths order : List String)
    (r : Except Fault ScanStats × Atlas) : Prop where
  returns : (∃ stats, r.1 = .ok stats) ↔ ∀ path ∈ paths, (Location.ofText path).isNameable = true ∧
    ∀ bytes fault, w.read (.ofText path) = .ok bytes → (a.book.rules w).1 = .error fault →
      fault.ofFile = true
  indexed : ∀ stats, r.1 = .ok stats → ∀ path ∈ paths,
    (∃ bytes units, w.read (.ofText path) = .ok bytes ∧
      (a.processText w path (decodeAny bytes)).1 = .ok units ∧ a.complaint w path = none ∧
        Keyed.lookup path r.2.store.files = some units) ∨
      ∃ error, a.complaint w path = some error ∧
        Keyed.lookup path r.2.store.files = Keyed.lookup path a.store.files
  errors_eq : ∀ stats, r.1 = .ok stats → stats.errors = order.filterMap (a.complaint w)
  unread_spare : ∀ stats, r.1 = .ok stats → ∀ path,
    Keyed.lookup path r.2.store.files =
      Keyed.lookup path
        (a.scan w (paths.filter fun path => (w.read (.ofText path)).isOk)).2.store.files
  others : ∀ path, path ∉ paths → Keyed.lookup path r.2.store.files = Keyed.lookup path a.store.files
  raised : ∀ fault, r.1 = .error fault → ∃ before path after, order = before ++ path :: after ∧
    ((Location.ofText path).isNameable = false ∧ fault = .badValue ∨
      (w.read (.ofText path)).isOk = true ∧ (a.book.rules w).1 = .error fault ∧
        fault.ofFile = false) ∧
    ∀ other, Keyed.lookup other r.2.store.files =
      if other ∈ before then a.unitsAfter w other else Keyed.lookup other a.store.files

section

variable {a : Atlas} {w : Workspace} {paths order : List String}

theorem unitsAfter_unread {path : String} (unread : (w.read (.ofText path)).isOk = false) :
    a.unitsAfter w path = Keyed.lookup path a.store.files := by
  rw [unitsAfter, unitsIn_eq]
  cases read : w.read (.ofText path) with
  | ok bytes => simp [read, Except.isOk, Except.toBool] at unread
  | error fault => rfl

theorem scan_readable (numbered : ∀ path, a.generationOf path ≤ a.generation)
    (calm : ∀ path ∈ paths, a.calm w path = true) (path : String) :
    Keyed.lookup path
        (a.scan w (paths.filter fun path => (w.read (.ofText path)).isOk)).2.store.files =
      if path ∈ paths then a.unitsAfter w path else Keyed.lookup path a.store.files := by
  let readable := paths.filter fun path => (w.read (.ofText path)).isOk
  have plain := congrArg (·.2.store.files) (scanEach_amid a w (.refl (Text.distinct readable)))
  have entry := lookup_done numbered readable (Text.nodup_distinct readable) (fun path member =>
    calm path (List.mem_of_mem_filter ((Text.mem_distinct path readable).mp member))) path
  simp only [Text.mem_distinct, readable, List.mem_filter] at entry
  refine (congrArg (Keyed.lookup path) plain).trans (entry.trans ?_)
  cases unread : (w.read (.ofText path)).isOk <;> simp [unitsAfter_unread, unread]

theorem indexed_or_told {path : String} (calm : a.calm w path = true) :
    (∃ bytes units, w.read (.ofText path) = .ok bytes ∧
      (a.processText w path (decodeAny bytes)).1 = .ok units ∧ a.complaint w path = none ∧
        a.unitsAfter w path = some units) ∨
      ∃ error, a.complaint w path = some error ∧
        a.unitsAfter w path = Keyed.lookup path a.store.files := by
  cases found : a.unitsIn w path with
  | ok units =>
    have processed := found
    rw [unitsIn_eq] at processed
    cases read : w.read (.ofText path) with
    | ok bytes =>
      exact .inl ⟨bytes, units, rfl, by simpa [read] using processed, by simp [complaint, found],
        by simp [unitsAfter, found]⟩
    | error fault => simp [read] at processed
  | error fault =>
    cases fault with
    | file problem place =>
      exact .inr ⟨_, by rw [complaint, found], by simp [unitsAfter, found]⟩
    | _ => simp [Atlas.calm, found, Fault.ofFile] at calm

theorem cause_of_loud {path : String} {fault : Fault} (failed : a.unitsIn w path = .error fault)
    (other : fault.ofFile = false) :
    (Location.ofText path).isNameable = false ∧ fault = .badValue ∨
      (w.read (.ofText path)).isOk = true ∧ (a.book.rules w).1 = .error fault ∧
        fault.ofFile = false := by
  cases nameable : (Location.ofText path).isNameable with
  | false =>
    rw [unitsIn_eq, read_unnameable w nameable] at failed
    exact .inl ⟨rfl, (Except.error.inj failed).symm⟩
  | true =>
    have rules := rules_of_unitsIn (fun _ => read_error nameable) failed other
    rw [unitsIn_eq] at failed
    cases read : w.read (.ofText path) with
    | ok bytes => exact .inr ⟨rfl, rules, other⟩
    | error problem =>
      obtain rfl : problem = fault := by simpa [read] using failed
      simp [read_error nameable read] at other

theorem accounts_of_calm (numbered : ∀ path, a.generationOf path ≤ a.generation)
    (done : order.Perm (Text.distinct paths)) (calm : ∀ path ∈ order, a.calm w path = true) :
    Accounts a w paths order ((a.scanAmid w paths (order.map .done)).outcome,
      (a.scanAmid w paths (order.map .done)).atlas) := by
  have apart : order.Nodup := done.nodup_iff.mpr (Text.nodup_distinct paths)
  have member : ∀ path, path ∈ order ↔ path ∈ paths := fun path =>
    done.mem_iff.trans (Text.mem_distinct path paths)
  have counted := scanAmid_counted a paths (order.map .done) (by simpa using calm)
  rw [filterMap_done] at counted
  have entries := lookup_done numbered paths apart calm
  simp only [member] at calm entries
  constructor
  · exact ⟨fun _ path inside => (calm_iff a w path).mp (calm path inside), fun _ =>
      ⟨_, counted.outcome_eq⟩⟩
  · intro stats _ path inside
    rw [entries, if_pos inside]
    exact indexed_or_told (calm path inside)
  · intro stats returned
    obtain rfl : _ = stats := by simpa [counted.outcome_eq] using returned
    rfl
  · intro stats _ path
    rw [entries, scan_readable numbered calm]
  · intro path outside
    simpa [outside] using entries path
  · intro fault raised
    simp [counted.outcome_eq] at raised

theorem accounts_of_loud (numbered : ∀ path, a.generationOf path ≤ a.generation)
    (done : order.Perm (Text.distinct paths)) {path : String} (inside : path ∈ order)
    (loud : a.calm w path = false) :
    Accounts a w paths order ((a.scanAmid w paths (order.map .done)).outcome,
      (a.scanAmid w paths (order.map .done)).atlas) := by
  have apart : order.Nodup := done.nodup_iff.mpr (Text.nodup_distinct paths)
  have member : ∀ path, path ∈ order ↔ path ∈ paths := fun path =>
    done.mem_iff.trans (Text.mem_distinct path paths)
  obtain ⟨before, first, after, fault, rfl, calm, failed, other, ended, kept⟩ :=
    scanAmid_fails a paths inside loud
  have entries := lookup_done numbered paths (List.nodup_append.mp apart).1 calm
  rw [← kept] at entries
  generalize a.scanAmid w paths ((before ++ first :: after).map .done) = s at ended entries
  constructor
  · refine iff_of_false (by simp [ended]) fun all => ?_
    have quiet := (calm_iff a w first).mpr (all first ((member first).mp (by simp)))
    simp [Atlas.calm, failed, other] at quiet
  · simp [ended]
  · simp [ended]
  · simp [ended]
  · intro named outside
    have early : named ∉ before := fun among => outside ((member named).mp (by simp [among]))
    simpa [early] using entries named
  · intro raised same
    obtain rfl : fault = raised := by simpa [ended] using same
    exact ⟨before, first, after, rfl, cause_of_loud failed other, entries⟩

end

-- Every file of a scan is stored or told of, unless there is one that ends it.
theorem scan_accounts {s : Session} (reached : s.Reached) (w : Workspace) (paths order : List String)
    (done : order.Perm (Text.distinct paths)) :
    Accounts s.atlas w paths order (scanEach w s.atlas.nextGeneration.generation order
      s.atlas.nextGeneration (.start order.length)) := by
  have numbered := reached.generationOf_le
  rw [scanEach_amid s.atlas w done]
  obtain calm | ⟨path, inside, loud⟩ := s.atlas.calm_or_loud w order
  · exact accounts_of_calm numbered done calm
  · exact accounts_of_loud numbered done inside loud

-- The missing file is told of.
theorem scan_accounts_half : ∃ s : Session, s.Reached ∧
    ["b.ts", "a.ts"].Perm (Text.distinct ["a.ts", "b.ts"]) ∧
    Accounts s.atlas halfThere ["a.ts", "b.ts"] ["b.ts", "a.ts"]
      (scanEach halfThere s.atlas.nextGeneration.generation ["b.ts", "a.ts"] s.atlas.nextGeneration
        (.start 2)) := by
  let s := Session.start (.empty (.ofPath "") (.empty (.hashing 384) 32) none 10)
  have reached : s.Reached := ⟨.ofPath "", .empty (.hashing 384) 32, none, 10, [], rfl⟩
  have swapped : ["b.ts", "a.ts"].Perm (Text.distinct ["a.ts", "b.ts"]) := .swap _ _ _
  exact ⟨s, reached, swapped, scan_accounts reached halfThere _ _ swapped⟩

-- A path with a zero character ends a scan, and the file behind it is not stored.
theorem scan_spoiled : ¬ ∀ (s : Session) (w : Workspace) (paths : List String), s.Reached →
    ∃ stats, (s.atlas.scan w paths).1 = .ok stats := by
  intro always
  obtain ⟨stats, returned⟩ := always
    (.start (.empty (.ofPath "") (.empty (.hashing 384) 32) none 10)) halfThere ["\x00.ts", "a.ts"]
    ⟨.ofPath "", .empty (.hashing 384) 32, none, 10, [], rfl⟩
  have raised : ((Atlas.empty (.ofPath "") (.empty (.hashing 384) 32) none 10).scan halfThere
      ["\x00.ts", "a.ts"]).1 = .error .badValue := by rfl
  cases raised.symm.trans returned

end Atlas

end CodeAtlas
