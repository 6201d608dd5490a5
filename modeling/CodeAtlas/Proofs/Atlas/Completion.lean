import CodeAtlas.Proofs.Atlas.Counting
import CodeAtlas.Proofs.Atlas.Turns

set_option autoImplicit false

/-! The order in which the files of a scan are done does not matter. Each file has a fate of its own, which
only those turns decide that concern it, and all that is counted is counted over the files. -/

namespace CodeAtlas

open CodeAtlas.Classify CodeAtlas.Files CodeAtlas.Rules

/-- A file can be read, or there is some problem with it. -/
def Files.Workspace.Reads (w : Workspace) (path : String) : Prop :=
  ∀ fault, w.read (.ofText path) = .error fault → fault.ofFile = true

namespace Atlas

-- A file that does not end the scan.
def calm (a : Atlas) (w : Workspace) (path : String) : Bool :=
  match a.unitsIn w path with
  | .ok _ => true
  | .error fault => fault.ofFile

theorem calm_or_loud (a : Atlas) (w : Workspace) (paths : List String) :
    (∀ path ∈ paths, a.calm w path = true) ∨ ∃ path ∈ paths, a.calm w path = false := by
  by_cases calm : ∀ path ∈ paths, a.calm w path = true
  · exact .inl calm
  · push Not at calm
    obtain ⟨path, member, loud⟩ := calm
    exact .inr ⟨path, member, by simpa using loud⟩

-- What is said of a file that cannot be had.
def complaint (a : Atlas) (w : Workspace) (path : String) : Option String :=
  match a.unitsIn w path with
  | .error (.file problem place) => some (readError path problem place)
  | _ => none

-- Of files that can be read or have a problem of their own, it is the rules that end a scan.
theorem rules_of_unitsIn {a : Atlas} {w : Workspace} {path : String} {fault : Fault}
    (reads : w.Reads path) (failed : a.unitsIn w path = .error fault) (other : fault.ofFile = false) :
    (a.book.rules w).1 = .error fault := by
  rw [unitsIn_eq] at failed
  cases read : w.read (.ofText path) with
  | error problem =>
    have own := reads problem read
    simp_all
  | ok bytes =>
    cases rules : (a.book.rules w).1 <;> simp_all [processText_eq, Except.map]

end Atlas

/-- What becomes of one file: its units in the store, the generation of the scan that they are from, and
what the scan that is on has read of it. -/
structure Fate where
  units : Option (List ClassifiedUnit)
  generation : Int
  log : List (Commit × Bool)

namespace Fate

def take (f : Fate) (units : List ClassifiedUnit) (generation : Int) : Fate :=
  if generation < f.generation then f else { f with units := some units, generation := generation }

def finish (generation : Int) (path : String) (found : Except Fault (List ClassifiedUnit))
    (f : Fate) : Fate :=
  match found with
  | .error _ => f
  | .ok units =>
    { f.take units generation with
      log := f.log ++ [(⟨path, units, generation⟩, !decide (generation < f.generation))] }

def turn (generation : Int) (path : String) (found : Except Fault (List ClassifiedUnit)) (f : Fate) :
    Turn → Fate
  | .done _ => f.finish generation path found
  | .rival c => f.take c.units c.generation
  | .clear => { f with units := none, generation := 0 }

end Fate

namespace Scanning

def fate (s : Scanning) (path : String) : Fate :=
  ⟨Keyed.lookup path s.atlas.store.files, s.atlas.generationOf path,
    s.log.filter (·.1.path == path)⟩

variable {a : Atlas} {w : Workspace} {generation : Int}

-- Which files are stored decides on a fate, and what was read, but not how the scan goes.
theorem fate_put (b : Atlas) (named : String) (units : List ClassifiedUnit)
    (outcome : Except Fault ScanStats) (log : List (Commit × Bool)) (path : String) :
    (⟨{ b with
        generations := Keyed.put named generation b.generations
        store := b.store.replace named units }, outcome, log⟩ : Scanning).fate path =
      if named = path then ⟨some units, generation, log.filter (·.1.path == path)⟩
      else (⟨b, outcome, log⟩ : Scanning).fate path := by
  by_cases here : named = path <;>
    simp [fate, Atlas.generationOf, Store.replace, Keyed.lookup_put, here]

theorem fate_unscanned {s : Scanning} {b : Atlas} (same : s.atlas.Unscanned b)
    (outcome : Except Fault ScanStats) (log : List (Commit × Bool)) (path : String) :
    (⟨b, outcome, log⟩ : Scanning).fate path =
      { s.fate path with log := log.filter (·.1.path == path) } := by
  simp [fate, Atlas.generationOf, same.store_eq, same.generations_eq]

theorem rival_fate (s : Scanning) (c : Commit) (path : String) :
    ({ s with atlas := (s.atlas.take c).2 } : Scanning).fate path =
      if c.path = path then (s.fate path).take c.units c.generation else s.fate path := by
  by_cases older : c.generation < s.atlas.generationOf c.path
  · simp only [Atlas.take_eq, older, if_true]
    split
    · next here => simp [Fate.take, fate, ← here, older]
    · rfl
  · simp only [Atlas.take_eq, older, if_false, fate_put]
    split
    · next here => simp [Fate.take, fate, ← here, older]
    · rfl

theorem finish_readsAlike (s : Scanning) (path : String) :
    s.atlas.ReadsAlike w (s.finish w generation path).atlas := by
  have finishes := finish_finishes w generation s path
  generalize s.finish w generation path = t at finishes ⊢
  cases finishes with
  | ended => exact .refl w s.atlas
  | stored stats b units going found newest alike same => exact ⟨alike.least_eq, alike.rules_eq⟩
  | stale stats b units going found older alike same => exact alike
  | unread stats b problem place going found alike same => exact alike
  | raised stats b fault going found other alike same => exact alike

theorem turn_readsAlike (s : Scanning) (t : Turn) :
    s.atlas.ReadsAlike w (s.turn w generation t).atlas := by
  cases t with
  | done path => exact finish_readsAlike s path
  | rival c => exact Atlas.take_readsAlike w s.atlas c
  | clear => exact ⟨rfl, rfl⟩

-- A file that could not have been read anyway needs no scan that goes on.
def Open (a : Atlas) (w : Workspace) (s : Scanning) (path : String) : Prop :=
  (∃ stats, s.outcome = .ok stats) ∨ ∀ units, a.unitsIn w path ≠ .ok units

-- A file that is done decides on its own fate, and on that of no other.
theorem finish_fate {s : Scanning} (alike : a.ReadsAlike w s.atlas) {named : String}
    (free : s.Open a w named) (path : String) :
    (s.finish w generation named).fate path =
      if named = path then (s.fate path).finish generation path (a.unitsIn w path)
      else s.fate path := by
  have reads := alike.unitsIn_eq named
  have finishes := finish_finishes w generation s named
  generalize s.finish w generation named = t at finishes ⊢
  cases finishes with
  | ended fault ended =>
    have failed : ∀ units, a.unitsIn w named ≠ .ok units := by simpa [Open, ended] using free
    cases found : a.unitsIn w named with
    | ok units => exact absurd found (failed units)
    | error fault =>
      split
      · next here => simp [← here, found, Fate.finish]
      · rfl
  | stored stats b units going found newest _ same =>
    rw [reads] at found
    rw [fate_put, fate_unscanned same]
    split
    · next here =>
      subst here
      simp [Fate.finish, Fate.take, fate, found, newest]
    · next other => simp [fate, other]
  | stale stats b units going found older _ same =>
    rw [reads] at found
    rw [fate_unscanned same]
    split
    · next here =>
      subst here
      simp [Fate.finish, Fate.take, fate, found, older]
    · next other => simp [fate, other]
  | unread stats b problem place going found _ same =>
    rw [reads] at found
    rw [fate_unscanned same]
    split
    · next here => simp [Fate.finish, fate, ← here, found]
    · rfl
  | raised stats b fault going found other _ same =>
    rw [reads] at found
    rw [fate_unscanned same]
    split
    · next here => simp [Fate.finish, fate, ← here, found]
    · rfl

theorem turn_fate {s : Scanning} (alike : a.ReadsAlike w s.atlas) (t : Turn)
    (free : ∀ named, t = .done named → s.Open a w named) (path : String) :
    (s.turn w generation t).fate path =
      if t.concerns path then (s.fate path).turn generation path (a.unitsIn w path) t
      else s.fate path := by
  cases t with
  | done named =>
    simpa [turn, Turn.concerns, Fate.turn] using finish_fate alike (free named rfl) path
  | rival c => simpa [turn, Turn.concerns, Fate.turn] using rival_fate s c path
  | clear => rfl

theorem run_readsAlike (turns : List Turn) (s : Scanning) :
    s.atlas.ReadsAlike w (s.run w generation turns).atlas := by
  induction turns generalizing s with
  | nil => exact .refl w s.atlas
  | cons t rest ih => exact (turn_readsAlike s t).trans (ih (s.turn w generation t))

/-- All that a scan has counted so far, when it is done with these files. -/
structure Counted (a : Atlas) (w : Workspace) (scanned : Nat) (done : List String) (s : Scanning) :
    Prop where
  outcome_eq : s.outcome = .ok (.summary scanned s.taken (done.filterMap (a.complaint w)))
  balance : s.log.length + (done.filterMap (a.complaint w)).length = done.length

theorem Counted.finish {scanned : Nat} {done : List String} {s : Scanning}
    (counted : Counted a w scanned done s) (alike : a.ReadsAlike w s.atlas) {path : String}
    (calm : a.calm w path = true) :
    Counted a w scanned (done ++ [path]) (s.finish w generation path) := by
  have outcome := counted.outcome_eq
  have balance := counted.balance
  have reads := alike.unitsIn_eq path
  have finishes := finish_finishes w generation s path
  generalize s.finish w generation path = t at finishes ⊢
  cases finishes with
  | ended fault ended => simp [ended] at outcome
  | stored stats b units going found newest _ same =>
    have quiet : a.complaint w path = none := by simp [Atlas.complaint, ← reads, found]
    have before : stats = .summary scanned s.taken (done.filterMap (a.complaint w)) := by
      simpa [going] using outcome
    refine ⟨?_, ?_⟩
    · simpa [before, taken, quiet] using
        ScanStats.summary_addFile scanned s.taken _ ⟨path, units, generation⟩
    · simp [quiet]
      omega
  | stale stats b units going found older _ same =>
    have quiet : a.complaint w path = none := by simp [Atlas.complaint, ← reads, found]
    refine ⟨?_, ?_⟩
    · simpa [going, taken, quiet] using outcome
    · simp [quiet]
      omega
  | unread stats b problem place going found _ same =>
    have said : a.complaint w path = some (Atlas.readError path problem place) := by
      simp [Atlas.complaint, ← reads, found]
    have before : stats = .summary scanned s.taken (done.filterMap (a.complaint w)) := by
      simpa [going] using outcome
    refine ⟨?_, ?_⟩
    · simpa [before, said, taken] using ScanStats.summary_addError scanned s.taken _ _
    · simp [said]
      omega
  | raised stats b fault going found other _ same =>
    simp [Atlas.calm, ← reads, found, other] at calm

theorem Counted.turn {scanned : Nat} {done : List String} {s : Scanning}
    (counted : Counted a w scanned done s) (alike : a.ReadsAlike w s.atlas) (t : Turn)
    (calm : ∀ path, t = .done path → a.calm w path = true) :
    Counted a w scanned (done ++ t.done?.toList) (s.turn w generation t) := by
  cases t with
  | done path => exact counted.finish alike (calm path rfl)
  | rival c => simpa [Turn.done?] using ⟨counted.outcome_eq, counted.balance⟩
  | clear => simpa [Turn.done?] using ⟨counted.outcome_eq, counted.balance⟩

theorem Counted.run {scanned : Nat} {done : List String} {s : Scanning}
    (counted : Counted a w scanned done s) (alike : a.ReadsAlike w s.atlas) (turns : List Turn)
    (calm : ∀ path, .done path ∈ turns → a.calm w path = true) :
    Counted a w scanned (done ++ turns.filterMap Turn.done?) (s.run w generation turns) := by
  induction turns generalizing s done with
  | nil => simpa [Scanning.run] using counted
  | cons t rest ih =>
    have next : Counted a w scanned (done ++ t.done?.toList) (s.turn w generation t) :=
      counted.turn alike t fun path is => calm path (by simp [is])
    have last := ih next (alike.trans (turn_readsAlike s t)) fun path member =>
      calm path (List.mem_cons_of_mem t member)
    cases t with
    | done path => simpa [Turn.done?, Scanning.run] using last
    | _ => simpa [Turn.done?, Scanning.run, List.filterMap_cons] using last

theorem Counted.balanced {scanned : Nat} {done : List String} {s : Scanning}
    (counted : Counted a w scanned done s) (all : done.length = scanned)
    {stats : ScanStats} (returned : s.outcome = .ok stats) :
    stats.scanned = scanned ∧ stats.scanned = stats.indexed + stats.errors.length + s.stale.length ∧
      stats.units = ScanStats.total stats.byKind ∧ stats.units = ScanStats.total stats.byPurpose ∧
      stats.units = (ScanStats.unitsOf s.taken).length := by
  have balance := counted.balance
  have apart := List.length_eq_length_filter_add (l := s.log) (·.2)
  obtain rfl : stats = .summary scanned s.taken (done.filterMap (a.complaint w)) := by
    simpa [counted.outcome_eq] using returned.symm
  refine ⟨rfl, ?_, ?_, ?_, rfl⟩
  · simp only [ScanStats.summary, Scanning.taken, Scanning.stale, List.length_map]
    omega
  · simp [ScanStats.summary, ScanStats.total_tally]
  · simp [ScanStats.summary, ScanStats.total_tally]

-- The fate of a file is decided by the turns that concern it alone.
theorem run_fate {s : Scanning} (alike : a.ReadsAlike w s.atlas) (turns : List Turn)
    (free : ∀ before named after, turns = before ++ .done named :: after →
      (s.run w generation before).Open a w named) (path : String) :
    (s.run w generation turns).fate path =
      (turns.filter (·.concerns path)).foldl (Fate.turn generation path (a.unitsIn w path))
        (s.fate path) := by
  induction turns generalizing s with
  | nil => rfl
  | cons t rest ih =>
    have here : (s.turn w generation t).fate path = _ :=
      turn_fate alike t (fun named is => free [] named rest (by simp [is])) path
    have last := ih (alike.trans (turn_readsAlike s t)) fun before named after is =>
      free (t :: before) named after (by simp [is])
    rw [List.filter_cons]
    split <;> simp_all [run]

-- A file that ends the scan ends it with the fault that it failed with.
theorem finish_going (generation : Int) {s : Scanning} {stats : ScanStats}
    (going : s.outcome = .ok stats) (alike : a.ReadsAlike w s.atlas) (path : String) :
    (a.calm w path = true ∧ ∃ later, (s.finish w generation path).outcome = .ok later) ∨
      ∃ fault, a.unitsIn w path = .error fault ∧ fault.ofFile = false ∧
        (s.finish w generation path).outcome = .error fault := by
  have reads := alike.unitsIn_eq path
  have finishes := finish_finishes w generation s path
  generalize s.finish w generation path = t at finishes ⊢
  cases finishes with
  | ended fault ended => simp [ended] at going
  | stored stats b units _ found => exact .inl ⟨by simp [Atlas.calm, ← reads, found], _, rfl⟩
  | stale stats b units _ found => exact .inl ⟨by simp [Atlas.calm, ← reads, found], _, rfl⟩
  | unread stats b problem place _ found =>
    exact .inl ⟨by simp [Atlas.calm, ← reads, found, Fault.ofFile], _, rfl⟩
  | raised stats b fault _ found other => exact .inr ⟨fault, reads.symm.trans found, other, rfl⟩

theorem ended_outcome {s : Scanning} {fault : Fault} (ended : s.outcome = .error fault)
    (turns : List Turn) : (s.run w generation turns).outcome = .error fault := by
  induction turns generalizing s with
  | nil => exact ended
  | cons t rest ih =>
    have next : (s.turn w generation t).outcome = .error fault := by
      cases t <;> simp [turn, finish, ended]
    exact ih next

theorem run_raised {s : Scanning} {stats : ScanStats} {fault : Fault}
    (going : s.outcome = .ok stats) (alike : a.ReadsAlike w s.atlas) (turns : List Turn)
    (sole : ∀ path, .done path ∈ turns → ∀ other, a.unitsIn w path = .error other →
      other.ofFile = false → other = fault)
    {path : String} (member : .done path ∈ turns) (loud : a.calm w path = false) :
    (s.run w generation turns).outcome = .error fault := by
  induction turns generalizing s stats with
  | nil => simp at member
  | cons t rest ih =>
    have later : a.ReadsAlike w (s.turn w generation t).atlas :=
      alike.trans (turn_readsAlike s t)
    have others : ∀ path, .done path ∈ rest → ∀ other, a.unitsIn w path = .error other →
        other.ofFile = false → other = fault := fun path member =>
      sole path (List.mem_cons_of_mem t member)
    cases t with
    | done named =>
      obtain ⟨calm, next, ok⟩ | ⟨raised, found, other, ended⟩ :=
        finish_going generation going alike named
      · have apart : path ≠ named := by
          rintro rfl
          simp [calm] at loud
        exact ih ok later others (by simpa [apart] using member)
      · obtain rfl := sole named (by simp) raised found other
        exact ended_outcome ended rest
    | rival c => exact ih going later others (by simpa using member)
    | clear => exact ih going later others (by simpa using member)

theorem log_perm {s t : Scanning} (same : ∀ path, t.fate path = s.fate path) :
    t.log.Perm s.log := by
  classical
  rw [List.perm_iff_count]
  intro entry
  have logs := congrArg (fun f => List.count entry f.log) (same entry.1.path)
  simpa [fate, List.count_filter] using logs

end Scanning

namespace Atlas

section

variable {a : Atlas} {w : Workspace} {paths : List String} {turns : List Turn}

theorem mem_turns (finished : (turns.filterMap Turn.done?).Perm (Text.distinct paths))
    (path : String) : .done path ∈ turns ↔ path ∈ paths := by
  rw [← Text.mem_distinct path paths, ← finished.mem_iff, List.mem_filterMap]
  constructor
  · exact fun member => ⟨_, member, rfl⟩
  · rintro ⟨t, member, is⟩
    cases t with
    | done named => simp_all [Turn.done?]
    | _ => simp [Turn.done?] at is

theorem nextGeneration_readsAlike (a : Atlas) (w : Workspace) : a.ReadsAlike w a.nextGeneration :=
  ⟨rfl, rfl⟩

theorem scanAmid_counted (a : Atlas) (paths : List String) (turns : List Turn)
    (calm : ∀ path, .done path ∈ turns → a.calm w path = true) :
    (a.scanAmid w paths turns).Counted a w (Text.distinct paths).length
      (turns.filterMap Turn.done?) := by
  have start : (Scanning.start a.nextGeneration paths).Counted a w (Text.distinct paths).length [] :=
    ⟨rfl, rfl⟩
  simpa [scanAmid] using start.run (nextGeneration_readsAlike a w) turns calm

-- It is the rules that end a scan, and so every file of it fails, and the scan whichever comes first.
theorem scanAmid_raised (reads : ∀ path ∈ paths, w.Reads path)
    (finished : (turns.filterMap Turn.done?).Perm (Text.distinct paths)) {path : String}
    (member : path ∈ paths) (loud : a.calm w path = false) :
    ∃ fault, fault.ofFile = false ∧ (a.book.rules w).1 = .error fault ∧
      (a.scanAmid w paths turns).outcome = .error fault := by
  cases found : a.unitsIn w path with
  | ok units => simp [calm, found] at loud
  | error fault =>
    have other : fault.ofFile = false := by simpa [calm, found] using loud
    have rules := rules_of_unitsIn (reads path member) found other
    refine ⟨fault, other, rules, ?_⟩
    refine Scanning.run_raised rfl (nextGeneration_readsAlike a w) turns ?_
      ((mem_turns finished path).mpr member) loud
    intro named among raised failed own
    have again := rules_of_unitsIn (reads named ((mem_turns finished named).mp among)) failed own
    simpa [rules] using again.symm

theorem scanAmid_ends (reads : ∀ path ∈ paths, w.Reads path)
    (finished : (turns.filterMap Turn.done?).Perm (Text.distinct paths)) :
    (a.scanAmid w paths turns).Counted a w (Text.distinct paths).length
        (turns.filterMap Turn.done?) ∨
      ∃ fault, fault.ofFile = false ∧ (a.book.rules w).1 = .error fault ∧
        (a.scanAmid w paths turns).outcome = .error fault := by
  obtain calm | ⟨path, member, loud⟩ := a.calm_or_loud w paths
  · exact .inl (scanAmid_counted a paths turns fun path member =>
      calm path ((mem_turns finished path).mp member))
  · exact .inr (scanAmid_raised reads finished member loud)

theorem unitsIn_barren {fault : Fault} (failed : (a.book.rules w).1 = .error fault) (path : String)
    (units : List ClassifiedUnit) : a.unitsIn w path ≠ .ok units := by
  rw [unitsIn_eq]
  cases w.read (.ofText path) <;> simp [processText_eq, failed, Except.map]

-- What the turns that concern a file make of it.
def fateOf (a : Atlas) (w : Workspace) (path : String) (turns : List Turn) : Fate :=
  turns.foldl (Fate.turn a.nextGeneration.generation path (a.unitsIn w path))
    ⟨Keyed.lookup path a.store.files, a.generationOf path, []⟩

theorem scanAmid_fate_of_calm (a : Atlas) (paths : List String) (turns : List Turn)
    (calm : ∀ path, .done path ∈ turns → a.calm w path = true) (path : String) :
    (a.scanAmid w paths turns).fate path = a.fateOf w path (turns.filter (·.concerns path)) := by
  refine Scanning.run_fate (nextGeneration_readsAlike a w) turns ?_ path
  intro before named after is
  exact .inl ⟨_, (scanAmid_counted a paths before fun path member =>
    calm path (by simp [is, member])).outcome_eq⟩

theorem scanAmid_fate (reads : ∀ path ∈ paths, w.Reads path)
    (finished : (turns.filterMap Turn.done?).Perm (Text.distinct paths)) (path : String) :
    (a.scanAmid w paths turns).fate path = a.fateOf w path (turns.filter (·.concerns path)) := by
  obtain calm | ⟨named, member, loud⟩ := a.calm_or_loud w paths
  · exact scanAmid_fate_of_calm a paths turns (fun path member =>
      calm path ((mem_turns finished path).mp member)) path
  · obtain ⟨fault, _, failed, _⟩ := scanAmid_raised reads finished member loud
    exact Scanning.run_fate (nextGeneration_readsAlike a w) turns
      (fun _ _ _ _ => .inr (unitsIn_barren failed _)) path

/-- Both scans returned, and have counted the same, or both failed alike. -/
inductive OutcomesAlike : Except Fault ScanStats → Except Fault ScanStats → Prop
  | returned (stats others : ScanStats) (alike : stats.Alike others) :
      OutcomesAlike (.ok stats) (.ok others)
  | raised (fault : Fault) : OutcomesAlike (.error fault) (.error fault)

/-- Two scans that end alike, with the same units of each file in the store. -/
structure ScansAlike (s t : Except Fault ScanStats × Atlas) : Prop where
  outcomes_alike : OutcomesAlike s.1 t.1
  units_eq : ∀ path, Keyed.lookup path t.2.store.files = Keyed.lookup path s.2.store.files

theorem scanAmid_scansAlike (reads : ∀ path ∈ paths, w.Reads path)
    (finished : (turns.filterMap Turn.done?).Perm (Text.distinct paths)) {others : List Turn}
    (completed : (others.filterMap Turn.done?).Perm (Text.distinct paths))
    (same : ∀ path, others.filter (·.concerns path) = turns.filter (·.concerns path)) :
    ScansAlike ((a.scanAmid w paths turns).outcome, (a.scanAmid w paths turns).atlas)
      ((a.scanAmid w paths others).outcome, (a.scanAmid w paths others).atlas) := by
  have fates : ∀ path,
      (a.scanAmid w paths others).fate path = (a.scanAmid w paths turns).fate path := by
    intro path
    rw [scanAmid_fate reads finished, scanAmid_fate reads completed, same]
  refine ⟨?_, fun path => congrArg Fate.units (fates path)⟩
  obtain calm | ⟨path, member, loud⟩ := a.calm_or_loud w paths
  · have counted := scanAmid_counted a paths turns fun path member =>
      calm path ((mem_turns finished path).mp member)
    have recounted := scanAmid_counted a paths others fun path member =>
      calm path ((mem_turns completed path).mp member)
    have logs := Scanning.log_perm fates
    rw [counted.outcome_eq, recounted.outcome_eq]
    exact .returned _ _ (ScanStats.summary_alike _ ((logs.filter _).map _)
      ((completed.trans finished.symm).filterMap _))
  · obtain ⟨fault, _, rules, raised⟩ := scanAmid_raised reads finished member loud
    obtain ⟨other, _, again, failed⟩ := scanAmid_raised reads completed member loud
    obtain rfl : fault = other := by simpa [rules] using again
    rw [raised, failed]
    exact .raised fault

theorem filterMap_done (order : List String) :
    (order.map Turn.done).filterMap Turn.done? = order := by
  have same : Turn.done? ∘ Turn.done = some := rfl
  rw [List.filterMap_map, same, List.filterMap_some]

theorem filter_done (order : List String) (path : String) :
    (order.map Turn.done).filter (·.concerns path) =
      List.replicate (order.count path) (.done path) := by
  have same : (Turn.concerns path ∘ Turn.done) = (· == path) := rfl
  rw [List.filter_map, same, List.filter_beq, List.map_replicate]

/-- What the scan of some files leaves, whatever comes between. -/
structure Completes (a : Atlas) (w : Workspace) (paths : List String) (turns : List Turn) : Prop where
  fate_eq : ∀ path, (a.scanAmid w paths turns).fate path = a.fateOf w path (turns.filter (·.concerns path))
  stored : ∀ path before bytes units, turns.filter (·.concerns path) = before ++ [.done path] →
    w.read (.ofText path) = .ok bytes → (a.processText w path (decodeAny bytes)).1 = .ok units →
    (⟨path, units, a.nextGeneration.generation⟩ ∈ (a.scanAmid w paths turns).taken ∧
        Keyed.lookup path (a.scanAmid w paths turns).atlas.store.files = some units) ∨
      (⟨path, units, a.nextGeneration.generation⟩ ∈ (a.scanAmid w paths turns).stale ∧
        Keyed.lookup path (a.scanAmid w paths turns).atlas.store.files = (a.fateOf w path before).units)
  unread : ∀ path before, turns.filter (·.concerns path) = before ++ [.done path] →
    (∀ units, a.unitsIn w path ≠ .ok units) →
    Keyed.lookup path (a.scanAmid w paths turns).atlas.store.files = (a.fateOf w path before).units
  aside : ∀ path, turns.filter (·.concerns path) = [] →
    Keyed.lookup path (a.scanAmid w paths turns).atlas.store.files = Keyed.lookup path a.store.files
  returns : (∀ fault, (a.book.rules w).1 = .error fault → fault.ofFile = true) →
    ∃ stats, (a.scanAmid w paths turns).outcome = .ok stats
  balanced : ∀ stats, (a.scanAmid w paths turns).outcome = .ok stats →
    stats.scanned = (Text.distinct paths).length ∧
      stats.scanned =
        stats.indexed + stats.errors.length + (a.scanAmid w paths turns).stale.length ∧
      stats.units = ScanStats.total stats.byKind ∧ stats.units = ScanStats.total stats.byPurpose ∧
      stats.units = (ScanStats.unitsOf (a.scanAmid w paths turns).taken).length

-- A file that is done last of all that concerns it.
theorem fateOf_done {path : String} {before : List Turn} {f : Fate}
    (fate : f = a.fateOf w path (before ++ [.done path])) :
    f = (a.fateOf w path before).finish a.nextGeneration.generation path (a.unitsIn w path) := by
  rw [fate, fateOf, List.foldl_append]
  rfl

theorem scanAmid_completes (reads : ∀ path ∈ paths, w.Reads path)
    (finished : (turns.filterMap Turn.done?).Perm (Text.distinct paths)) :
    Completes a w paths turns := by
  have fates := scanAmid_fate (a := a) reads finished
  constructor
  · exact fates
  · intro path before bytes units last read processed
    have found : a.unitsIn w path = .ok units := by rw [unitsIn_eq, read]; exact processed
    have fate := fateOf_done (last ▸ fates path)
    rw [found, Fate.finish] at fate
    have entry := congrArg Fate.units fate
    have log := congrArg Fate.log fate
    simp only [Scanning.fate, Fate.take] at entry log
    have logged : (⟨path, units, a.nextGeneration.generation⟩,
        !decide (a.nextGeneration.generation < (a.fateOf w path before).generation)) ∈
          (a.scanAmid w paths turns).log :=
      List.mem_of_mem_filter (log ▸ List.mem_append_right _ (List.mem_singleton.mpr rfl))
    by_cases older : a.nextGeneration.generation < (a.fateOf w path before).generation
    · exact .inr ⟨by simpa [Scanning.stale, older] using logged, by simpa [older] using entry⟩
    · exact .inl ⟨by simpa [Scanning.taken, older] using logged, by simpa [older] using entry⟩
  · intro path before last unread
    have fate := fateOf_done (last ▸ fates path)
    cases found : a.unitsIn w path with
    | ok units => exact absurd found (unread units)
    | error fault => exact congrArg Fate.units (by simpa [found, Fate.finish] using fate)
  · intro path untouched
    exact congrArg Fate.units ((fates path).trans (congrArg (a.fateOf w path) untouched))
  · intro files
    obtain counted | ⟨fault, other, rules, _⟩ := scanAmid_ends (a := a) reads finished
    · exact ⟨_, counted.outcome_eq⟩
    · simp [files fault rules] at other
  · intro stats returned
    obtain counted | ⟨fault, _, _, raised⟩ := scanAmid_ends (a := a) reads finished
    · exact counted.balanced finished.length_eq returned
    · simp [raised] at returned

end

/-- Whatever the order in which the files of a scan are done, it ends alike and leaves the same units,
and this is so too if other scans come between. -/
theorem scan_unordered (a : Atlas) (w : Workspace) (paths : List String)
    (reads : ∀ path ∈ paths, w.Reads path) :
    (∀ order : List String, order.Perm (Text.distinct paths) →
      scanEach w a.nextGeneration.generation order a.nextGeneration (.start order.length) =
          ((a.scanAmid w paths (order.map .done)).outcome,
            (a.scanAmid w paths (order.map .done)).atlas) ∧
        ScansAlike (a.scan w paths)
          (scanEach w a.nextGeneration.generation order a.nextGeneration (.start order.length))) ∧
      ∀ turns : List Turn, (turns.filterMap Turn.done?).Perm (Text.distinct paths) →
        Completes a w paths turns ∧
          ∀ others : List Turn, (others.filterMap Turn.done?).Perm (Text.distinct paths) →
            (∀ path, others.filter (·.concerns path) = turns.filter (·.concerns path)) →
            ScansAlike ((a.scanAmid w paths turns).outcome, (a.scanAmid w paths turns).atlas)
              ((a.scanAmid w paths others).outcome, (a.scanAmid w paths others).atlas) := by
  refine ⟨?_, fun turns finished => ⟨scanAmid_completes reads finished, fun others =>
    scanAmid_scansAlike reads finished⟩⟩
  intro order done
  have plain : a.scan w paths = ((a.scanAmid w paths ((Text.distinct paths).map .done)).outcome,
      (a.scanAmid w paths ((Text.distinct paths).map .done)).atlas) := scanEach_amid a w (.refl _)
  have same : ∀ path, (order.map Turn.done).filter (·.concerns path) =
      ((Text.distinct paths).map Turn.done).filter (·.concerns path) := by
    simp [filter_done, done.count_eq]
  refine ⟨scanEach_amid a w done, ?_⟩
  rw [scanEach_amid a w done, plain]
  exact scanAmid_scansAlike reads (by rw [filterMap_done]) (by rwa [filterMap_done]) same

-- One file is there, and the other is missing.
def halfThere : Workspace :=
  ⟨[(["a.ts"], .file ⟨"function draw() \x7b\n\x7d\n".toUTF8.toList, .fresh 0⟩)], 1, []⟩

-- What a newer scan has found in the file that is there.
def rivalUnits : List ClassifiedUnit :=
  classifyText builtin 10 "a.ts" "function drawAll() \x7b\n\x7d\n"

-- The missing file is done first, and then a newer scan commits the other.
theorem scan_unordered_half :
    (∀ path ∈ ["a.ts", "b.ts"], halfThere.Reads path) ∧
      rivalUnits.map (·.raw.name) = ["drawAll"] ∧
      ∃ a : Atlas,
        (a.unitsIn halfThere "a.ts").toOption.map (·.map (·.raw.name)) = some ["draw"] ∧
        ScansAlike (a.scan halfThere ["a.ts", "b.ts"])
          (scanEach halfThere 1 ["b.ts", "a.ts"] a.nextGeneration (.start 2)) ∧
        (a.fateOf halfThere "a.ts" [.rival ⟨"a.ts", rivalUnits, 2⟩, .done "a.ts"]).units =
          some rivalUnits ∧
        Completes a halfThere ["a.ts", "b.ts"]
          [.done "b.ts", .rival ⟨"a.ts", rivalUnits, 2⟩, .done "a.ts"] := by
  have reads : ∀ path ∈ ["a.ts", "b.ts"], halfThere.Reads path := by
    have there : halfThere.read (.ofText "a.ts") =
        .ok "function draw() \x7b\n\x7d\n".toUTF8.toList := by decide +kernel
    have missing : halfThere.read (.ofText "b.ts") = .error (.file .missing "b.ts") := by
      decide +kernel
    simp [Files.Workspace.Reads, there, missing, Fault.ofFile]
  let a := Atlas.empty (.ofPath "") (.empty (.hashing 384) 32) none 10
  have rivals : rivalUnits.map (·.raw.name) = ["drawAll"] := by decide +kernel
  have own : (a.unitsIn halfThere "a.ts").toOption.map (·.map (·.raw.name)) = some ["draw"] := by
    decide +kernel
  have swapped : ["b.ts", "a.ts"].Perm (Text.distinct ["a.ts", "b.ts"]) := .swap _ _ _
  have unordered := scan_unordered a halfThere ["a.ts", "b.ts"] reads
  have kept : (a.fateOf halfThere "a.ts" [.rival ⟨"a.ts", rivalUnits, 2⟩, .done "a.ts"]).units =
      some rivalUnits := by
    rw [fateOf]
    cases a.unitsIn halfThere "a.ts" <;> rfl
  exact ⟨reads, rivals, a, own, (unordered.1 _ swapped).2, kept,
    (unordered.2 [.done "b.ts", .rival ⟨"a.ts", rivalUnits, 2⟩, .done "a.ts"] swapped).1⟩

end Atlas

end CodeAtlas
