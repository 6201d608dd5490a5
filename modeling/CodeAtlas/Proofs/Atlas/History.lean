import CodeAtlas.Atlas.Scan
import CodeAtlas.Proofs.Atlas.Restoring

set_option autoImplicit false

/-! Runs of scans, clearings and builds: what each of them leaves as it was, and what holds of every file
in the store after any of them. -/

namespace CodeAtlas

open CodeAtlas.Classify CodeAtlas.Embedding CodeAtlas.Files CodeAtlas.Index CodeAtlas.Rules

/-- No file is in the store twice, and each has units of which `P` holds. -/
structure Store.Holds {U : Type} (P : String → List U → Prop) (s : Store U) : Prop where
  apart : s.paths.Nodup
  each : ∀ entry ∈ s.files, P entry.1 entry.2

namespace Store

variable {U : Type} {P : String → List U → Prop}

theorem holds_empty : (empty : Store U).Holds P :=
  ⟨List.nodup_nil, by simp [empty]⟩

theorem Holds.replace {s : Store U} (holds : s.Holds P) (path : String) (units : List U)
    (fresh : P path units) : (s.replace path units).Holds P := by
  constructor
  · exact Keyed.nodup_put path units s.files holds.apart
  · intro entry member
    rcases Keyed.mem_put path units s.files entry member with rfl | old
    · exact fresh
    · exact holds.each entry old

end Store

namespace Atlas

/-- Files among `visited` were scanned, and nothing else happened to the store. -/
structure Scans (visited : List String) (a b : Atlas) : Prop where
  index_eq : b.index = a.index
  cache_eq : b.cache = a.cache
  least_eq : b.least = a.least
  keeps : ∀ P : String → List ClassifiedUnit → Prop,
    (∀ path ∈ visited, ∀ rules text, P path (classifyText rules a.least path text)) →
      a.store.Holds P → b.store.Holds P

theorem Scans.trans {visited : List String} {a b c : Atlas} (first : Scans visited a b)
    (second : Scans visited b c) : Scans visited a c where
  index_eq := second.index_eq.trans first.index_eq
  cache_eq := second.cache_eq.trans first.cache_eq
  least_eq := second.least_eq.trans first.least_eq
  keeps P fresh holds :=
    second.keeps P (first.least_eq ▸ fresh) (first.keeps P fresh holds)

theorem Scans.mono {visited more : List String} {a b : Atlas} (scans : Scans visited a b)
    (subset : visited ⊆ more) : Scans more a b :=
  ⟨scans.index_eq, scans.cache_eq, scans.least_eq, fun P fresh =>
    scans.keeps P fun path member => fresh path (subset member)⟩

theorem nextGeneration_scans (a : Atlas) (visited : List String) :
    Scans visited a a.nextGeneration :=
  ⟨rfl, rfl, rfl, fun _ _ holds => holds⟩

theorem processText_scans (a : Atlas) (w : Workspace) (path text : String)
    (visited : List String) : Scans visited a (a.processText w path text).2 :=
  ⟨rfl, rfl, rfl, fun _ _ holds => holds⟩

theorem processText_ok (a : Atlas) (w : Workspace) (path text : String)
    (units : List ClassifiedUnit) (done : (a.processText w path text).1 = .ok units) :
    ∃ rules, units = classifyText rules a.least path text := by
  have mapped : (a.processText w path text).1 =
      (a.book.rules w).1.map fun rules => classifyText rules a.least path text := rfl
  rw [mapped] at done
  cases found : (a.book.rules w).1 with
  | error fault => simp [found, Except.map] at done
  | ok rules =>
    rw [found] at done
    exact ⟨rules, (Except.ok.inj done).symm⟩

theorem commit_scans (a : Atlas) (rules : RuleSet) (path text : String) (generation : Int) :
    Scans [path] a (a.commit path (classifyText rules a.least path text) generation).2 := by
  rw [commit]
  split
  · exact ⟨rfl, rfl, rfl, fun _ _ holds => holds⟩
  · refine ⟨rfl, rfl, rfl, ?_⟩
    intro P fresh holds
    exact holds.replace path _ (fresh path (List.mem_singleton_self path) rules text)

theorem scanText_scans (a : Atlas) (w : Workspace) (path text : String) :
    Scans [path] a (a.scanText w path text).2 := by
  have processed := processText_scans a w path text [path]
  rw [scanText]
  split
  next units b done =>
    rw [done] at processed
    obtain ⟨rules, rfl⟩ := processText_ok a w path text units (by rw [done])
    have counted := processed.trans (nextGeneration_scans b [path])
    have committed := commit_scans b.nextGeneration rules path text b.nextGeneration.generation
    rw [counted.least_eq] at committed
    exact counted.trans committed
  next fault b done =>
    rw [done] at processed
    exact processed

theorem processFile_scans (a : Atlas) (w : Workspace) (path : String) :
    Scans [path] a (a.processFile w path).2 := by
  rw [processFile]
  split
  next bytes _ => exact processText_scans a w path _ [path]
  next => exact ⟨rfl, rfl, rfl, fun _ _ holds => holds⟩

theorem processFile_ok (a : Atlas) (w : Workspace) (path : String) (units : List ClassifiedUnit)
    (done : (a.processFile w path).1 = .ok units) :
    ∃ rules text, units = classifyText rules a.least path text := by
  rw [processFile] at done
  split at done
  next bytes _ =>
    obtain ⟨rules, same⟩ := processText_ok a w path _ units done
    exact ⟨rules, _, same⟩
  next => simp at done

section

variable {holds : Atlas → Prop} {w : Workspace} {generation : Int}

-- A file of a scan is processed, and its units are committed if there are any.
theorem scanFile_keeps {a : Atlas} {path : String} (processed : holds (a.processFile w path).2)
    (committed : ∀ units, (a.processFile w path).1 = .ok units →
      holds ((a.processFile w path).2.commit path units generation).2) (s : ScanStats) :
    holds (scanFile w generation a s path).2 := by
  rw [scanFile]
  split
  next units b done =>
    rw [done] at committed
    have stored := committed units rfl
    split
    next c kept => rwa [kept] at stored
    next c stale => rwa [stale] at stored
  next problem place b done => rwa [done] at processed
  next fault b _ done => rwa [done] at processed

-- What each file of a scan keeps is kept by the scan, which may end early.
theorem scanEach_keeps {paths : List String}
    (keeps : ∀ path ∈ paths, ∀ a s, holds a → holds (scanFile w generation a s path).2) {a : Atlas}
    (start : holds a) (s : ScanStats) : holds (scanEach w generation paths a s).2 := by
  induction paths generalizing a s with
  | nil => exact start
  | cons path rest ih =>
    have first := keeps path List.mem_cons_self a s start
    rw [scanEach]
    split
    next s b done =>
      rw [done] at first
      exact ih (fun other later => keeps other (List.mem_cons_of_mem path later)) first s
    next fault b done => rwa [done] at first

end

theorem scanFile_scans (a : Atlas) (w : Workspace) (generation : Int) (s : ScanStats)
    (path : String) : Scans [path] a (scanFile w generation a s path).2 := by
  have processed := processFile_scans a w path
  refine scanFile_keeps processed (fun units done => ?_) s
  obtain ⟨rules, text, rfl⟩ := processFile_ok a w path units done
  have committed := commit_scans (a.processFile w path).2 rules path text generation
  rw [processed.least_eq] at committed
  exact processed.trans committed

theorem scanEach_scans (w : Workspace) (generation : Int) (paths : List String) (a : Atlas)
    (s : ScanStats) : Scans paths a (scanEach w generation paths a s).2 := by
  have unscanned : Scans paths a a := ⟨rfl, rfl, rfl, fun _ _ holds => holds⟩
  refine scanEach_keeps (fun path member b s scans => ?_) unscanned s
  have visited : [path] ⊆ paths := List.cons_subset.mpr ⟨member, List.nil_subset paths⟩
  exact scans.trans ((scanFile_scans b w generation s path).mono visited)

/-- What an atlas is asked to do. The files of a scan are read side by side, and `order` is the one in
which they were done. -/
inductive Action
  | scanText (w : Workspace) (path text : String)
  | scanFiles (w : Workspace) (paths order : List String)
      (done : order.Perm (Text.distinct paths))
  | clear
  | build

def Action.visited : Action → List String
  | .scanText _ path _ => [path]
  | .scanFiles _ _ order _ => order
  | .clear => []
  | .build => []

def act (a : Atlas) : Action → Atlas
  | .scanText w path text => (a.scanText w path text).2
  | .scanFiles w _ order _ =>
    let a := a.nextGeneration
    (scanEach w a.generation order a (.start order.length)).2
  | .clear => a.clear
  | .build => a.build.2

def run (a : Atlas) (actions : List Action) : Atlas :=
  actions.foldl act a

-- A scan of files takes them in the order in which they are given, each once.
theorem act_scan (a : Atlas) (w : Workspace) (paths : List String) :
    a.act (.scanFiles w paths (Text.distinct paths) (.refl _)) = (a.scan w paths).2 := rfl

/-- Records were stored, and nothing else was changed but the cache. -/
structure Stores (a b : Atlas) : Prop where
  store_eq : b.store = a.store
  least_eq : b.least = a.least
  serves : a.index.Serves b.index
  uncached : a.cache = none → b.cache = none

theorem Stores.trans {a b c : Atlas} (first : Stores a b) (second : Stores b c) : Stores a c :=
  ⟨second.store_eq.trans first.store_eq, second.least_eq.trans first.least_eq,
    first.serves.trans second.serves, fun none => second.uncached (first.uncached none)⟩

theorem addMissing_stores (a : Atlas) (keys : List (String × String))
    (missing : List ClassifiedUnit) : Stores a (a.addMissing keys missing).2 := by
  have serves := VectorIndex.add_serves a.index (missing.map (·.entry))
  rw [addMissing]
  split
  · exact ⟨rfl, rfl, .refl a.index, id⟩
  · split
    next fault index added =>
      rw [added] at serves
      exact ⟨rfl, rfl, serves, id⟩
    next stored index added =>
      rw [added] at serves
      exact ⟨rfl, rfl, serves, fun none => by simp [none]⟩

theorem addCached_stores (a : Atlas) (cached : List (ClassifiedUnit × Embedding)) :
    Stores a (a.addCached cached).2 := by
  have serves := VectorIndex.addPrecomputedFrom_serves 0 0 (cached.map cachedItem) a.index
  rw [addCached, VectorIndex.addPrecomputed]
  split
  next fault index added =>
    rw [added] at serves
    exact ⟨rfl, rfl, serves, id⟩
  next stored index added =>
    rw [added] at serves
    exact ⟨rfl, rfl, serves, id⟩

-- A build leaves the store as it was, and goes on with the same backend.
theorem build_stores (a : Atlas) : Stores a a.build.2 := by
  have emptied : Stores a a.emptied :=
    ⟨rfl, rfl, ⟨rfl, rfl⟩, fun none => by simp [Atlas.emptied, none]⟩
  have restored := emptied.trans (addCached_stores a.emptied a.found)
  rw [build_eq]
  split
  next fault b failed => rwa [failed] at restored
  next b done =>
    rw [done] at restored
    exact restored.trans (addMissing_stores b a.newKeys a.lacking)

/-- What no action changes. -/
structure Steady (a b : Atlas) : Prop where
  least_eq : b.least = a.least
  serves : a.index.Serves b.index
  uncached : a.cache = none → b.cache = none

theorem Scans.steady {visited : List String} {a b : Atlas} (scans : Scans visited a b) :
    Steady a b :=
  ⟨scans.least_eq, ⟨by rw [scans.index_eq], by rw [scans.index_eq]⟩, fun none =>
    scans.cache_eq.trans none⟩

theorem scanFiles_scans (a : Atlas) (w : Workspace) (paths order : List String)
    (done : order.Perm (Text.distinct paths)) :
    Scans order a (a.act (.scanFiles w paths order done)) :=
  (nextGeneration_scans a order).trans (scanEach_scans w _ order a.nextGeneration _)

theorem act_steady (a : Atlas) (action : Action) : Steady a (a.act action) := by
  cases action with
  | scanText w path text => exact (scanText_scans a w path text).steady
  | scanFiles w paths order done => exact (scanFiles_scans a w paths order done).steady
  | clear => exact ⟨rfl, ⟨rfl, rfl⟩, id⟩
  | build =>
    have stores := build_stores a
    exact ⟨stores.least_eq, stores.serves, stores.uncached⟩

theorem act_holds (a : Atlas) (action : Action) (P : String → List ClassifiedUnit → Prop)
    (fresh : ∀ path ∈ action.visited, ∀ rules text, P path (classifyText rules a.least path text))
    (holds : a.store.Holds P) : (a.act action).store.Holds P := by
  cases action with
  | scanText w path text => exact (scanText_scans a w path text).keeps P fresh holds
  | scanFiles w paths order done => exact (scanFiles_scans a w paths order done).keeps P fresh holds
  | clear => exact Store.holds_empty
  | build => exact (build_stores a).store_eq ▸ holds

theorem act_build_store (a : Atlas) : (a.act .build).store = a.store :=
  (build_stores a).store_eq

theorem run_steady (a : Atlas) (actions : List Action) : Steady a (a.run actions) := by
  induction actions generalizing a with
  | nil => exact ⟨rfl, .refl a.index, id⟩
  | cons action rest ih =>
    have first := act_steady a action
    have later := ih (a.act action)
    exact ⟨later.least_eq.trans first.least_eq, first.serves.trans later.serves, fun none =>
      later.uncached (first.uncached none)⟩

-- What holds of the units of each text that was scanned holds of each file in the store.
theorem run_holds (a : Atlas) (actions : List Action) (P : String → List ClassifiedUnit → Prop)
    (fresh : ∀ action ∈ actions, ∀ path ∈ action.visited, ∀ rules text,
      P path (classifyText rules a.least path text))
    (holds : a.store.Holds P) : (a.run actions).store.Holds P := by
  induction actions generalizing a with
  | nil => exact holds
  | cons action rest ih =>
    refine ih (a.act action) ?_ (act_holds a action P (fresh action (by simp)) holds)
    rw [(act_steady a action).least_eq]
    exact fun other member => fresh other (List.mem_cons_of_mem action member)

end Atlas

end CodeAtlas
