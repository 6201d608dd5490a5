import CodeAtlas.Proofs.Atlas.WriteBack
import CodeAtlas.Proofs.Index.Ranking

set_option autoImplicit false

/-! An atlas with a cache beside one without, through the same run: they hold the same units and the same
records, but those that come from the cache stand first. -/

namespace CodeAtlas

open CodeAtlas.Classify CodeAtlas.Embedding CodeAtlas.Files CodeAtlas.Index CodeAtlas.Source

namespace Index.VectorIndex

variable {f : String → Option Embedding}

theorem Draws.settled {ix : VectorIndex} (draws : ix.Draws f) : ix.Settled := by
  cases draws with
  | embeds embeds positive => exact .inl embeds.usable
  | idle idle => exact idle.imp And.left And.left

-- A backend that cannot be used stores nothing, and neither does one without a size of batches.
theorem draws_empty {backend : Backend} (answers : backend.Answers f) (batchSize : Int) :
    ∃ g, (empty backend batchSize).Draws g ∧
      ∀ text vector, g text = some vector → f text = some vector := by
  have idle (idle : (empty backend batchSize).Idle) :
      ∃ g, (empty backend batchSize).Draws g ∧
        ∀ text vector, g text = some vector → f text = some vector :=
    ⟨_, .idle idle, fun text vector value => by simp at value⟩
  by_cases clear : backend.obstacle = none
  · by_cases positive : 0 < batchSize
    · exact ⟨f, .embeds (answers.embeds clear) positive, fun _ _ => id⟩
    · exact idle (.inl ⟨clear, Int.not_lt.mp positive⟩)
  · exact idle (.inr ⟨rfl, clear⟩)

end Index.VectorIndex

namespace Atlas

/-- The atlas with another index and another cache. -/
def placed (a : Atlas) (index : VectorIndex) (cache : Option Cache) : Atlas :=
  { a with index := index, cache := cache }

section

variable {a b : Atlas} {index : VectorIndex} {cache : Option Cache}

theorem placed_alike (a : Atlas) (index : VectorIndex) (cache : Option Cache) :
    Alike a (a.placed index cache) :=
  ⟨rfl, rfl, rfl, rfl, rfl⟩

theorem Alike.eq_placed (alike : Alike a b) : b = a.placed b.index b.cache := by
  obtain ⟨book, store, least, generations, generation⟩ := alike
  rw [placed, ← book, ← store, ← least, ← generations, ← generation]

theorem commit_placed (path : String) (units : List ClassifiedUnit) (generation : Int) :
    (a.placed index cache).commit path units generation =
      ((a.commit path units generation).1, (a.commit path units generation).2.placed index cache) := by
  have same : (a.placed index cache).generationOf path = a.generationOf path := rfl
  rw [commit, commit, same]
  split <;> rfl

theorem processText_placed (w : Workspace) (path text : String) :
    (a.placed index cache).processText w path text =
      ((a.processText w path text).1, (a.processText w path text).2.placed index cache) := rfl

theorem scanText_placed (w : Workspace) (path text : String) :
    (a.placed index cache).scanText w path text =
      ((a.scanText w path text).1, (a.scanText w path text).2.placed index cache) := by
  rw [scanText, scanText, processText_placed]
  cases a.processText w path text with
  | mk outcome b =>
    cases outcome with
    | error fault => rfl
    | ok units =>
      have counted : (b.placed index cache).nextGeneration =
          b.nextGeneration.placed index cache := rfl
      simp only [counted, commit_placed]
      rfl

theorem processFile_placed (w : Workspace) (path : String) :
    (a.placed index cache).processFile w path =
      ((a.processFile w path).1, (a.processFile w path).2.placed index cache) := by
  rw [processFile, processFile]
  split <;> rfl

theorem scanFile_placed (w : Workspace) (generation : Int) (s : ScanStats) (path : String) :
    scanFile w generation (a.placed index cache) s path =
      ((scanFile w generation a s path).1, (scanFile w generation a s path).2.placed index cache) := by
  rw [scanFile, scanFile, processFile_placed]
  cases a.processFile w path with
  | mk outcome b =>
    cases outcome with
    | ok units =>
      simp only [commit_placed]
      cases b.commit path units generation with
      | mk newer c => cases newer <;> rfl
    | error fault => cases fault <;> rfl

theorem scanEach_placed (w : Workspace) (generation : Int) (paths : List String) (a : Atlas)
    (s : ScanStats) : scanEach w generation paths (a.placed index cache) s =
      ((scanEach w generation paths a s).1,
        (scanEach w generation paths a s).2.placed index cache) := by
  induction paths generalizing a s with
  | nil => rfl
  | cons path rest ih =>
    rw [scanEach, scanEach, scanFile_placed]
    cases scanFile w generation a s path with
    | mk outcome b =>
      cases outcome with
      | ok s => exact ih b s
      | error fault => rfl

-- Scans go the same way, whatever is in the index and the cache.
theorem scanText_alike (alike : Alike a b) (w : Workspace) (path text : String) :
    Alike (a.act (.scanText w path text)) (b.act (.scanText w path text)) := by
  rw [alike.eq_placed, act, act, scanText_placed]
  exact placed_alike _ _ _

theorem scanFiles_alike (alike : Alike a b) (w : Workspace) (paths order : List String)
    (done : order.Perm (Text.distinct paths)) :
    Alike (a.act (.scanFiles w paths order done)) (b.act (.scanFiles w paths order done)) := by
  rw [alike.eq_placed]
  have whole : (a.placed b.index b.cache).act (.scanFiles w paths order done) =
      (a.act (.scanFiles w paths order done)).placed b.index b.cache :=
    congrArg Prod.snd (scanEach_placed w _ order a.nextGeneration _)
  rw [whole]
  exact placed_alike _ _ _

end

/-- The identities of units that a build restores from the cache. -/
def restoredIds (a : Atlas) : List String :=
  a.restoredUnits.map heldId

/-- Records of these identities, then all others. -/
def broughtForward (ids : List String) (records : List (String × Stored)) :
    List (String × Stored) :=
  records.filter (fun record => ids.contains record.1) ++
    records.filter fun record => !ids.contains record.1

theorem broughtForward_perm (ids : List String) (records : List (String × Stored)) :
    (broughtForward ids records).Perm records :=
  List.filter_append_perm _ records

theorem held_filter {g : ClassifiedUnit → Option Embedding} {units : List ClassifiedUnit}
    {chosen : ClassifiedUnit → Bool} {goes : String × Stored → Bool}
    (same : ∀ u ∈ units, ∀ stored, goes (heldId u, stored) = chosen u) :
    (held g units).filter goes = held g (units.filter chosen) := by
  rw [held, held, List.filter_filterMap, List.filterMap_filter]
  refine List.filterMap_congr fun u member => ?_
  rw [heldRecord?]
  cases g u with
  | none => simp
  | some vector => simp [Option.filter, same u member]

theorem held_broughtForward {g : ClassifiedUnit → Option Embedding} {units : List ClassifiedUnit}
    (apart : (units.map heldId).Nodup) (chosen : ClassifiedUnit → Bool) :
    broughtForward ((units.filter chosen).map heldId) (held g units) =
      held g (units.filter chosen) ++ held g (units.filter fun u => !chosen u) := by
  have same (u : ClassifiedUnit) (member : u ∈ units) :
      ((units.filter chosen).map heldId).contains (heldId u) = chosen u := by
    rw [Bool.eq_iff_iff, List.contains_iff_mem, List.mem_map]
    constructor
    · rintro ⟨v, inside, equal⟩
      obtain ⟨other, holds⟩ := List.mem_filter.mp inside
      obtain rfl := List.inj_on_of_nodup_map apart other member equal
      exact holds
    · exact fun holds => ⟨u, List.mem_filter.mpr ⟨member, holds⟩, rfl⟩
  rw [broughtForward, held_filter fun u member _ => same u member,
    held_filter fun u member _ => congrArg (!·) (same u member)]

theorem held_objects (g : ClassifiedUnit → Option Embedding) (units : List ClassifiedUnit) :
    Objects (held g units) := by
  intro record member
  obtain ⟨u, -, found⟩ := List.mem_filterMap.mp member
  obtain ⟨vector, -, rfl⟩ := Option.map_eq_some_iff.mp found
  exact ⟨_, rfl⟩

/-- Atlases after the same run, one without a cache and one that may have one. -/
structure Twins (f : String → Option Embedding) (model : String) (texts : Set String)
    (plain cached : Atlas) : Prop where
  alike : Alike plain cached
  uncached : plain.cache = none
  backend_eq : cached.index.backend = plain.index.backend
  first : Trusting f model texts plain
  second : Trusting f model texts cached
  perm : plain.index.records.Perm cached.index.records
  objects : Objects plain.index.records

namespace Twins

variable {f : String → Option Embedding} {model : String} {texts : Set String}
  {plain cached : Atlas}

theorem plain_records (twins : Twins f model texts plain cached)
    (apart : texts.InjOn (cacheKey model))
    (filled : ∀ text vector, f text = some vector → vector.Filled)
    (inPlay : ∀ u ∈ plain.store.all, u.searchText ∈ texts) (led : Led plain.store.all) :
    plain.build.2.index.records = held (fun u => f u.searchText) plain.store.all := by
  have filed := twins.first.filed
  have none : plain.restoredUnits = [] := by
    rw [restoredUnits, List.filter_eq_nil_iff]
    intro u _
    rw [kept?_uncached twins.uncached]
    exact Bool.false_ne_true
  rw [build_records plain (twins.first.shaped apart filled inPlay) twins.first.restored_draws.fills
    (led.fixed filed.plain) (heldIds_nodup led filed.plain filed.ids_nodup), none,
    lacking_uncached twins.uncached]
  exact held_congr fun u member => twins.first.recorded_eq apart filled (inPlay u member)

-- A build with the cache brings forward what it has restored.
theorem build_records (twins : Twins f model texts plain cached)
    (apart : texts.InjOn (cacheKey model))
    (filled : ∀ text vector, f text = some vector → vector.Filled)
    (inPlay : ∀ u ∈ plain.store.all, u.searchText ∈ texts) (led : Led plain.store.all) :
    cached.build.2.index.records =
      broughtForward cached.restoredIds plain.build.2.index.records := by
  have store := twins.alike.store_eq
  have filed := twins.second.filed
  have units : ∀ u ∈ cached.store.all, u.searchText ∈ texts := store ▸ inPlay
  have front : Led cached.store.all := store ▸ led
  have ids := heldIds_nodup front filed.plain filed.ids_nodup
  have right {part : List ClassifiedUnit} (sub : part.Sublist cached.store.all) :
      held (cached.recorded f) part = held (fun u => f u.searchText) part :=
    held_congr fun u member => twins.second.recorded_eq apart filled (units u (sub.subset member))
  have other : cached.lacking = cached.store.all.filter fun u => !(cached.kept? u).isSome :=
    List.filter_congr fun u _ => by simp
  rw [twins.plain_records apart filled inPlay led, ← store, restoredIds, restoredUnits,
    held_broughtForward ids, ← right List.filter_sublist, ← right List.filter_sublist, ← other]
  exact Atlas.build_records cached (twins.second.shaped apart filled units)
    twins.second.restored_draws.fills (front.fixed filed.plain) ids

theorem build (twins : Twins f model texts plain cached) (apart : texts.InjOn (cacheKey model))
    (filled : ∀ text vector, f text = some vector → vector.Filled)
    (inPlay : ∀ u ∈ plain.store.all, u.searchText ∈ texts) (led : Led plain.store.all) :
    Twins f model texts plain.build.2 cached.build.2 where
  alike := by
    have store := twins.alike.store_eq
    obtain ⟨book, same, least, generations, generation⟩ := build_alike plain
    have later := twins.alike.trans (build_alike cached)
    exact ⟨later.book_eq.trans book.symm, later.store_eq.trans same.symm,
      later.least_eq.trans least.symm, later.generations_eq.trans generations.symm,
      later.generation_eq.trans generation.symm⟩
  uncached := (build_stores plain).uncached twins.uncached
  backend_eq := by
    rw [(build_stores cached).serves.1, (build_stores plain).serves.1, twins.backend_eq]
  first := twins.first.build apart filled inPlay led.lone
  second := by
    have store := twins.alike.store_eq
    exact twins.second.build apart filled (store ▸ inPlay) (store ▸ led.lone)
  perm := by
    rw [twins.build_records apart filled inPlay led]
    exact (broughtForward_perm _ _).symm
  objects := by
    rw [twins.plain_records apart filled inPlay led]
    exact held_objects _ _

theorem scan (twins : Twins f model texts plain cached) {visited : List String} {a b : Atlas}
    (alike : Alike a b) (one : Scans visited plain a) (other : Scans visited cached b)
    (first : Trusting f model texts a) (second : Trusting f model texts b) :
    Twins f model texts a b where
  alike := alike
  uncached := one.cache_eq.trans twins.uncached
  backend_eq := by rw [one.index_eq, other.index_eq, twins.backend_eq]
  first := first
  second := second
  perm := by
    rw [one.index_eq, other.index_eq]
    exact twins.perm
  objects := one.index_eq ▸ twins.objects

theorem act (twins : Twins f model texts plain cached) (apart : texts.InjOn (cacheKey model))
    (filled : ∀ text vector, f text = some vector → vector.Filled) (action : Action)
    (ready : action = .build →
      (∀ u ∈ plain.store.all, u.searchText ∈ texts) ∧ Led plain.store.all) :
    Twins f model texts (plain.act action) (cached.act action) := by
  have store := twins.alike.store_eq
  have first := twins.first.act apart filled action fun same => ⟨(ready same).2.lone, (ready same).1⟩
  have second := twins.second.act apart filled action fun same =>
    store ▸ ⟨(ready same).2.lone, (ready same).1⟩
  cases action with
  | scanText w path text =>
    exact twins.scan (scanText_alike twins.alike w path text) (scanText_scans plain w path text)
      (scanText_scans cached w path text) first second
  | scanFiles w paths order done =>
    exact twins.scan (scanFiles_alike twins.alike w paths order done)
      (scanFiles_scans plain w paths order done) (scanFiles_scans cached w paths order done)
      first second
  | clear =>
    obtain ⟨book, -, least, -, generation⟩ := twins.alike
    exact ⟨⟨book, rfl, least, rfl, generation⟩, twins.uncached, twins.backend_eq, first, second,
      .refl _, fun record member => absurd member List.not_mem_nil⟩
  | build =>
    obtain ⟨inPlay, led⟩ := ready rfl
    exact twins.build apart filled inPlay led

theorem run (twins : Twins f model texts plain cached) (apart : texts.InjOn (cacheKey model))
    (filled : ∀ text vector, f text = some vector → vector.Filled) (actions : List Action)
    (inPlay : AtBuilds (fun units => ∀ u ∈ units, u.searchText ∈ texts) plain actions)
    (led : AtBuilds Led plain actions) :
    Twins f model texts (plain.run actions) (cached.run actions) := by
  induction actions generalizing plain cached with
  | nil => exact twins
  | cons action rest ih =>
    refine ih (twins.act apart filled action ?_) inPlay.tail led.tail
    rintro rfl
    exact ⟨inPlay.head, led.head⟩

theorem search (twins : Twins f model texts plain cached) (text : String) (limit : Int)
    (least : Float) (type : String) : Agree limit.toNat
      (plain.index.search text limit least type).1
      (cached.index.search text limit least type).1 := by
  simp only [VectorIndex.search]
  exact VectorIndex.find_agree twins.backend_eq twins.first.draws.settled
    twins.second.draws.settled twins.perm twins.objects ⟨text, limit, least, _⟩

end Twins

section

variable {f : String → Option Embedding} {texts : Set String}

theorem twins_empty (book : Rules.RuleBook) (least : Int) {backend : Backend} {batchSize : Int}
    (draws : (VectorIndex.empty backend batchSize).Draws f) :
    Twins f backend.model texts (empty book (.empty backend batchSize) none least)
      (empty book (.empty backend batchSize) (some .empty) least) where
  alike := ⟨rfl, rfl, rfl, rfl, rfl⟩
  uncached := rfl
  backend_eq := rfl
  first := trusting_empty draws fun cache same => by simp at same
  second := trusting_empty draws fun cache same => Option.some.inj same ▸ sound_empty
  perm := .refl _
  objects := fun record member => absurd member List.not_mem_nil

-- Two atlases answer each search alike after the same run, whether they have a cache or not, but for hits
-- of one score: what a build restores from the cache it stores first.
theorem run_agrees (book : Rules.RuleBook) (backend : Backend) (batchSize least : Int)
    (actions : List Action) (answers : backend.Answers f)
    (filled : ∀ text vector, f text = some vector → vector.Filled)
    (apart : texts.InjOn (cacheKey backend.model))
    (inPlay : AtBuilds (fun units => ∀ u ∈ units, u.searchText ∈ texts)
      (empty book (.empty backend batchSize) none least) actions)
    (led : AtBuilds Led (empty book (.empty backend batchSize) none least) actions) :
    let plain := empty book (.empty backend batchSize) none least
    let cached := empty book (.empty backend batchSize) (some .empty) least
    (∀ text limit floor type, Agree limit.toNat
      ((plain.run actions).index.search text limit floor type).1
      ((cached.run actions).index.search text limit floor type).1) ∧
    ∀ prior, prior ++ [.build] <+: actions → (cached.run prior).build.2.index.records =
      broughtForward (cached.run prior).restoredIds (plain.run prior).build.2.index.records := by
  intro plain cached
  obtain ⟨g, draws, within⟩ := VectorIndex.draws_empty answers batchSize
  have full : ∀ text vector, g text = some vector → vector.Filled := fun text vector value =>
    filled text vector (within text vector value)
  have start : Twins g backend.model texts plain cached := twins_empty book least draws
  constructor
  · exact (start.run apart full actions inPlay led).search
  · intro prior before
    have earlier : prior <+: actions := (List.prefix_append prior [.build]).trans before
    have twins := start.run apart full prior (fun first inside => inPlay first (inside.trans earlier))
      fun first inside => led first (inside.trans earlier)
    exact twins.build_records apart full (inPlay prior before) (led prior before)

end

theorem twice_once (cache : Option Cache) :
    ((empty (.ofPath "") (.empty (.hashing 384) 32) cache 10).act
      (.scanText .empty "a.ts" twiceText)).store.all = twiceUnits :=
  List.append_nil _

-- The second build restores with the cache what it embeds again without.
theorem run_agrees_twice :
    let plain := (empty (.ofPath "") (.empty (.hashing 384) 32) none 10).run
      [.scanText .empty "a.ts" twiceText, .build, .build]
    let cached := (empty (.ofPath "") (.empty (.hashing 384) 32) (some .empty) 10).run
      [.scanText .empty "a.ts" twiceText, .build, .build]
    plain.store.size = 1 ∧ ∀ text limit floor type, Agree limit.toNat
      (plain.index.search text limit floor type).1 (cached.index.search text limit floor type).1 := by
  let scanned := (empty (.ofPath "") (.empty (.hashing 384) 32) none 10).act
    (.scanText .empty "a.ts" twiceText)
  have again : (scanned.act .build).store = scanned.store := act_build_store scanned
  have inPlay : ∀ u ∈ scanned.store.all, u.searchText ∈ twiceTexts := fun u member =>
    ⟨u, twice_once none ▸ member, rfl⟩
  have led : Led scanned.store.all := by
    obtain ⟨u, only⟩ := List.length_eq_one_iff.mp twiceUnits_length
    rw [twice_once, only]
    exact fun v member => absurd member List.not_mem_nil
  have searched := run_agrees (.ofPath "") (.hashing 384) 32 10
    [.scanText .empty "a.ts" twiceText, .build, .build] (hashing_embeds 384).answers
    hashed_filled twiceTexts_apart
    (.cons nofun (.cons (fun _ => inPlay) (.cons (fun _ => again ▸ inPlay) .nil)))
    (.cons nofun (.cons (fun _ => led) (.cons (fun _ => again ▸ led) .nil)))
  refine ⟨?_, searched.1⟩
  simp only [run, List.foldl_cons, List.foldl_nil, act_build_store]
  rw [Store.size, twice_once, twiceUnits_length]

theorem Scans.kept?_eq {visited : List String} {a b : Atlas} (scans : Scans visited a b)
    (u : ClassifiedUnit) : b.kept? u = a.kept? u := by
  rw [kept?, kept?, scans.cache_eq, scans.index_eq]

theorem clear_alike {a b : Atlas} (alike : Alike a b) : Alike a.clear b.clear :=
  ⟨alike.book_eq, rfl, alike.least_eq, rfl, alike.generation_eq⟩

def staleText : String :=
  "let f=()=>1"

theorem staleText_spans : spans 10 staleText.toList =
    [⟨0, 11, .arrow, "f", "let f=()=>".toList⟩] := by
  have found : declarationShapes.foldl (addShape 10 staleText.toList) [] =
      [⟨0, 11, .arrow, "f", "let f=()=>".toList⟩] := by
    decide +kernel
  rw [spans, found, List.mergeSort_singleton]

theorem staleText_first : (classifyText plainRules 10 "a" staleText).map (·.searchText) =
    ["let f=()=>1 | Type: P | Purpose: P | Files: a"] := by
  rw [classifyText, extract]
  simp only [staleText_spans]
  decide +kernel

theorem staleText_second : (classifyText plainRules 10 "b" staleText).map (·.searchText) =
    ["let f=()=>1 | Type: P | Purpose: P | Files: b"] := by
  rw [classifyText, extract]
  simp only [staleText_spans]
  decide +kernel

theorem staleText_keys : cacheKey "measuring" "let f=()=>1 | Type: P | Purpose: P | Files: a" ≠
    cacheKey "measuring" "let f=()=>1 | Type: P | Purpose: P | Files: b" := by
  decide +kernel

def staleStart (cache : Option Cache) : Atlas :=
  empty ⟨none, some plainRules, 1, none⟩ (.empty measuring 32) cache 10

-- One of two files is scanned and built first, and both are scanned again after a clearing.
def staleActions : List Action :=
  [.scanText .empty "b" staleText, .build, .clear, .scanText .empty "a" staleText,
    .scanText .empty "b" staleText]

theorem stale_scanned (cache : Option Cache) :
    ((staleStart cache).act (.scanText .empty "b" staleText)).store.all =
      classifyText plainRules 10 "b" staleText :=
  List.append_nil _

theorem stale_units (cache : Option Cache) : ((staleStart cache).run staleActions).store.all =
    classifyText plainRules 10 "a" staleText ++ classifyText plainRules 10 "b" staleText := by
  have alike := clear_alike
    (build_alike ((staleStart cache).act (.scanText .empty "b" staleText)))
  have scanned := scanText_alike (scanText_alike alike .empty "a" staleText) .empty "b" staleText
  exact (congrArg Store.all scanned.store_eq).trans (congrArg _ (List.append_nil _))

theorem stale_kept (cache : Option Cache) (u : ClassifiedUnit) :
    ((staleStart cache).run staleActions).kept? u =
      ((staleStart cache).act (.scanText .empty "b" staleText)).build.2.kept? u := by
  let built := ((staleStart cache).act (.scanText .empty "b" staleText)).build.2
  have first := scanText_scans built.clear .empty "a" staleText
  have second := scanText_scans (built.clear.act (.scanText .empty "a" staleText)) .empty "b"
    staleText
  exact (second.kept?_eq u).trans (first.kept?_eq u)

-- The backend by which the lengths of texts are measured.
def measure (text : String) : Option Embedding :=
  some (.ofList [Float32.ofNat text.length])

theorem measure_filled (text : String) (vector : Embedding) (value : measure text = some vector) :
    vector.Filled := by
  obtain rfl := Option.some.inj value
  exact ⟨0, [], rfl⟩

-- All records are as far from an empty query.
theorem search_measured {ix : VectorIndex} (same : ix.backend = measuring) :
    (ix.search "" 5 0 "").1 = .ok ((ix.records.take 5).map fun record => hitOf (record, 0)) := by
  have settled : ix.Settled := .inl (by rw [same]; rfl)
  have usable : ix.backend.initialize? = .ok () := by
    rw [same]
    rfl
  have asked : ({ ix with ready := true } : VectorIndex).askOne "" =
      (.ok (.ofList [Float32.ofNat 0]), 1) := by
    simp only [VectorIndex.askOne, VectorIndex.ask, same]
    rfl
  have flat : ((Embedding.ofList [Float32.ofNat 0]).norm == 0) = true := by decide +kernel
  let similarity (stored : Stored) : Float :=
    (Embedding.ofList [Float32.ofNat 0]).cosine stored.vector
  have level : ∀ record ∈ ix.records, similarity record.2 = 0 := by
    intro record _
    simp [similarity, Embedding.cosine, flat]
  have reaches : floatLe 0 0 = true := by decide +kernel
  rw [← rank_level level reaches 5]
  simp only [VectorIndex.search, VectorIndex.find, settled.prepare_eq, usable, Except.map, asked]
  simp [kept_all, bind, Except.bind, pure, Except.pure, similarity]

theorem measuring_draws : (VectorIndex.empty measuring 32).Draws measure :=
  .embeds measuring_embeds (by decide)

section

variable {u v : ClassifiedUnit} {texts : Set String}

theorem stale_trusting (texts : Set String) (apart : texts.InjOn (cacheKey "measuring")) :
    Trusting measure "measuring" texts
      ((staleStart (some .empty)).act (.scanText .empty "b" staleText)) := by
  have start : Trusting measure "measuring" texts (staleStart (some .empty)) :=
    trusting_empty measuring_draws fun cache same => Option.some.inj same ▸ sound_empty
  exact start.act apart measure_filled (.scanText .empty "b" staleText) nofun

theorem led_single (u : ClassifiedUnit) : Led [u] :=
  fun _ member => absurd member List.not_mem_nil

-- The unit that was built first is restored, and the other one is not.
theorem stale_restored (first : classifyText plainRules 10 "a" staleText = [u])
    (second : classifyText plainRules 10 "b" staleText = [v]) :
    ((staleStart (some .empty)).run staleActions).restoredUnits = [v] := by
  let scanned := (staleStart (some .empty)).act (.scanText .empty "b" staleText)
  have single : scanned.store.all = [v] := (stale_scanned _).trans second
  have apart : Set.InjOn (cacheKey "measuring") {v.searchText} := Set.injOn_singleton _ _
  have inPlay : ∀ w ∈ scanned.store.all, w.searchText ∈ ({v.searchText} : Set String) := by
    intro w member
    rw [single, List.mem_singleton] at member
    rw [member]
    exact Set.mem_singleton _
  have led : Led scanned.store.all := single ▸ led_single v
  have trusting := stale_trusting {v.searchText} apart
  have kept : scanned.build.2.kept? v = measure v.searchText :=
    trusting.build_keeps apart measure_filled inPlay led rfl measuring_embeds (by decide)
      (by rw [single]; simp)
  have lacks : scanned.build.2.kept? u = none := by
    have built := trusting.build apart measure_filled inPlay led.lone
    have texts := staleText_first
    have others := staleText_second
    rw [first, List.map_singleton, List.singleton_inj] at texts
    rw [second, List.map_singleton, List.singleton_inj] at others
    rw [Option.eq_none_iff_forall_ne_some]
    intro vector found
    obtain ⟨cache, cached⟩ := Option.isSome_iff_exists.mp ((build_isSome scanned).trans rfl)
    rw [kept?_cached cached, built.model_eq, Cache.vector?_eq_some] at found
    obtain ⟨text, rfl, same, -⟩ := built.sound cache cached _ _ found
    rw [unitKey, texts, others] at same
    exact staleText_keys same
  rw [restoredUnits, stale_units, first, second]
  simp [stale_kept, lacks, kept, measure, scanned]

theorem stale_twins (second : classifyText plainRules 10 "b" staleText = [v])
    (apart : texts.InjOn (cacheKey "measuring")) (inPlay : v.searchText ∈ texts) :
    Twins measure "measuring" texts ((staleStart none).run staleActions)
      ((staleStart (some .empty)).run staleActions) := by
  have start : Twins measure "measuring" texts (staleStart none) (staleStart (some .empty)) :=
    twins_empty _ _ measuring_draws
  have scanned := start.act apart measure_filled (.scanText .empty "b" staleText) nofun
  have single := (stale_scanned none).trans second
  have built := scanned.build apart measure_filled
    (by
      rw [single]
      exact fun w member => List.mem_singleton.mp member ▸ inPlay)
    (by
      rw [single]
      exact led_single v)
  have cleared := built.act apart measure_filled .clear nofun
  exact (cleared.act apart measure_filled (.scanText .empty "a" staleText) nofun).act apart
    measure_filled (.scanText .empty "b" staleText) nofun

-- What was scanned first is stored first without a cache, and last with one.
theorem stale_records (first : classifyText plainRules 10 "a" staleText = [u])
    (second : classifyText plainRules 10 "b" staleText = [v]) :
    heldId u ≠ heldId v ∧
      ((staleStart none).run staleActions).build.2.index.records.map (·.1) =
        [heldId u, heldId v] ∧
      ((staleStart (some .empty)).run staleActions).build.2.index.records.map (·.1) =
        [heldId v, heldId u] := by
  have apart : Set.InjOn (cacheKey "measuring") {u.searchText, v.searchText} := by
    have one := staleText_first
    have other := staleText_second
    rw [first, List.map_singleton, List.singleton_inj] at one
    rw [second, List.map_singleton, List.singleton_inj] at other
    refine (Set.injOn_pair ..).mpr fun same => ?_
    rw [one, other] at same
    exact absurd same staleText_keys
  have twins := stale_twins second apart (.inr rfl)
  have units : ((staleStart none).run staleActions).store.all = [u, v] := by
    rw [stale_units, first, second]
    rfl
  have inPlay : ∀ w ∈ ((staleStart none).run staleActions).store.all,
      w.searchText ∈ ({u.searchText, v.searchText} : Set String) := by
    rw [units]
    simp
  have led : Led ((staleStart none).run staleActions).store.all := by
    have here := (classifyText_filed plainRules 10 "b" staleText).here v (by simp [second])
    rw [units]
    intro w member
    rw [List.mem_singleton.mp member, here]
    decide
  have filed := twins.first.filed
  have ids := heldIds_nodup led filed.plain filed.ids_nodup
  have differ : heldId u ≠ heldId v := by simpa [units] using ids
  have plain := twins.plain_records apart measure_filled inPlay led
  have cached := twins.build_records apart measure_filled inPlay led
  rw [restoredIds, stale_restored first second] at cached
  refine ⟨differ, ?_, ?_⟩
  · rw [plain, units]
    rfl
  · rw [cached, plain, units]
    simp [broughtForward, held, heldRecord?, measure, differ]

end

-- Two files that are as far from a query come in one order without a cache, in the other one with it.
theorem run_agrees_tied :
    let plain := ((staleStart none).run staleActions).build.2.index
    let cached := ((staleStart (some .empty)).run staleActions).build.2.index
    (plain.search "" 5 0 "").1.map (·.map (·.id)) ≠
      (cached.search "" 5 0 "").1.map (·.map (·.id)) := by
  intro plain cached
  obtain ⟨u, first, -⟩ := List.map_eq_singleton_iff.mp staleText_first
  obtain ⟨v, second, -⟩ := List.map_eq_singleton_iff.mp staleText_second
  obtain ⟨differ, here, there⟩ := stale_records first second
  have shown {ix : VectorIndex} (same : ix.backend = measuring) {ids : List String}
      (known : ix.records.map (·.1) = ids) :
      (ix.search "" 5 0 "").1.map (·.map (·.id)) = .ok (ids.take 5) := by
    rw [search_measured same, ← known, ← List.map_take]
    simp only [Except.map, List.map_map]
    rfl
  have backend (cache : Option Cache) :
      ((staleStart cache).run staleActions).build.2.index.backend = measuring :=
    ((run_steady (staleStart cache) staleActions).serves.trans (build_stores _).serves).1
  rw [shown (backend none) here, shown (backend (some .empty)) there]
  intro same
  exact differ (List.cons.inj (Except.ok.inj same)).1

end Atlas

end CodeAtlas
