import CodeAtlas.Proofs.Atlas.Recording

set_option autoImplicit false

/-! What builds write to the cache. An embedding is written under the key of the unit that it is looked up
for, and units without a path are all looked up in one place. -/

namespace CodeAtlas

open CodeAtlas.Classify CodeAtlas.Embedding CodeAtlas.Index CodeAtlas.Source

namespace Index.VectorIndex

variable {f : String → Option Embedding} {ix : VectorIndex}

/-- Nothing can be stored, for want of a size of batches or of a backend. -/
def Idle (ix : VectorIndex) : Prop :=
  ix.backend.obstacle = none ∧ ix.batchSize ≤ 0 ∨ ix.ready = false ∧ ix.backend.obstacle ≠ none

theorem Idle.add (idle : ix.Idle) (entries : List Entry) :
    (ix.add entries).2.records = ix.records ∧ (ix.add entries).2.Idle := by
  rcases idle with ⟨clear, none⟩ | ⟨unready, obstacle⟩
  · have added : (ix.add entries).2 = { ix with ready := true } := by
      simp only [VectorIndex.add, prepare_usable (.inr clear)]
      split
      · rfl
      next sized =>
        have less : ix.batchSize < 0 := by
          rw [beq_iff_eq] at sized
          omega
        rw [if_pos less]
    rw [added]
    exact ⟨rfl, .inl ⟨clear, none⟩⟩
  · obtain ⟨problem, known⟩ := Option.ne_none_iff_exists'.mp obstacle
    rw [add_unusable ix unready known]
    exact ⟨rfl, .inr ⟨unready, obstacle⟩⟩

/-- Storing takes its embeddings from `f`, now and later. -/
inductive Draws (ix : VectorIndex) : (String → Option Embedding) → Prop
  | embeds {f : String → Option Embedding} (embeds : ix.backend.Embeds f)
      (positive : 0 < ix.batchSize) : Draws ix f
  | idle (idle : ix.Idle) : Draws ix fun _ => none

theorem recordsOf_none (position : Nat) (entries : List Entry) :
    recordsOf (fun _ => none) position entries = [] := by
  induction entries generalizing position with
  | nil => rfl
  | cons entry rest ih =>
    rw [recordsOf, Option.bind_fun_none]
    exact ih (position + 1)

theorem Draws.fills (draws : ix.Draws f) : ix.Fills f := by
  cases draws with
  | embeds embeds positive => exact embeds.fills positive
  | idle idle =>
    intro units
    rw [recordsOf_none]
    exact (idle.add _).1

theorem Draws.add (draws : ix.Draws f) (entries : List Entry) : (ix.add entries).2.Draws f := by
  have serves := add_serves ix entries
  cases draws with
  | embeds embeds positive =>
    refine .embeds ?_ ?_
    · rw [serves.1]
      exact embeds
    · rw [serves.2]
      exact positive
  | idle idle => exact .idle (idle.add entries).2

theorem Draws.withRecords (draws : ix.Draws f) (records : List (String × Stored)) (embedded : Nat) :
    (ix.withRecords records embedded).Draws f := by
  cases draws with
  | embeds embeds positive => exact .embeds embeds positive
  | idle idle => exact .idle idle

theorem Draws.clear (draws : ix.Draws f) : ix.clear.Draws f := by
  cases draws with
  | embeds embeds positive => exact .embeds embeds positive
  | idle idle => exact .idle idle

end Index.VectorIndex

/-- At most one unit is without a path. -/
def Lone (units : List ClassifiedUnit) : Prop :=
  ∀ u ∈ units, ∀ v ∈ units, u.raw.path = "" → v.raw.path = "" → u = v

theorem Led.lone {units : List ClassifiedUnit} (led : Led units) : Lone units := by
  cases units with
  | nil => exact fun u member => by simp at member
  | cons first rest =>
    have here (u : ClassifiedUnit) (member : u ∈ first :: rest) (unfiled : u.raw.path = "") :
        u = first := by
      rcases List.mem_cons.mp member with same | later
      · exact same
      · exact absurd unfiled (led u later)
    exact fun u member v other left right => (here u member left).trans (here v other right).symm

-- Then no two units can be stored under one identity, wherever they stand.
theorem Lone.idAt_inj {units : List ClassifiedUnit} (lone : Lone units)
    (plain : ∀ u ∈ units, Plain u.raw.name) (apart : (units.map (·.id)).Nodup)
    {u v : ClassifiedUnit} (member : u ∈ units) (other : v ∈ units) {i j : Int}
    (same : u.entry.idAt i = v.entry.idAt j) : u = v := by
  by_cases left : u.raw.path = ""
  · by_cases right : v.raw.path = ""
    · exact lone u member v other left right
    · have colon := filed_colon v (plain v other) right j
      rw [← same] at colon
      exact absurd colon (unfiled_no_colon u left i)
  · by_cases right : v.raw.path = ""
    · have colon := filed_colon u (plain u member) left i
      rw [same] at colon
      exact absurd colon (unfiled_no_colon v right j)
    · rw [entry_idAt u (plain u member) left, entry_idAt v (plain v other) right] at same
      exact List.inj_on_of_nodup_map apart member other same

theorem mem_recordsOf_units {f : String → Option Embedding} {position : Nat}
    {units : List ClassifiedUnit} {record : String × Stored}
    (member : record ∈ recordsOf f position (units.map (·.entry))) :
    ∃ u ∈ units, ∃ place : Nat, record.1 = u.entry.idAt place ∧
      f u.searchText = some record.2.vector := by
  induction units generalizing position with
  | nil => simp [recordsOf] at member
  | cons u rest ih =>
    rw [List.map_cons, recordsOf_cons f position u.entry _ u.searchText rfl, List.mem_append]
      at member
    rcases member with first | later
    · cases value : f u.searchText with
      | none => simp [value] at first
      | some vector =>
        obtain rfl : record = _ := by simpa [value] using first
        exact ⟨u, by simp, position, rfl, value⟩
    · obtain ⟨v, inside, rest⟩ := ih later
      exact ⟨v, List.mem_cons_of_mem u inside, rest⟩

theorem mem_restoredFrom {position : Nat} {items : List (ClassifiedUnit × Embedding)}
    {record : String × Stored} (member : record ∈ restoredFrom position items) :
    ∃ item ∈ items, ∃ place : Nat, record.1 = item.1.entry.idAt place := by
  induction items generalizing position with
  | nil => simp [restoredFrom] at member
  | cons item rest ih =>
    rw [restoredFrom, List.mem_append] at member
    rcases member with first | later
    · cases value : restorable item.2 with
      | none => simp [value] at first
      | some vector =>
        obtain rfl : record = _ := by simpa [value] using first
        exact ⟨item, by simp, position, rfl⟩
    · obtain ⟨other, inside, rest⟩ := ih later
      exact ⟨other, List.mem_cons_of_mem item inside, rest⟩

section

variable {index : VectorIndex} {keys : List (String × String)} {model : String}

-- What is right for each unit of a key can be read under it, if it could be before or is written now.
theorem foldl_keep_written {cache : Cache} {missing : List ClassifiedUnit} {key : String}
    {vector : Embedding}
    (keyed : ∀ u ∈ missing, Keyed.lookup u.id keys = some (unitKey model u))
    (right : ∀ u ∈ missing, unitKey model u = key → index.vector? (heldId u) = some vector)
    (known : cache.vector? key = some vector ∨ ∃ u ∈ missing, unitKey model u = key) :
    (missing.foldl (keep index keys) cache).vector? key = some vector := by
  induction missing generalizing cache with
  | nil => simpa using known
  | cons u rest ih =>
    refine ih (fun v member => keyed v (List.mem_cons_of_mem u member))
      (fun v member => right v (List.mem_cons_of_mem u member)) ?_
    rw [keep, keyed u (by simp), show index.vector? (u.entry.idAt 0) = index.vector? (heldId u) from rfl]
    by_cases here : unitKey model u = key
    · rw [right u (by simp) here]
      simp only [Cache.vector?_put, here, beq_self_eq_true, if_true, true_or]
    · rcases known with before | ⟨v, member, same⟩
      · left
        cases index.vector? (heldId u) with
        | none => exact before
        | some given => simpa [Cache.vector?_put, here] using before
      · rcases List.mem_cons.mp member with rfl | later
        · exact absurd same here
        · exact .inr ⟨v, later, same⟩

end

namespace Atlas

variable {f : String → Option Embedding} {model : String} {texts : Set String}

theorem addMissing_cache (a : Atlas) (keys : List (String × String))
    (missing : List ClassifiedUnit) : (a.addMissing keys missing).2.cache =
      match (a.addMissing keys missing).1 with
      | .ok _ => a.cache.map fun cache =>
          missing.foldl (keep (a.addMissing keys missing).2.index keys) cache
      | .error _ => a.cache := by
  rw [addMissing]
  split
  next none =>
    rw [List.isEmpty_iff.mp none]
    exact Option.map_id'.symm
  next => split <;> rfl

theorem addMissing_draws (a : Atlas) (draws : a.index.Draws f) (keys : List (String × String))
    (missing : List ClassifiedUnit) : (a.addMissing keys missing).2.index.Draws f := by
  have added := draws.add (missing.map (·.entry))
  rw [addMissing]
  split
  · exact draws
  · split
    next fault index failed => rwa [failed] at added
    next total index stored => rwa [stored] at added

/-- An atlas that takes its embeddings from `f`, with a cache that can be trusted if it has one. -/
structure Trusting (f : String → Option Embedding) (model : String) (texts : Set String) (a : Atlas) :
    Prop where
  draws : a.index.Draws f
  model_eq : a.index.backend.model = model
  filed : a.store.Holds Filed
  sound : ∀ cache, a.cache = some cache → cache.Sound f model texts

namespace Trusting

variable {a : Atlas}

theorem kept_right (trusting : Trusting f model texts a) (apart : texts.InjOn (cacheKey model))
    {u : ClassifiedUnit} (inPlay : u.searchText ∈ texts) {vector : Embedding}
    (kept : a.kept? u = some vector) : f u.searchText = some vector := by
  cases cached : a.cache with
  | none => simp [kept?_uncached cached] at kept
  | some cache =>
    rw [kept?_cached cached, trusting.model_eq] at kept
    exact (trusting.sound cache cached).vector?_eq apart inPlay kept

theorem shaped (trusting : Trusting f model texts a) (apart : texts.InjOn (cacheKey model))
    (filled : ∀ text vector, f text = some vector → vector.Filled)
    (inPlay : ∀ u ∈ a.store.all, u.searchText ∈ texts) : Shaped a.found := by
  rintro ⟨u, vector⟩ member
  obtain ⟨inside, kept⟩ := mem_found.mp member
  obtain ⟨n, rest, shape⟩ := filled _ _ (trusting.kept_right apart (inPlay u inside) kept)
  exact shape ▸ List.cons_ne_nil _ _

theorem recorded_eq (trusting : Trusting f model texts a) (apart : texts.InjOn (cacheKey model))
    (filled : ∀ text vector, f text = some vector → vector.Filled) {u : ClassifiedUnit}
    (inPlay : u.searchText ∈ texts) : a.recorded f u = f u.searchText := by
  rw [recorded]
  split
  next vector kept =>
    have right := trusting.kept_right apart inPlay kept
    obtain ⟨n, rest, shape⟩ := filled _ _ right
    simp [right, restorable, shape]
  next => rfl

end Trusting

theorem restored_cache (a : Atlas) (items : List (ClassifiedUnit × Embedding)) {cache : Cache}
    (cached : a.cache = some cache) : (a.restored items).cache =
      some (restoreAll a.index.backend.model cache a.store.all).cache := by
  rw [restored, emptied, cached, Option.map_some]

theorem build_snd (a : Atlas) (shaped : Shaped a.found) :
    a.build.2 = ((a.restored a.found).addMissing a.newKeys a.lacking).2 := by
  rw [build_shaped a shaped]

-- Where storing goes through, each unit that was lacking is written back.
theorem build_cache (a : Atlas) (shaped : Shaped a.found) {cache : Cache}
    (cached : a.cache = some cache) (embeds : a.index.backend.Embeds f)
    (positive : 0 < a.index.batchSize) :
    a.build.2.cache = some (a.lacking.foldl (keep a.build.2.index a.newKeys)
      (restoreAll a.index.backend.model cache a.store.all).cache) := by
  have done : ((a.restored a.found).addMissing a.newKeys a.lacking).1 = .ok () :=
    addMissing_completes _ _ _ fun _ => ⟨.inr embeds.usable, Int.ne_of_gt positive⟩
  rw [build_snd a shaped, addMissing_cache, done, restored_cache a a.found cached]
  rfl

-- Where at most one unit is without a path, what a unit that was lacking is looked up as is its own.
theorem build_own (a : Atlas) (shaped : Shaped a.found)
    (fills : (a.restored a.found).index.Fills f) (lone : Lone a.store.all)
    (plain : ∀ u ∈ a.store.all, Plain u.raw.name) (apart : (a.store.all.map (·.id)).Nodup)
    {u : ClassifiedUnit} (member : u ∈ a.lacking) {vector : Embedding}
    (given : a.build.2.index.vector? (heldId u) = some vector) : f u.searchText = some vector := by
  obtain ⟨inside, absent⟩ := List.mem_filter.mp member
  obtain ⟨stored, found, rfl⟩ := Option.map_eq_some_iff.mp given
  rw [build_snd a shaped, addMissing_records _ fills, restored_records] at found
  rcases Keyed.mem_foldl_put _ _ _ (Keyed.mem_of_lookup found) with restored | embedded
  · rcases Keyed.mem_foldl_put _ _ _ restored with none | early
    · simp at none
    · obtain ⟨item, was, place, same⟩ := mem_restoredFrom early
      obtain ⟨other, kept⟩ := mem_found.mp was
      obtain rfl := lone.idAt_inj plain apart inside other same
      simp [kept] at absent
  · obtain ⟨v, lacks, place, same, value⟩ := mem_recordsOf_units embedded
    obtain rfl := lone.idAt_inj plain apart inside (List.mem_filter.mp lacks).1 same
    exact value

namespace Trusting

variable {a : Atlas}

theorem restored_draws (trusting : Trusting f model texts a) :
    (a.restored a.found).index.Draws f :=
  trusting.draws.clear.withRecords _ _

theorem build (trusting : Trusting f model texts a) (apart : texts.InjOn (cacheKey model))
    (filled : ∀ text vector, f text = some vector → vector.Filled)
    (inPlay : ∀ u ∈ a.store.all, u.searchText ∈ texts) (lone : Lone a.store.all) :
    Trusting f model texts a.build.2 := by
  have shaped := trusting.shaped apart filled inPlay
  have stores := build_stores a
  constructor
  · rw [build_snd a shaped]
    exact addMissing_draws _ trusting.restored_draws _ _
  · rw [stores.serves.1, trusting.model_eq]
  · exact stores.store_eq ▸ trusting.filed
  · intro after built
    cases cached : a.cache with
    | none => simp [stores.uncached cached] at built
    | some cache =>
      have looked := restoreAll_lookedUp a.index.backend.model cache a.store.all
      have sound := (trusting.sound cache cached).of_vector? looked.reads
      rw [build_snd a shaped, addMissing_cache, restored_cache a a.found cached] at built
      split at built
      · obtain rfl := Option.some.inj built
        rw [← build_snd a shaped]
        refine foldl_keep_sound _ _ sound _ (fun u member => inPlay u (List.mem_filter.mp member).1)
          (trusting.model_eq ▸ fun u => a.newKeys_lacking cached trusting.filed.ids_nodup)
          fun u member vector given => ?_
        exact build_own a shaped trusting.restored_draws.fills lone trusting.filed.plain
          trusting.filed.ids_nodup member given
      · obtain rfl := Option.some.inj built
        exact sound

theorem act (trusting : Trusting f model texts a) (apart : texts.InjOn (cacheKey model))
    (filled : ∀ text vector, f text = some vector → vector.Filled) (action : Action)
    (ready : action = .build → Lone a.store.all ∧ ∀ u ∈ a.store.all, u.searchText ∈ texts) :
    Trusting f model texts (a.act action) := by
  have filed : (a.act action).store.Holds Filed :=
    act_holds a action Filed (fun path _ rules text => classifyText_filed rules a.least path text)
      trusting.filed
  have scanned {visited : List String} {b : Atlas} (scans : Scans visited a b)
      (filed : b.store.Holds Filed) : Trusting f model texts b := by
    refine ⟨?_, ?_, filed, ?_⟩
    · rw [scans.index_eq]
      exact trusting.draws
    · rw [scans.index_eq, trusting.model_eq]
    · rw [scans.cache_eq]
      exact trusting.sound
  cases action with
  | scanText w path text => exact scanned (scanText_scans a w path text) filed
  | scanFiles w paths order done => exact scanned (scanFiles_scans a w paths order done) filed
  | clear => exact ⟨trusting.draws.clear, trusting.model_eq, filed, trusting.sound⟩
  | build =>
    obtain ⟨lone, inPlay⟩ := ready rfl
    exact trusting.build apart filled inPlay lone

-- A build records the embedding that each unit has, whether it was restored or made anew.
theorem build_perm (trusting : Trusting f model texts a) (apart : texts.InjOn (cacheKey model))
    (filled : ∀ text vector, f text = some vector → vector.Filled)
    (inPlay : ∀ u ∈ a.store.all, u.searchText ∈ texts) (led : Led a.store.all) :
    a.build.2.index.records.Perm (held (fun u => f u.searchText) a.store.all) := by
  have perm := build_records_perm a (trusting.shaped apart filled inPlay)
    trusting.restored_draws.fills (led.fixed trusting.filed.plain)
    (heldIds_nodup led trusting.filed.plain trusting.filed.ids_nodup)
  rwa [held_congr fun u member => trusting.recorded_eq apart filled (inPlay u member)] at perm

-- After a build the cache has the embedding of each unit that has one.
theorem build_keeps (trusting : Trusting f model texts a) (apart : texts.InjOn (cacheKey model))
    (filled : ∀ text vector, f text = some vector → vector.Filled)
    (inPlay : ∀ u ∈ a.store.all, u.searchText ∈ texts) (led : Led a.store.all) {cache : Cache}
    (cached : a.cache = some cache) (embeds : a.index.backend.Embeds f)
    (positive : 0 < a.index.batchSize) {u : ClassifiedUnit} (member : u ∈ a.store.all) :
    a.build.2.kept? u = f u.searchText := by
  have shaped := trusting.shaped apart filled inPlay
  have later := trusting.build apart filled inPlay led.lone
  cases value : f u.searchText with
  | none =>
    cases kept : a.build.2.kept? u with
    | none => rfl
    | some vector =>
      have right := later.kept_right apart (inPlay u member) kept
      simp [value] at right
  | some vector =>
    have looked := restoreAll_lookedUp a.index.backend.model cache a.store.all
    rw [kept?_cached (a.build_cache shaped cached embeds positive), (build_stores a).serves.1]
    refine foldl_keep_written (fun v => a.newKeys_lacking cached trusting.filed.ids_nodup) ?_ ?_
    · intro v lacks same
      have inside := (List.mem_filter.mp lacks).1
      have ids := heldIds_nodup led trusting.filed.plain trusting.filed.ids_nodup
      have texts := apart (inPlay v inside) (inPlay u member) (trusting.model_eq ▸ same)
      rw [vector?_held (trusting.build_perm apart filled inPlay led) ids inside, texts, value]
    · cases kept : a.kept? u with
      | none => exact .inr ⟨u, List.mem_filter.mpr ⟨member, by simp [kept]⟩, rfl⟩
      | some given =>
        left
        rw [looked.reads, ← kept?_cached cached, kept,
          ← trusting.kept_right apart (inPlay u member) kept, value]

end Trusting

theorem build_isSome (a : Atlas) : a.build.2.cache.isSome = a.cache.isSome := by
  have start : a.emptied.cache.isSome = a.cache.isSome := Option.isSome_map
  have first : (a.emptied.addCached a.found).2.cache = a.emptied.cache := by
    rw [addCached]
    split <;> rfl
  have second (b : Atlas) :
      (b.addMissing a.newKeys a.lacking).2.cache.isSome = b.cache.isSome := by
    rw [addMissing_cache]
    split
    · exact Option.isSome_map
    · rfl
  rw [build_eq]
  split
  next fault b failed =>
    rw [failed] at first
    rw [first, start]
  next b done =>
    rw [done] at first
    exact (second b).trans ((congrArg Option.isSome first).trans start)

theorem act_isSome (a : Atlas) (action : Action) : (a.act action).cache.isSome = a.cache.isSome := by
  cases action with
  | scanText w path text => exact congrArg Option.isSome (scanText_scans a w path text).cache_eq
  | scanFiles w paths order done =>
    exact congrArg Option.isSome (scanFiles_scans a w paths order done).cache_eq
  | clear => rfl
  | build => exact build_isSome a

theorem run_isSome (a : Atlas) (actions : List Action) :
    (a.run actions).cache.isSome = a.cache.isSome := by
  induction actions generalizing a with
  | nil => rfl
  | cons action rest ih => exact (ih (a.act action)).trans (act_isSome a action)

/-- `P` holds of the units in the store whenever the index is built. -/
def AtBuilds (P : List ClassifiedUnit → Prop) (a : Atlas) (actions : List Action) : Prop :=
  ∀ prior, prior ++ [.build] <+: actions → P (a.run prior).store.all

section

variable {P : List ClassifiedUnit → Prop} {a : Atlas} {action : Action} {actions : List Action}

theorem AtBuilds.head (holds : AtBuilds P a (.build :: actions)) : P a.store.all :=
  holds [] ⟨actions, rfl⟩

theorem AtBuilds.tail (holds : AtBuilds P a (action :: actions)) :
    AtBuilds P (a.act action) actions :=
  fun prior before => holds (action :: prior) ((List.prefix_cons_inj action).mpr before)

theorem AtBuilds.nil : AtBuilds P a [] := by
  intro prior before
  simp at before

theorem AtBuilds.cons (here : action = .build → P a.store.all)
    (later : AtBuilds P (a.act action) actions) : AtBuilds P a (action :: actions) := by
  intro prior before
  cases prior with
  | nil => exact here (List.cons_prefix_cons.mp before).1.symm
  | cons first prior =>
    obtain ⟨rfl, behind⟩ := List.cons_prefix_cons.mp before
    exact later prior behind

theorem AtBuilds.before (holds : AtBuilds P a (actions ++ [.build])) : AtBuilds P a actions :=
  fun prior before => holds prior (before.trans (List.prefix_append actions [.build]))

theorem AtBuilds.last (holds : AtBuilds P a (actions ++ [.build])) : P (a.run actions).store.all :=
  holds actions (List.prefix_refl _)

end

theorem Trusting.run {a : Atlas} (trusting : Trusting f model texts a)
    (apart : texts.InjOn (cacheKey model))
    (filled : ∀ text vector, f text = some vector → vector.Filled) (actions : List Action)
    (inPlay : AtBuilds (fun units => ∀ u ∈ units, u.searchText ∈ texts) a actions)
    (lone : AtBuilds Lone a actions) : Trusting f model texts (a.run actions) := by
  induction actions generalizing a with
  | nil => exact trusting
  | cons action rest ih =>
    refine ih (trusting.act apart filled action ?_) inPlay.tail lone.tail
    rintro rfl
    exact ⟨lone.head, inPlay.head⟩

theorem trusting_empty {book : Rules.RuleBook} {index : VectorIndex} {cache : Option Cache}
    {least : Int} (draws : index.Draws f)
    (sound : ∀ c, cache = some c → c.Sound f index.backend.model texts) :
    Trusting f index.backend.model texts (empty book index cache least) :=
  ⟨draws, rfl, Store.holds_empty, sound⟩

theorem sound_empty : Cache.empty.Sound f model texts := by
  intro key vector found
  simp [Cache.empty, Keyed.lookup] at found

-- Nothing is embedded where nothing is lacking.
theorem build_embedded (a : Atlas) (shaped : Shaped a.found) (none : a.lacking = []) :
    a.build.2.index.embedded = a.index.embedded := by
  rw [build_snd a shaped, none]
  rfl

namespace Trusting

variable {a : Atlas}

theorem completes (trusting : Trusting f model texts a) (apart : texts.InjOn (cacheKey model))
    (filled : ∀ text vector, f text = some vector → vector.Filled)
    (inPlay : ∀ u ∈ a.store.all, u.searchText ∈ texts) (embeds : a.index.backend.Embeds f)
    (positive : 0 < a.index.batchSize) : a.build = (.ok a.build.2.index.size, a.build.2) :=
  build_completes a (trusting.shaped apart filled inPlay) fun _ =>
    ⟨.inr embeds.usable, Int.ne_of_gt positive⟩

-- A second build finds all embeddings in the cache, and comes to the same records.
theorem build_again (trusting : Trusting f model texts a) (apart : texts.InjOn (cacheKey model))
    (total : ∀ text, (f text).isSome = true)
    (filled : ∀ text vector, f text = some vector → vector.Filled)
    (inPlay : ∀ u ∈ a.store.all, u.searchText ∈ texts) (led : Led a.store.all)
    (keeps : ∀ u ∈ a.store.all, a.build.2.kept? u = f u.searchText) :
    (∀ id, Keyed.lookup id a.build.2.build.2.index.records =
        Keyed.lookup id a.build.2.index.records) ∧
      a.build.2.build.2.index.embedded = a.build.2.index.embedded := by
  have built := trusting.build apart filled inPlay led.lone
  have store : a.build.2.store = a.store := (build_stores a).store_eq
  have again : ∀ u ∈ a.build.2.store.all, u.searchText ∈ texts := store ▸ inPlay
  have first := trusting.build_perm apart filled inPlay led
  have second := built.build_perm apart filled again (store ▸ led)
  rw [store] at second
  have keys := (keys_held (g := fun u => f u.searchText) a.store.all).nodup
    (heldIds_nodup led trusting.filed.plain trusting.filed.ids_nodup)
  constructor
  · intro id
    rw [Keyed.lookup_perm keys second, Keyed.lookup_perm keys first]
  · refine build_embedded _ (built.shaped apart filled again) ?_
    rw [lacking, store, List.filter_eq_nil_iff]
    intro u member
    rw [keeps u member, Option.isNone_iff_eq_none]
    exact Option.isSome_iff_ne_none.mp (total u.searchText)

end Trusting

-- Where no two units are without a path at any build, what a build leaves in the cache was made from the
-- texts it is kept for. Where only the first unit may be without one, a second build finds all of its
-- embeddings there, and comes to the same records.
theorem run_written (book : Rules.RuleBook) (index : VectorIndex) (least : Int)
    (actions : List Action) (embeds : index.backend.Embeds f)
    (total : ∀ text, (f text).isSome = true)
    (filled : ∀ text vector, f text = some vector → vector.Filled) (positive : 0 < index.batchSize)
    (apart : texts.InjOn (cacheKey index.backend.model))
    (inPlay : AtBuilds (fun units => ∀ u ∈ units, u.searchText ∈ texts)
      (empty book index (some .empty) least) (actions ++ [.build]))
    (lone : AtBuilds Lone (empty book index (some .empty) least) (actions ++ [.build])) :
    let a := (empty book index (some .empty) least).run actions
    ∃ first second, a.build = (.ok first.index.size, first) ∧
      first.build = (.ok second.index.size, second) ∧
      (∃ cache, first.cache = some cache ∧ cache.Sound f index.backend.model texts) ∧
      (Led a.store.all → (∀ u ∈ a.store.all, first.kept? u = f u.searchText) ∧
        (∀ id, Keyed.lookup id second.index.records = Keyed.lookup id first.index.records) ∧
        second.index.embedded = first.index.embedded) := by
  intro a
  have trusting : Trusting f index.backend.model texts a :=
    (trusting_empty (.embeds embeds positive) fun c same =>
      Option.some.inj same ▸ sound_empty).run apart filled actions inPlay.before lone.before
  have units := inPlay.last
  have built := trusting.build apart filled units lone.last
  have again : ∀ u ∈ a.build.2.store.all, u.searchText ∈ texts :=
    (build_stores a).store_eq ▸ units
  have steady := (run_steady (empty book index (some .empty) least) actions).serves
  have serves := steady.trans (build_stores a).serves
  have caching : a.cache.isSome = true := run_isSome (empty book index (some .empty) least) actions
  obtain ⟨cache, cached⟩ := Option.isSome_iff_exists.mp caching
  obtain ⟨after, left⟩ := Option.isSome_iff_exists.mp ((build_isSome a).trans caching)
  refine ⟨a.build.2, a.build.2.build.2, ?_, ?_, ⟨after, left, built.sound after left⟩, ?_⟩
  · exact trusting.completes apart filled units (steady.1 ▸ embeds) (steady.2 ▸ positive)
  · exact built.completes apart filled again (serves.1 ▸ embeds) (serves.2 ▸ positive)
  · intro led
    have keeps (u : ClassifiedUnit) (member : u ∈ a.store.all) :=
      trusting.build_keeps apart filled units led cached (steady.1 ▸ embeds) (steady.2 ▸ positive)
        member
    exact ⟨keeps, trusting.build_again apart total filled units led keeps⟩

def unfiledUnits : List ClassifiedUnit :=
  classifyText { Rules.builtin with revision := 1 } 10 "" twiceText

def unfiledTexts : Set String :=
  {text | ∃ u ∈ unfiledUnits, text = u.searchText}

theorem unfiledUnits_single : ∃ u, unfiledUnits = [u] := by
  apply List.length_eq_one_iff.mp
  rw [unfiledUnits, classifyText, List.length_map, extract, List.length_map, spans,
    List.length_mergeSort]
  decide +kernel

theorem unfiledTexts_apart : unfiledTexts.InjOn (cacheKey "hashing-384") := by
  obtain ⟨u, only⟩ := unfiledUnits_single
  rintro first ⟨v, member, rfl⟩ second ⟨w, other, rfl⟩ -
  rw [only, List.mem_singleton] at member other
  rw [member, other]

theorem hashed_isSome (text : String) : ((hashed 384 text).toOption).isSome = true := by
  obtain ⟨vector, value, -⟩ := hashed_total text
  exact Option.isSome_of_eq_some value

theorem hashed_filled (text : String) (vector : Embedding)
    (value : (hashed 384 text).toOption = some vector) : vector.Filled := by
  obtain ⟨given, found, shape⟩ := hashed_total text
  obtain rfl := Option.some.inj (found.symm.trans value)
  exact ⟨383, [], shape⟩

-- A single unit is restored by the second build even where it has no path.
theorem run_written_unfiled :
    let a := (empty (.ofPath "") (.empty (.hashing 384) 32) (some .empty) 10).run
      [.scanText .empty "" twiceText]
    a.store.size = 1 ∧ ∃ first second, a.build = (.ok first.index.size, first) ∧
      first.build = (.ok second.index.size, second) ∧
      (∀ id, Keyed.lookup id second.index.records = Keyed.lookup id first.index.records) ∧
      second.index.embedded = first.index.embedded := by
  intro a
  obtain ⟨u, only⟩ := unfiledUnits_single
  have scanned : a.store.all = unfiledUnits := List.append_nil _
  have single : a.store.all = [u] := scanned.trans only
  have led : Led a.store.all := by
    rw [single]
    exact fun v member => absurd member List.not_mem_nil
  have inPlay : ∀ v ∈ a.store.all, v.searchText ∈ unfiledTexts := fun v member =>
    ⟨v, scanned ▸ member, rfl⟩
  obtain ⟨first, second, built, again, -, later⟩ := run_written (.ofPath "")
    (.empty (.hashing 384) 32) 10 [.scanText .empty "" twiceText] (hashing_embeds 384)
    hashed_isSome hashed_filled (by decide) unfiledTexts_apart
    (.cons nofun (.cons (fun _ => inPlay) .nil)) (.cons nofun (.cons (fun _ => led.lone) .nil))
  exact ⟨congrArg List.length single, first, second, built, again, (later led).2⟩

theorem heldId_unfiled {u v : ClassifiedUnit} (unfiled : u.raw.path = "")
    (other : v.raw.path = "") : heldId u = heldId v := by
  apply String.toList_inj.mp
  rw [heldId, heldId, entry_idAt_unfiled u unfiled, entry_idAt_unfiled v other]

-- Of units that all have no path, each gets what was embedded for the first one.
theorem build_spreads {a : Atlas} {u : ClassifiedUnit} {rest : List ClassifiedUnit}
    {vector : Embedding} (embeds : a.index.backend.Embeds f) (positive : 0 < a.index.batchSize)
    (filed : a.store.Holds Filed) (all : a.store.all = u :: rest) {cache : Cache}
    (cached : a.cache = some cache) (lacks : ∀ v ∈ a.store.all, a.kept? v = none)
    (unfiled : ∀ v ∈ a.store.all, v.raw.path = "") (value : f u.searchText = some vector) :
    ∀ v ∈ a.store.all, a.build.2.kept? v = some vector := by
  have lacking : a.lacking = a.store.all :=
    List.filter_eq_self.mpr fun v member => by rw [lacks v member]; rfl
  have none : a.found = [] := by
    rw [found, List.filterMap_eq_nil_iff]
    intro v member
    rw [lacks v member]
    rfl
  have shaped : Shaped a.found := by
    rw [none]
    exact fun item member => absurd member List.not_mem_nil
  have serving : (a.restored a.found).index.backend.Embeds f := embeds
  have first : a.build.2.index.vector? (heldId u) = some vector := by
    have apart := (VectorIndex.keys_recordsOf f 0 (a.store.all.map (·.entry))).nodup
      (withIds_nodup 0 a.store.all filed.plain filed.ids_nodup)
    rw [VectorIndex.vector?, build_snd a shaped, addMissing_records _ (serving.fills positive),
      restored_records, none, lacking, restoredFrom]
    change Option.map _ (Keyed.lookup _ (Keyed.ofList _)) = _
    rw [Keyed.ofList_apart _ apart, all, List.map_cons,
      recordsOf_cons f 0 u.entry _ u.searchText rfl, value]
    simp [Keyed.lookup, heldId]
  intro v member
  rw [kept?_cached (a.build_cache shaped cached embeds positive), (build_stores a).serves.1]
  refine foldl_keep_written (fun w => a.newKeys_lacking cached filed.ids_nodup) ?_
    (.inr ⟨v, lacking ▸ member, rfl⟩)
  intro w inside _
  rw [heldId_unfiled (unfiled w (lacking ▸ inside)) (unfiled u (by simp [all])), first]

-- A backend that tells texts apart by their lengths.
def measuring : Backend :=
  ⟨"measuring", 1, none, fun texts =>
    .ok (texts.map fun text => .ofList [Float32.ofNat text.length])⟩

theorem measuring_embeds :
    measuring.Embeds fun text => some (.ofList [Float32.ofNat text.length]) := by
  refine ⟨rfl, ?_, ?_⟩
  · intro texts vectors done
    obtain rfl := Except.ok.inj done
    rw [List.map_map]
    rfl
  · intro text vector value
    obtain rfl := Option.some.inj value
    rfl

def plainRules : Rules.RuleSet :=
  ⟨"1", [], "P", 1, [], none, [], 1, [], .null, "", 1⟩

def pairText : String :=
  "let b=()=>1\nlet cc=()=>2"

theorem pairText_spans : spans 10 pairText.toList =
    [⟨0, 11, .arrow, "b", "let b=()=>".toList⟩, ⟨12, 24, .arrow, "cc", "let cc=()=>".toList⟩] := by
  have found : declarationShapes.foldl (addShape 10 pairText.toList) [] =
      [⟨0, 11, .arrow, "b", "let b=()=>".toList⟩, ⟨12, 24, .arrow, "cc", "let cc=()=>".toList⟩] := by
    decide +kernel
  rw [spans, found]
  exact List.mergeSort_of_pairwise (by decide)

theorem pairText_lengths :
    (classifyText plainRules 10 "" pairText).map (·.searchText.length) = [34, 35] := by
  rw [classifyText, extract]
  simp only [pairText_spans]
  decide +kernel

def pairAtlas : Atlas :=
  (empty ⟨none, some plainRules, 1, none⟩ (.empty measuring 32) (some .empty) 10).run
    [.scanText .empty "" pairText]

-- The second unit of a text without a path is left with the embedding of the first one.
theorem build_spreads_pair : ∃ u ∈ pairAtlas.store.all, ∃ own other,
    measuring.embed [u.searchText] = .ok [own] ∧ pairAtlas.build.2.kept? u = some other ∧
      other ≠ own := by
  have all : pairAtlas.store.all = classifyText plainRules 10 "" pairText := List.append_nil _
  have lengths := pairText_lengths
  rw [← all] at lengths
  obtain ⟨u, rest, parts, first, later⟩ := List.map_eq_cons_iff.mp lengths
  obtain ⟨v, none, rfl, second, -⟩ := List.map_eq_cons_iff.mp later
  have filed : pairAtlas.store.Holds Filed := run_filed _ _ _ _ _
  have spread := build_spreads (a := pairAtlas) measuring_embeds (by decide) filed parts rfl
    (fun w _ => rfl) ?_ rfl
  · have member : v ∈ pairAtlas.store.all := by simp [parts]
    refine ⟨v, member, _, _, rfl, spread v member, fun same => ?_⟩
    have entries := List.singleton_inj.mp (congrArg Embedding.entries same)
    rw [first, second] at entries
    exact absurd entries (by decide +kernel)
  · rw [all]
    exact (classifyText_filed plainRules 10 "" pairText).here

end Atlas

end CodeAtlas
