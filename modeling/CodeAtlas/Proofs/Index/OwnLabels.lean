import CodeAtlas.Proofs.Classify.Exported
import CodeAtlas.Proofs.Index.Best
import CodeAtlas.Proofs.Rules.WellFormed
import CodeAtlas.Proofs.Text.Capital
import CodeAtlas.Proofs.Text.Trim

set_option autoImplicit false

/-! Units under their own labels. Domains and patterns are plain words. A purpose is kept as the rules have
it, while the label that is looked for loses the white space around it. -/

namespace CodeAtlas.Text

-- What is trimmed off a text would have to come back in lower case.
theorem lower_strip_iff (text : String) : lower text = lower (strip text) ↔ strip text = text := by
  constructor
  · intro same
    have lengths := congrArg (fun lowered => lowered.toList.length) same
    simp only [lower_toList, lowerChars, lowerFrom_length, strip, String.toList_ofList] at lengths
    have whole := eq_of_loweredLength (trim_sublist text.toList) lengths.symm
    rw [strip, whole, String.ofList_toList]
  · intro trimmed
    rw [trimmed]

end CodeAtlas.Text

namespace CodeAtlas.Index

open CodeAtlas.Classify CodeAtlas.Embedding CodeAtlas.Source CodeAtlas.Text

/-! ### Labels of a unit -/

namespace VectorIndex

def LabelSort.labelsOf (u : ClassifiedUnit) : LabelSort → List String
  | .type => [u.purpose]
  | .domain => u.domains
  | .pattern => u.patterns

end VectorIndex

open VectorIndex

theorem matchesLabel_text (label own : String) :
    matchesLabel label (.text own) = (lower own == lower (strip label)) := by
  simp only [matchesLabel, Document.toText]

theorem matchesLabel_texts (label : String) (texts : List String) :
    matchesLabel label (.list (textList texts)) =
      texts.any fun own => lower own == lower (strip label) :=
  List.any_map

theorem passes_label (sort : LabelSort) (label : String) (u : ClassifiedUnit) :
    (Filter.labelled [sort.fieldName] label).passes u.metadata =
      (sort.labelsOf u).any fun own => lower own == lower (strip label) := by
  cases sort <;>
    simp [Filter.passes, Filter.keeps, fieldMatches, LabelSort.fieldName, LabelSort.labelsOf,
      ClassifiedUnit.metadata, ClassifiedUnit.record, UnitRecord.metadata, Keyed.lookup,
      matchesLabel_text, matchesLabel_texts]

theorem passes_type (type : String) (u : ClassifiedUnit) :
    (Filter.labelled ["purpose", "kind"] type).passes u.metadata =
      (lower u.purpose == lower (strip type) || lower u.raw.kind == lower (strip type)) := by
  simp [Filter.passes, Filter.keeps, fieldMatches, ClassifiedUnit.metadata, ClassifiedUnit.record,
    UnitRecord.metadata, Keyed.lookup, matchesLabel_text]

theorem matches_own (label : String) :
    (lower label == lower (strip label)) = true ↔ strip label = label := by
  rw [beq_iff_eq, lower_strip_iff]

theorem banks_trimmed : (∀ entry ∈ domainBank, strip entry.1 = entry.1) ∧
    ∀ entry ∈ patternBank, strip entry.1 = entry.1 := by
  decide +kernel

theorem labelsOf_trimmed {rules : Rules.RuleSet} {raw : RawUnit} {sort : LabelSort} {label : String}
    (other : sort ≠ .type) (carried : label ∈ sort.labelsOf (classify rules raw)) :
    strip label = label := by
  cases sort with
  | type => exact absurd rfl other
  | domain =>
    obtain ⟨entry, member, -, rfl⟩ := mem_labelsMet.mp carried
    exact banks_trimmed.1 entry member
  | pattern =>
    obtain ⟨entry, member, -, rfl⟩ := mem_labelsMet.mp carried
    exact banks_trimmed.2 entry member

theorem kind_trimmed (kind : Kind) : strip kind.label = kind.label := by
  cases kind <;> decide +kernel

/-! ### Searches for a label -/

/-- The index answers a query, and the record with this embedding is similar enough to what is asked. -/
def Reaches (ix : VectorIndex) (vector : Embedding) (text : String) (least : Float) : Prop :=
  ix.Usable ∧ ∃ wanted, (ix.askOne text).1 = .ok wanted ∧ floatLe least (wanted.cosine vector) = true

theorem mem_eligible {filter : Filter} {similarity : Stored → Float} {least : Float}
    {records : List (String × Stored)} (apart : (records.map (·.1)).Nodup) {id : String}
    {stored : Stored} (stands : (id, stored) ∈ records)
    (reaches : floatLe least (similarity stored) = true) :
    id ∈ (eligible filter similarity least records).map (·.id) ↔
      filter.passes stored.metadata = true := by
  constructor
  · intro shown
    obtain ⟨hit, inside, same⟩ := List.mem_map.mp shown
    obtain ⟨found, passes⟩ := List.mem_filter.mp inside
    obtain ⟨⟨other, held⟩, member, rfl⟩ := List.mem_map.mp found
    obtain rfl : other = id := same
    obtain rfl : held = stored := Option.some.inj <|
      ((Keyed.lookup_eq_some other held records apart).mpr member).symm.trans
        ((Keyed.lookup_eq_some other stored records apart).mpr stands)
    simp only [Bool.and_eq_true] at passes
    exact passes.1.1
  · intro passes
    refine List.mem_map.mpr ⟨hitOf ((id, stored), similarity stored), ?_, rfl⟩
    refine List.mem_filter.mpr ⟨List.mem_map_of_mem stands, ?_⟩
    simp only [hitOf, passes, not_isNaN_of_reaches reaches, reaches]
    rfl

theorem find_standing {ix : VectorIndex} (apart : (ix.records.map (·.1)).Nodup)
    (objects : Objects ix.records) {id : String} {stored : Stored}
    (stands : (id, stored) ∈ ix.records) (query : Query) (whole : (ix.size : Int) ≤ query.limit)
    (reaches : Reaches ix stored.vector query.text query.least) :
    ∃ hits, (ix.find query).1 = .ok hits ∧
      (id ∈ hits.map (·.id) ↔ query.filter.passes stored.metadata = true) := by
  obtain ⟨usable, wanted, answer, similar⟩ := reaches
  let similarity (stored : Stored) := wanted.cosine stored.vector
  have reached : floatLe query.least (similarity stored) = true := similar
  have some : 0 < ix.size := List.length_pos_of_mem stands
  have shown := ranking_perm query.filter similarity query.least ix.records
  have room : (ranking query.filter similarity query.least ix.records).length ≤ query.limit.toNat := by
    rw [shown.length_eq]
    refine (List.length_filter_le _ _).trans ?_
    rw [List.length_map]
    exact (Int.le_toNat (by omega)).mpr whole
  have found : (ix.find query).1 = .ok (ranking query.filter similarity query.least ix.records) := by
    rw [find_fst usable (by omega) answer, findBy, kept_eq _ (.inr objects), Except.map, rank_take,
      List.take_of_length_le room]
  refine ⟨_, found, ?_⟩
  rw [(shown.map _).mem_iff, mem_eligible apart stands reached]

/-- By which of its own labels a unit is found in searches that leave no record out for want of room or
similarity. -/
structure FoundUnder (ix : VectorIndex) (id : String) (u : ClassifiedUnit) (vector : Embedding) :
    Prop where
  domain : ∀ label ∈ u.domains, ∀ limit : Int, ix.size ≤ limit →
    Reaches ix vector s!"Domain: {label}" (-1) →
      ∃ hits, (ix.searchLabel .domain label limit).1 = .ok hits ∧ id ∈ hits.map (·.id)
  pattern : ∀ label ∈ u.patterns, ∀ limit : Int, ix.size ≤ limit →
    Reaches ix vector s!"Patterns: {label}" (-1) →
      ∃ hits, (ix.searchLabel .pattern label limit).1 = .ok hits ∧ id ∈ hits.map (·.id)
  type : ∀ limit : Int, ix.size ≤ limit → Reaches ix vector s!"Type: {u.purpose}" (-1) →
    ∃ hits, (ix.searchLabel .type u.purpose limit).1 = .ok hits ∧
      (id ∈ hits.map (·.id) ↔ strip u.purpose = u.purpose)
  purpose : ∀ text (limit : Int) least, ix.size ≤ limit → Reaches ix vector text least →
    ∃ hits, (ix.search text limit least u.purpose).1 = .ok hits ∧
      (id ∈ hits.map (·.id) ↔
        strip u.purpose = u.purpose ∨ lower (strip u.purpose) = lower u.raw.kind)
  kind : ∀ text (limit : Int) least, ix.size ≤ limit → Reaches ix vector text least →
    ∃ hits, (ix.search text limit least u.raw.kind).1 = .ok hits ∧
      (id ∈ hits.map (·.id) ↔
        strip u.raw.kind = u.raw.kind ∨ lower (strip u.raw.kind) = lower u.purpose)

theorem found_under {rules : Rules.RuleSet} (formed : rules.WellFormed) {ix : VectorIndex}
    (apart : (ix.records.map (·.1)).Nodup) (objects : Objects ix.records) {raw : RawUnit}
    {id : String} {vector : Embedding}
    (stands : (id, ⟨vector, (classify rules raw).metadata⟩) ∈ ix.records) :
    FoundUnder ix id (classify rules raw) vector := by
  set u := classify rules raw with same
  have labelled (sort : LabelSort) (label : String) (limit : Int) (whole : (ix.size : Int) ≤ limit)
      (reaches : Reaches ix vector s!"{sort.title}: {label}" (-1)) :
      ∃ hits, (ix.searchLabel sort label limit).1 = .ok hits ∧ (id ∈ hits.map (·.id) ↔
        (sort.labelsOf u).any (fun own => lower own == lower (strip label)) = true) := by
    rw [← passes_label]
    exact find_standing apart objects stands ⟨_, limit, -1, _⟩ whole reaches
  have own (sort : LabelSort) (other : sort ≠ .type) (label : String)
      (carried : label ∈ sort.labelsOf u) (limit : Int) (whole : (ix.size : Int) ≤ limit)
      (reaches : Reaches ix vector s!"{sort.title}: {label}" (-1)) :
      ∃ hits, (ix.searchLabel sort label limit).1 = .ok hits ∧ id ∈ hits.map (·.id) := by
    obtain ⟨hits, found, shown⟩ := labelled sort label limit whole reaches
    refine ⟨hits, found, shown.mpr (List.any_eq_true.mpr ⟨label, carried, ?_⟩)⟩
    rw [labelsOf_trimmed other carried, beq_self_eq_true]
  have typed (type text : String) (limit : Int) (least : Float) (named : type.isEmpty = false)
      (whole : (ix.size : Int) ≤ limit) (reaches : Reaches ix vector text least) :
      ∃ hits, (ix.search text limit least type).1 = .ok hits ∧ (id ∈ hits.map (·.id) ↔
        (lower u.purpose == lower (strip type) || lower u.raw.kind == lower (strip type)) = true) := by
    rw [search, named, ← passes_type]
    exact find_standing apart objects stands ⟨text, limit, least, _⟩ whole reaches
  constructor
  case domain => exact own .domain (by decide)
  case pattern => exact own .pattern (by decide)
  case type =>
    intro limit whole reaches
    obtain ⟨hits, found, shown⟩ := labelled .type u.purpose limit whole reaches
    refine ⟨hits, found, shown.trans ?_⟩
    simp only [LabelSort.labelsOf, List.any_cons, List.any_nil, Bool.or_false, matches_own]
  case purpose =>
    intro text limit least whole reaches
    have named : u.purpose.isEmpty = false := by
      obtain ⟨c, member, -⟩ := (judged formed raw).classified.1
      rw [Bool.eq_false_iff, ne_eq, String.isEmpty_iff]
      intro empty
      rw [← same, empty] at member
      cases member
    obtain ⟨hits, found, shown⟩ := typed u.purpose text limit least named whole reaches
    refine ⟨hits, found, shown.trans ?_⟩
    rw [Bool.or_eq_true, matches_own, beq_iff_eq, eq_comm (a := lower u.raw.kind)]
  case kind =>
    intro text limit least whole reaches
    by_cases any : u.raw.kind.isEmpty = true
    · obtain ⟨hits, found, shown⟩ :=
        find_standing apart objects stands ⟨text, limit, least, .all⟩ whole reaches
      rw [String.isEmpty_iff] at any
      refine ⟨hits, by rw [any]; exact found, shown.trans ?_⟩
      rw [any]
      exact iff_of_true rfl (.inl (by decide))
    · obtain ⟨hits, found, shown⟩ :=
        typed u.raw.kind text limit least (Bool.eq_false_iff.mpr any) whole reaches
      refine ⟨hits, found, shown.trans ?_⟩
      rw [Bool.or_eq_true, matches_own, beq_iff_eq, or_comm, eq_comm (a := lower u.purpose)]

/-! ### Units that are stored -/

def entryOf (rules : Rules.RuleSet) (raw : RawUnit) : Entry :=
  (classify rules raw).entry

theorem add_stands {ix : VectorIndex} {f : String → Option Embedding} (embeds : ix.backend.Embeds f)
    (sized : 0 < ix.batchSize) (before later : List ClassifiedUnit) {u : ClassifiedUnit}
    {vector : Embedding} (embedded : f u.searchText = some vector)
    (last : u.entry.idAt before.length ∉
      (recordsOf f (before.length + 1) (later.map (·.entry))).map (·.1)) :
    (u.entry.idAt before.length, ⟨vector, u.metadata⟩) ∈
      (ix.add ((before ++ u :: later).map (·.entry))).2.records := by
  obtain ⟨count, added⟩ := VectorIndex.add_eq embeds sized _ _ (readable_units (before ++ u :: later))
  have split : recordsOf f 0 ((before ++ u :: later).map (·.entry)) =
      recordsOf f 0 (before.map (·.entry)) ++ [(u.entry.idAt before.length, ⟨vector, u.metadata⟩)] ++
        recordsOf f (before.length + 1) (later.map (·.entry)) := by
    rw [List.map_append, List.map_cons, recordsOf_append, List.length_map, Nat.zero_add,
      recordsOf_cons f before.length u.entry _ u.searchText rfl, embedded, List.append_assoc]
    rfl
  have records : (ix.add ((before ++ u :: later).map (·.entry))).2.records = overwrite ix.records
      (recordsOf f 0 ((before ++ u :: later).map (·.entry))) := by
    rw [added]
    rfl
  refine Keyed.mem_of_lookup ?_
  rw [records, split, overwrite_append, lookup_overwrite last, overwrite_append]
  exact (Keyed.lookup_put ..).trans (if_pos (beq_self_eq_true _))

theorem add_found_under {rules : Rules.RuleSet} (formed : rules.WellFormed) (backend : Backend)
    (batchSize : Int) {changes : List Change} (labelled : ∀ change ∈ changes, change.Labelled)
    {f : String → Option Embedding}
    (embeds : ((VectorIndex.empty backend batchSize).changed changes).backend.Embeds f)
    (sized : 0 < ((VectorIndex.empty backend batchSize).changed changes).batchSize)
    (before later : List RawUnit) {raw : RawUnit} {vector : Embedding}
    (embedded : f (classify rules raw).searchText = some vector)
    (last : (entryOf rules raw).idAt before.length ∉
      (recordsOf f (before.length + 1) (later.map (entryOf rules))).map (·.1)) :
    FoundUnder (((VectorIndex.empty backend batchSize).changed changes).add
        ((before ++ raw :: later).map (entryOf rules))).2
      ((entryOf rules raw).idAt before.length) (classify rules raw) vector := by
  let ix := (VectorIndex.empty backend batchSize).changed changes
  let entries := (before ++ raw :: later).map (entryOf rules)
  have stands := add_stands embeds sized (before.map (classify rules)) (later.map (classify rules))
    embedded (by rwa [List.length_map, List.map_map])
  rw [← List.map_cons, ← List.map_append, List.map_map, List.length_map] at stands
  -- What the index has then, it has after one more change.
  have more : (ix.add entries).2 = (VectorIndex.empty backend batchSize).changed
      (changes ++ [.add ix.service entries]) := by
    rw [changed_concat, Change.apply_own]
  have described : ∀ change ∈ changes ++ [.add ix.service entries], change.Labelled := by
    refine List.forall_mem_append.mpr ⟨labelled, List.forall_mem_singleton.mpr ?_⟩
    intro entry member
    obtain ⟨given, -, rfl⟩ := List.mem_map.mp member
    exact ⟨_, rfl⟩
  refine found_under formed ?_ ?_ stands
  · exact more ▸ changed_apart ..
  · exact more ▸ changed_objects _ _ described

/-- Units are found under each label of their own but for white space around it. However an index came about,
it finds the units that it has under their domains and patterns, and under a purpose or a kind just if that is
trimmed, or trimmed it is the other of the two. -/
theorem found_under_labels {source : String} {document : Document} {rules : Rules.RuleSet}
    (built : Rules.build source document = .ok rules) (backend : Backend) (batchSize : Int)
    {changes : List Change} (labelled : ∀ change ∈ changes, change.Labelled) :
    let ix := (VectorIndex.empty backend batchSize).changed changes
    (∀ raw id vector, (id, ⟨vector, (classify rules raw).metadata⟩) ∈ ix.records →
      FoundUnder ix id (classify rules raw) vector) ∧
    (∀ f, ix.backend.Embeds f → 0 < ix.batchSize → ∀ (before later : List RawUnit) raw vector,
      f (classify rules raw).searchText = some vector →
      (entryOf rules raw).idAt before.length ∉
        (recordsOf f (before.length + 1) (later.map (entryOf rules))).map (·.1) →
      FoundUnder (ix.add ((before ++ raw :: later).map (entryOf rules))).2
        ((entryOf rules raw).idAt before.length) (classify rules raw) vector) ∧
    ∀ least path text, ∀ raw ∈ extract least path text, strip raw.kind = raw.kind := by
  intro ix
  have formed := Rules.build_ok built
  refine ⟨?_, ?_, ?_⟩
  · intro raw id vector stands
    exact found_under formed (changed_apart ..) (changed_objects _ _ labelled) stands
  · intro f embeds sized before later raw vector embedded last
    exact add_found_under formed backend batchSize labelled embeds sized before later embedded last
  · intro least path text raw member
    obtain ⟨s, -, rfl⟩ := mem_extract.mp member
    exact kind_trimmed _

/-- A backend to which all texts are alike. -/
def levelBackend : Backend where
  model := "level"
  dimensions := 1
  obstacle := none
  embed texts := .ok (texts.map fun _ => .ofList [0])

theorem level_embeds : levelBackend.Embeds fun _ => some (.ofList [0]) where
  usable := rfl
  batch texts vectors answer := by
    obtain rfl := Except.ok.inj answer
    simp
  alone text vector value := by
    obtain rfl := Option.some.inj value
    rfl

/-- Rules by which every unit has the same purpose. -/
def purposeDocument (label : String) : Document :=
  .object
    [("purposeHeuristics", .object
      [("patterns", .object []), ("fallback", .object [("purpose", .text label)])]),
     ("bundleHeuristics", .object [("patterns", .object []), ("fallback", .object [])]),
     ("semanticTypeMapping", .object [("clusters", .object [])])]

def purposeRules (label : String) : Rules.RuleSet :=
  (Rules.build "inline" (purposeDocument label)).toOption.getD Rules.bare

theorem purpose_built : ∀ label ∈ ["Utility", " Utility "],
    Rules.build "inline" (purposeDocument label) = .ok (purposeRules label) := by
  intro label member
  have valid : ∀ label ∈ ["Utility", " Utility "],
      (Rules.build "inline" (purposeDocument label)).toOption.isSome = true := by decide +kernel
  have accepted := valid label member
  unfold purposeRules
  generalize Rules.build "inline" (purposeDocument label) = result at accepted ⊢
  cases result with
  | ok rules => rfl
  | error fault => cases accepted

def saveUnit : RawUnit :=
  { name := "saveTotal", kind := "function", path := "a.js", startLine := 1, endLine := 1
    code := "function saveTotal() {}", signature := "function saveTotal()", context := {} }

def savedIndex (label : String) : VectorIndex :=
  ((VectorIndex.empty levelBackend 32).add [entryOf (purposeRules label) saveUnit]).2

theorem saved_eq (label : String) : ∃ embedded, savedIndex label =
    { (VectorIndex.empty levelBackend 32).withRecords
        [("saveTotal:a.js:1", ⟨.ofList [0], (classify (purposeRules label) saveUnit).metadata⟩)]
        embedded with ready := true } := by
  have embeds : (VectorIndex.empty levelBackend 32).backend.Embeds _ := level_embeds
  obtain ⟨embedded, added⟩ := VectorIndex.add_eq embeds (by decide) _ _
    (readable_units [classify (purposeRules label) saveUnit])
  exact ⟨embedded, congrArg Prod.snd added⟩

theorem saved_room (label : String) : ((savedIndex label).size : Int) ≤ 1 := by
  obtain ⟨embedded, saved⟩ := saved_eq label
  rw [saved]
  exact Int.le_refl 1

theorem saved_reaches (label text : String) :
    Reaches (savedIndex label) (.ofList [0]) text (-1) := by
  obtain ⟨embedded, saved⟩ := saved_eq label
  have flat : ((Embedding.ofList [0]).norm == 0) = true := by decide +kernel
  have level : (Embedding.ofList [0]).cosine (.ofList [0]) = 0 := by simp [Embedding.cosine, flat]
  rw [saved]
  refine ⟨.inl rfl, .ofList [0], rfl, ?_⟩
  rw [level]
  decide +kernel

theorem no_changes : ∀ change ∈ ([] : List Change), change.Labelled := by
  simp

/-- A purpose without white space around it, and a domain. -/
theorem found_under_labels_saved :
    let rules := purposeRules "Utility"
    let shows (answer : Except Fault (List Hit) × VectorIndex) : Prop :=
      ∃ hits, answer.1 = .ok hits ∧ "saveTotal:a.js:1" ∈ hits.map (·.id)
    Rules.build "inline" (purposeDocument "Utility") = .ok rules ∧
      (classify rules saveUnit).domains = ["file-management"] ∧
      shows ((savedIndex "Utility").searchLabel .type "Utility" 1) ∧
      shows ((savedIndex "Utility").searchLabel .domain "file-management" 1) ∧
      shows ((savedIndex "Utility").search "total" 1 (-1) "Utility") ∧
      shows ((savedIndex "Utility").search "total" 1 (-1) "function") := by
  intro rules shows
  have built := purpose_built "Utility" (by simp)
  have indexed := (found_under_labels built levelBackend 32 no_changes).2.1
  have found : FoundUnder (savedIndex "Utility") "saveTotal:a.js:1" (classify rules saveUnit) _ :=
    indexed _ level_embeds (by decide) [] [] saveUnit _ rfl (by simp [recordsOf])
  have domains : (classify rules saveUnit).domains = ["file-management"] := by decide +kernel
  have reaches := saved_reaches "Utility"
  have room := saved_room "Utility"
  have trimmed : strip "Utility" = "Utility" := by decide +kernel
  refine ⟨built, domains, ?_, ?_, ?_, ?_⟩
  · obtain ⟨hits, answer, shown⟩ := found.type 1 room (reaches _)
    exact ⟨hits, answer, shown.mpr trimmed⟩
  · exact found.domain "file-management" (by simp [domains]) 1 room (reaches _)
  · obtain ⟨hits, answer, shown⟩ := found.purpose "total" 1 (-1) room (reaches _)
    exact ⟨hits, answer, shown.mpr (.inl trimmed)⟩
  · obtain ⟨hits, answer, shown⟩ := found.kind "total" 1 (-1) room (reaches _)
    exact ⟨hits, answer, shown.mpr (.inl (by decide +kernel))⟩

/-- A purpose that the rules have with white space around it. -/
theorem spaced_purpose_lost :
    let rules := purposeRules " Utility "
    let hides (answer : Except Fault (List Hit) × VectorIndex) : Prop :=
      ∃ hits, answer.1 = .ok hits ∧ "saveTotal:a.js:1" ∉ hits.map (·.id)
    Rules.build "inline" (purposeDocument " Utility ") = .ok rules ∧
      (classify rules saveUnit).purpose = " Utility " ∧
      (savedIndex " Utility ").records.map (·.1) = ["saveTotal:a.js:1"] ∧
      (∀ text, Reaches (savedIndex " Utility ") (.ofList [0]) text (-1)) ∧
      hides ((savedIndex " Utility ").searchLabel .type " Utility " 1) ∧
      hides ((savedIndex " Utility ").search "total" 1 (-1) " Utility ") := by
  intro rules hides
  have built := purpose_built " Utility " (by simp)
  have embeds : ((VectorIndex.empty levelBackend 32).changed []).backend.Embeds _ := level_embeds
  have found : FoundUnder (savedIndex " Utility ") "saveTotal:a.js:1" (classify rules saveUnit) _ :=
    add_found_under (Rules.build_ok built) levelBackend 32 no_changes embeds (by decide) [] [] rfl
      (by simp [recordsOf])
  have purpose : (classify rules saveUnit).purpose = " Utility " := by decide +kernel
  have records : (savedIndex " Utility ").records.map (·.1) = ["saveTotal:a.js:1"] := by
    obtain ⟨embedded, saved⟩ := saved_eq " Utility "
    rw [saved]
    rfl
  have room := saved_room " Utility "
  have untrimmed : strip " Utility " ≠ " Utility " := by decide +kernel
  have apart : lower (strip " Utility ") ≠ lower "function" := by decide +kernel
  have reaches := saved_reaches " Utility "
  refine ⟨built, purpose, records, reaches, ?_, ?_⟩
  · obtain ⟨hits, answer, shown⟩ := found.type 1 room (reaches _)
    rw [purpose] at answer shown
    exact ⟨hits, answer, mt shown.mp untrimmed⟩
  · obtain ⟨hits, answer, shown⟩ := found.purpose "total" 1 (-1) room (reaches _)
    rw [purpose] at answer shown
    exact ⟨hits, answer, mt shown.mp (not_or.mpr ⟨untrimmed, apart⟩)⟩

end CodeAtlas.Index
