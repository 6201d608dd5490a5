import CodeAtlas.Bundles.Resolve
import CodeAtlas.Proofs.Bundles.Slug
import CodeAtlas.Proofs.Text.Distinct

set_option autoImplicit false

/-! What the names of bundles resolve to. Names are made of slugs, which labels can share with each
other, with kinds and with the mark of types. A bundle whose label is alone with its slug resolves to the
files it is listed with. -/

namespace CodeAtlas.Bundles

open CodeAtlas.Classify CodeAtlas.Text

section

variable {P : Type}

def Labelled.OfType (name : String) (u : Labelled P) : Prop :=
  slug u.kind = name ∨ ∃ p ∈ u.patterns, slug p = name

def Labelled.OfPurpose (name : String) (u : Labelled P) : Prop :=
  u.purpose ≠ "" ∧ slug u.purpose = name

/-- The units that a bundle is listed for. -/
def Bundle.Carried (b : Bundle) (u : Labelled P) : Prop :=
  match b.origin with
  | .purpose => u.purpose = b.label
  | .pattern => b.label ∈ u.patterns

/-- The units that the name of a bundle reaches among others: types come before purposes, and behind the
mark of a type a name is that of a type. -/
inductive Reached (units : List (Labelled P)) (b : Bundle) (u : Labelled P) : Prop
  | pattern (origin : b.origin = .pattern) (inked : isBlankText b.label = false)
      (typed : u.OfType (slug b.label))
  | marked (name : String) (origin : b.origin = .purpose) (mark : slug b.label = typeMark ++ name)
      (named : name ≠ "") (typed : u.OfType name)
  | type (origin : b.origin = .purpose) (inked : isBlankText b.label = false)
      (unmarked : ∀ name, slug b.label ≠ typeMark ++ name) (typed : u.OfType (slug b.label))
  | purpose (origin : b.origin = .purpose) (inked : isBlankText b.label = false)
      (unmarked : ∀ name, slug b.label ≠ typeMark ++ name)
      (untyped : ∀ v ∈ units, ¬ v.OfType (slug b.label)) (named : u.OfPurpose (slug b.label))

/-- A label that shares its slug with no other label that its bundle's name could mean. -/
structure Alone (units : List (Labelled P)) (b : Bundle) : Prop where
  inked : isBlankText b.label = false
  kinds : ∀ u ∈ units, slug u.kind ≠ slug b.label
  patterns : ∀ u ∈ units, ∀ p ∈ u.patterns, slug p = slug b.label →
    b.origin = .pattern ∧ p = b.label
  purposes : b.origin = .purpose → ∀ u ∈ units, slug u.purpose = slug b.label → u.purpose = b.label
  unmarked : b.origin = .purpose → ∀ name, slug b.label ≠ typeMark ++ name

end

/-! ### Names -/

theorem smartMark_slugged : Slugged smartMark.toList := by
  decide +kernel

theorem typeMark_slugged : Slugged typeMark.toList := by
  decide +kernel

theorem afterMark_append (mark : String) {rest : List Char}
    (slugged : Slugged (mark.toList ++ rest)) : afterMark mark (mark.toList ++ rest) = some rest := by
  have lowered : lowerChars (mark.toList ++ rest) = mark.toList ++ rest :=
    lowerChars_of_not_capital fun c member => (slugged c member).2.2
  simp [afterMark, lowered, ← String.length_toList]

theorem afterMark_eq_none (mark : String) {text : List Char} (slugged : Slugged text)
    (unmarked : ∀ rest, text ≠ mark.toList ++ rest) : afterMark mark text = none := by
  have lowered : lowerChars text = text :=
    lowerChars_of_not_capital fun c member => (slugged c member).2.2
  have other : ¬ mark.toList <+: text := by
    rintro ⟨rest, same⟩
    exact unmarked rest same.symm
  simp [afterMark, lowered, other]

theorem wantedSlug_of_slugged (typeOnly : Bool) {name : String} (slugged : Slugged name.toList) :
    wantedSlug typeOnly name.toList = if name = "" then none else some ⟨name, typeOnly⟩ := by
  rw [wantedSlug, slugOf_of_slugged slugged]
  by_cases empty : name = ""
  · simp [empty]
  · simp [empty]

theorem wanted?_smart {text : String} (slugged : Slugged text.toList) :
    wanted? (smartMark ++ text) =
      (afterMark typeMark text.toList).elim (wantedSlug false text.toList) (wantedSlug true) := by
  have whole : Slugged (smartMark.toList ++ text.toList) := smartMark_slugged.append slugged
  simp only [wanted?, String.toList_append, trim_of_slugged whole, afterMark_append smartMark whole]
  cases afterMark typeMark text.toList <;> rfl

theorem wanted?_marked {name : String} (slugged : Slugged name.toList) :
    wanted? (smartMark ++ (typeMark ++ name)) = if name = "" then none else some ⟨name, true⟩ := by
  have whole : Slugged (typeMark ++ name).toList := by
    rw [String.toList_append]
    exact typeMark_slugged.append slugged
  rw [wanted?_smart whole, String.toList_append, afterMark_append typeMark, Option.elim_some,
    wantedSlug_of_slugged true slugged]
  exact typeMark_slugged.append slugged

theorem wanted?_unmarked {name : String} (slugged : Slugged name.toList)
    (unmarked : ∀ rest, name ≠ typeMark ++ rest) :
    wanted? (smartMark ++ name) = if name = "" then none else some ⟨name, false⟩ := by
  have other (rest : List Char) : name.toList ≠ typeMark.toList ++ rest := by
    intro same
    apply unmarked (String.ofList rest)
    rw [← String.toList_inj, same, String.toList_append, String.toList_ofList]
  rw [wanted?_smart slugged, afterMark_eq_none typeMark slugged other, Option.elim_none,
    wantedSlug_of_slugged false slugged]

/-! ### Files -/

section

variable {P : Type} [BEq P] [LawfulBEq P]

theorem mem_filesWhere (pass : Labelled P → Bool) (units : List (Labelled P)) (path : P) :
    path ∈ filesWhere pass units ↔ ∃ u ∈ units, u.path = path ∧ pass u = true := by
  simp only [filesWhere, mem_distinct, List.mem_map, List.mem_filter]
  constructor
  · rintro ⟨u, ⟨member, passes⟩, here⟩
    exact ⟨u, member, here, passes⟩
  · rintro ⟨u, member, here, passes⟩
    exact ⟨u, ⟨member, passes⟩, here⟩

theorem nodup_filesWhere (pass : Labelled P → Bool) (units : List (Labelled P)) :
    (filesWhere pass units).Nodup :=
  nodup_distinct _

def hasType (name : String) (u : Labelled P) : Bool :=
  slug u.kind == name || u.patterns.any fun p => slug p == name

def hasPurpose (name : String) (u : Labelled P) : Bool :=
  !u.purpose.isEmpty && slug u.purpose == name

omit [BEq P] [LawfulBEq P] in
theorem hasType_iff (name : String) (u : Labelled P) : hasType name u = true ↔ u.OfType name := by
  simp [hasType, Labelled.OfType]

omit [BEq P] [LawfulBEq P] in
theorem hasPurpose_iff (name : String) (u : Labelled P) :
    hasPurpose name u = true ↔ u.OfPurpose name := by
  simp [hasPurpose, Labelled.OfPurpose]

omit [LawfulBEq P] in
theorem filesOf_eq (wanted : Wanted) (units : List (Labelled P)) :
    filesOf wanted units =
      if wanted.typeOnly || !(filesWhere (hasType wanted.slug) units).isEmpty then
        filesWhere (hasType wanted.slug) units
      else filesWhere (hasPurpose wanted.slug) units :=
  rfl

theorem filesWhere_isEmpty (name : String) (units : List (Labelled P)) :
    (filesWhere (hasType name) units).isEmpty = true ↔ ∀ u ∈ units, ¬ u.OfType name := by
  rw [List.isEmpty_iff, List.eq_nil_iff_forall_not_mem]
  simp only [mem_filesWhere, hasType_iff]
  constructor
  · intro nothing u member typed
    exact nothing u.path ⟨u, member, rfl, typed⟩
  · rintro nothing path ⟨u, member, -, typed⟩
    exact nothing u member typed

theorem mem_filesOf_type (name : String) (units : List (Labelled P)) (path : P) :
    path ∈ filesOf ⟨name, true⟩ units ↔ ∃ u ∈ units, u.path = path ∧ u.OfType name := by
  simp only [filesOf_eq, Bool.true_or, if_true, mem_filesWhere, hasType_iff]

theorem mem_filesOf (name : String) (units : List (Labelled P)) (path : P) :
    path ∈ filesOf ⟨name, false⟩ units ↔ ∃ u ∈ units, u.path = path ∧
      (u.OfType name ∨ (∀ v ∈ units, ¬ v.OfType name) ∧ u.OfPurpose name) := by
  rw [filesOf_eq, Bool.false_or]
  by_cases untyped : ∀ v ∈ units, ¬ v.OfType name
  · rw [(filesWhere_isEmpty name units).mpr untyped]
    simp only [Bool.not_true, Bool.false_eq_true, if_false, mem_filesWhere, hasPurpose_iff]
    constructor
    · rintro ⟨u, member, here, named⟩
      exact ⟨u, member, here, .inr ⟨untyped, named⟩⟩
    · rintro ⟨u, member, here, typed | ⟨-, named⟩⟩
      · exact absurd typed (untyped u member)
      · exact ⟨u, member, here, named⟩
  · have typed := mt (filesWhere_isEmpty name units).mp untyped
    simp only [typed, Bool.not_false, if_true, mem_filesWhere, hasType_iff, untyped, false_and,
      or_false]

theorem mem_resolve_marked {name : String} (slugged : Slugged name.toList)
    (units : List (Labelled P)) (path : P) :
    path ∈ resolve (smartMark ++ (typeMark ++ name)) units ↔
      name ≠ "" ∧ ∃ u ∈ units, u.path = path ∧ u.OfType name := by
  rw [resolve, wanted?_marked slugged]
  by_cases empty : name = ""
  · simp [empty]
  · simp [empty, mem_filesOf_type]

theorem mem_resolve_unmarked {name : String} (slugged : Slugged name.toList)
    (unmarked : ∀ rest, name ≠ typeMark ++ rest) (units : List (Labelled P)) (path : P) :
    path ∈ resolve (smartMark ++ name) units ↔ name ≠ "" ∧ ∃ u ∈ units, u.path = path ∧
      (u.OfType name ∨ (∀ v ∈ units, ¬ v.OfType name) ∧ u.OfPurpose name) := by
  rw [resolve, wanted?_unmarked slugged unmarked]
  by_cases empty : name = ""
  · simp [empty]
  · simp [empty, mem_filesOf]

theorem nodup_resolve (label : String) (units : List (Labelled P)) :
    (resolve label units).Nodup := by
  unfold resolve
  cases wanted? label with
  | none => exact List.nodup_nil
  | some wanted =>
    simp only [filesOf_eq]
    split <;> exact nodup_filesWhere _ units

/-! ### Bundles -/

theorem slug_slugged (label : String) : Slugged (slug label).toList := by
  rw [slug, String.toList_ofList]
  exact slugged_slugOf label.toList

theorem slug_ne_empty (label : String) : slug label ≠ "" ↔ isBlankText label = false := by
  rw [← Bool.not_eq_true, isBlankText, List.all_eq_true, ← slugOf_eq_nil, slug, ne_eq,
    String.ofList_eq_empty_iff]

omit [BEq P] [LawfulBEq P] in
theorem mem_purposes (units : List (Labelled P)) (purpose : String) :
    purpose ∈ purposes units ↔ purpose ≠ "" ∧ ∃ u ∈ units, u.purpose = purpose := by
  simp [purposes, labelSet, sortTexts, and_comm]

omit [BEq P] [LawfulBEq P] in
theorem mem_patterns (units : List (Labelled P)) (pattern : String) :
    pattern ∈ patterns units ↔ ∃ u ∈ units, pattern ∈ u.patterns := by
  simp [patterns, labelSet, sortTexts]

theorem purposeBundle_files {units : List (Labelled P)} {u : Labelled P} (member : u ∈ units) :
    0 < (purposeBundle units u.purpose).fileCount := by
  apply List.length_pos_of_mem (a := u.path)
  rw [mem_filesWhere]
  exact ⟨u, member, rfl, by simp⟩

theorem patternBundle_files {units : List (Labelled P)} {u : Labelled P} (member : u ∈ units)
    {p : String} (inside : p ∈ u.patterns) : 0 < (patternBundle units p).fileCount := by
  apply List.length_pos_of_mem (a := u.path)
  rw [mem_filesWhere]
  exact ⟨u, member, rfl, by simpa using inside⟩

/-- A bundle of each purpose and of each pattern. -/
theorem mem_bundles (units : List (Labelled P)) (b : Bundle) :
    b ∈ bundles units ↔
      (∃ u ∈ units, u.purpose ≠ "" ∧ b = purposeBundle units u.purpose) ∨
        ∃ u ∈ units, ∃ p ∈ u.patterns, b = patternBundle units p := by
  simp only [bundles, List.mem_filter, List.mem_append, List.mem_map, mem_purposes, mem_patterns,
    decide_eq_true_eq]
  constructor
  · rintro ⟨⟨purpose, ⟨some_purpose, u, member, rfl⟩, rfl⟩ | ⟨p, ⟨u, member, inside⟩, rfl⟩,
      -⟩
    · exact .inl ⟨u, member, some_purpose, rfl⟩
    · exact .inr ⟨u, member, p, inside, rfl⟩
  · rintro (⟨u, member, some_purpose, rfl⟩ | ⟨u, member, p, inside, rfl⟩)
    · exact ⟨.inl ⟨u.purpose, ⟨some_purpose, u, member, rfl⟩, rfl⟩, purposeBundle_files member⟩
    · exact ⟨.inr ⟨p, ⟨u, member, inside⟩, rfl⟩, patternBundle_files member inside⟩

theorem mem_resolve_pattern (units : List (Labelled P)) (label : String) (path : P) :
    path ∈ resolve (patternBundle units label).name units ↔
      ∃ u ∈ units, u.path = path ∧ Reached units (patternBundle units label) u := by
  simp only [patternBundle, String.append_assoc, mem_resolve_marked (slug_slugged label)]
  constructor
  · rintro ⟨named, u, member, here, typed⟩
    exact ⟨u, member, here, .pattern rfl ((slug_ne_empty label).mp named) typed⟩
  · rintro ⟨u, member, here, reached⟩
    cases reached with
    | pattern origin inked typed =>
      exact ⟨(slug_ne_empty label).mpr inked, u, member, here, typed⟩
    | marked name origin => cases origin
    | type origin => cases origin
    | purpose origin => cases origin

theorem mem_resolve_purpose (units : List (Labelled P)) (label : String) (path : P) :
    path ∈ resolve (purposeBundle units label).name units ↔
      ∃ u ∈ units, u.path = path ∧ Reached units (purposeBundle units label) u := by
  by_cases unmarked : ∀ name, slug label ≠ typeMark ++ name
  · simp only [purposeBundle, mem_resolve_unmarked (slug_slugged label) unmarked]
    constructor
    · rintro ⟨named, u, member, here, typed | ⟨untyped, meant⟩⟩
      · exact ⟨u, member, here, .type rfl ((slug_ne_empty label).mp named) unmarked typed⟩
      · exact ⟨u, member, here,
          .purpose rfl ((slug_ne_empty label).mp named) unmarked untyped meant⟩
    · rintro ⟨u, member, here, reached⟩
      cases reached with
      | pattern origin => cases origin
      | marked name origin mark => exact absurd mark (unmarked name)
      | type origin inked _ typed =>
        exact ⟨(slug_ne_empty label).mpr inked, u, member, here, .inl typed⟩
      | purpose origin inked _ untyped meant =>
        exact ⟨(slug_ne_empty label).mpr inked, u, member, here, .inr ⟨untyped, meant⟩⟩
  · simp only [not_forall, not_not] at unmarked
    obtain ⟨name, mark⟩ := unmarked
    have slugged : Slugged name.toList := by
      have whole := slug_slugged label
      rw [mark, String.toList_append] at whole
      exact whole.of_append
    simp only [purposeBundle, mark, mem_resolve_marked slugged]
    constructor
    · rintro ⟨named, u, member, here, typed⟩
      exact ⟨u, member, here, .marked name rfl mark named typed⟩
    · rintro ⟨u, member, here, reached⟩
      cases reached with
      | pattern origin => cases origin
      | marked other origin same named typed =>
        have equal : other = name := by
          have texts := congrArg String.toList (same.symm.trans mark)
          rwa [String.toList_append, String.toList_append, List.append_cancel_left_eq,
            String.toList_inj] at texts
        subst equal
        exact ⟨named, u, member, here, typed⟩
      | type origin inked unmarked => exact absurd mark (unmarked name)
      | purpose origin inked unmarked => exact absurd mark (unmarked name)

theorem mem_resolve_bundle {units : List (Labelled P)} {b : Bundle} (listed : b ∈ bundles units)
    (path : P) :
    path ∈ resolve b.name units ↔ ∃ u ∈ units, u.path = path ∧ Reached units b u := by
  obtain ⟨u, -, -, rfl⟩ | ⟨u, -, p, -, rfl⟩ := (mem_bundles units b).mp listed
  · exact mem_resolve_purpose units u.purpose path
  · exact mem_resolve_pattern units p path

theorem bundle_files {units : List (Labelled P)} {b : Bundle} (listed : b ∈ bundles units) :
    ∃ files : List P, files.Nodup ∧ files.length = b.fileCount ∧
      ∀ path, path ∈ files ↔ ∃ u ∈ units, u.path = path ∧ b.Carried u := by
  obtain ⟨v, -, -, rfl⟩ | ⟨v, -, p, -, rfl⟩ := (mem_bundles units b).mp listed
  · refine ⟨_, nodup_filesWhere _ units, rfl, fun path => ?_⟩
    simp [mem_filesWhere, Bundle.Carried, purposeBundle]
  · refine ⟨_, nodup_filesWhere _ units, rfl, fun path => ?_⟩
    simp [mem_filesWhere, Bundle.Carried, patternBundle]

omit [BEq P] [LawfulBEq P] in
theorem Alone.reached_iff {units : List (Labelled P)} {b : Bundle} (alone : Alone units b)
    {u : Labelled P} (member : u ∈ units) : Reached units b u ↔ b.Carried u := by
  have typed_pattern {v : Labelled P} (inside : v ∈ units) (typed : v.OfType (slug b.label)) :
      b.origin = .pattern ∧ b.label ∈ v.patterns := by
    obtain kind | ⟨p, has, same⟩ := typed
    · exact absurd kind (alone.kinds v inside)
    · obtain ⟨origin, rfl⟩ := alone.patterns v inside p has same
      exact ⟨origin, has⟩
  constructor
  · intro reached
    cases reached with
    | pattern origin inked typed => simpa [Bundle.Carried, origin] using (typed_pattern member typed).2
    | marked name origin mark => exact absurd mark (alone.unmarked origin name)
    | type origin inked unmarked typed =>
      rw [(typed_pattern member typed).1] at origin
      cases origin
    | purpose origin inked unmarked untyped named =>
      simpa [Bundle.Carried, origin] using alone.purposes origin u member named.2
  · intro carried
    cases origin : b.origin with
    | pattern =>
      have has : b.label ∈ u.patterns := by simpa [Bundle.Carried, origin] using carried
      exact .pattern origin alone.inked (.inr ⟨b.label, has, rfl⟩)
    | purpose =>
      have meant : u.purpose = b.label := by simpa [Bundle.Carried, origin] using carried
      have named : u.OfPurpose (slug b.label) := by
        refine ⟨?_, congrArg slug meant⟩
        rw [meant]
        rintro empty
        have inked := alone.inked
        rw [empty] at inked
        exact absurd inked (by decide)
      apply Reached.purpose origin alone.inked (alone.unmarked origin) _ named
      intro v inside typed
      rw [(typed_pattern inside typed).1] at origin
      cases origin

end

/-! ### Bundles of a store -/

/-- The name of a bundle resolves to the files of the units it reaches. These are the files that the bundle
is listed with where its label is alone with its slug. -/
theorem resolve_listed (s : Store ClassifiedUnit) (b : Bundle)
    (listed : b ∈ bundles (s.all.map labelledUnit)) :
    (resolve b.name (s.all.map labelledUnit)).Nodup ∧
      (∀ path, path ∈ resolve b.name (s.all.map labelledUnit) ↔
        ∃ u ∈ s.all, u.raw.path = path ∧ Reached (s.all.map labelledUnit) b (labelledUnit u)) ∧
      (Alone (s.all.map labelledUnit) b →
        (∀ path, path ∈ resolve b.name (s.all.map labelledUnit) ↔
          ∃ u ∈ s.all, u.raw.path = path ∧ b.Carried (labelledUnit u)) ∧
        (resolve b.name (s.all.map labelledUnit)).length = b.fileCount) := by
  have unique := nodup_resolve b.name (s.all.map labelledUnit)
  have found := mem_resolve_bundle listed
  refine ⟨unique, fun path => ?_, fun alone => ?_⟩
  · simp [found, labelledUnit]
  · have same (path : String) : path ∈ resolve b.name (s.all.map labelledUnit) ↔
        ∃ u ∈ s.all.map labelledUnit, u.path = path ∧ b.Carried u := by
      rw [found]
      constructor
      · rintro ⟨u, member, here, reached⟩
        exact ⟨u, member, here, (alone.reached_iff member).mp reached⟩
      · rintro ⟨u, member, here, carried⟩
        exact ⟨u, member, here, (alone.reached_iff member).mpr carried⟩
    constructor
    · intro path
      simp [same, labelledUnit]
    · obtain ⟨files, once, counted, carried⟩ := bundle_files listed
      rw [← counted]
      apply List.Perm.length_eq
      rw [List.perm_ext_iff_of_nodup unique once]
      intro path
      rw [same, carried]

/-- A unit that is looked at for its labels alone. -/
def labelledBy (path kind purpose : String) (patterns : List String) : ClassifiedUnit :=
  { raw := ⟨"", kind, path, 1, 1, "", "", {}⟩
    purpose := purpose
    confidence := 1
    domains := []
    patterns := patterns
    complexity := ⟨1, .low⟩
    tags := [] }

def shelf : Store ClassifiedUnit :=
  ⟨[("src/check.ts", [labelledBy "src/check.ts" "function" "Type checker" ["public-api"]]),
    ("web/card.tsx", [labelledBy "web/card.tsx" "react_component" "React component" ["public-api"]])]⟩

theorem resolve_listed_shelf :
    resolve "smart:type-public-api" (shelf.all.map labelledUnit) = ["src/check.ts", "web/card.tsx"] ∧
    (resolve "smart:type-public-api" (shelf.all.map labelledUnit)).length =
      (patternBundle (shelf.all.map labelledUnit) "public-api").fileCount := by
  have listed : patternBundle (shelf.all.map labelledUnit) "public-api" ∈
      bundles (shelf.all.map labelledUnit) := by
    rw [mem_bundles]
    exact .inr ⟨_, List.mem_cons_self, "public-api", List.mem_cons_self, rfl⟩
  have alone : Alone (shelf.all.map labelledUnit)
      (patternBundle (shelf.all.map labelledUnit) "public-api") := by
    constructor
    · decide +kernel
    · decide +kernel
    · decide +kernel
    · intro origin
      cases origin
    · intro origin
      cases origin
  have counted := ((resolve_listed shelf _ listed).2.2 alone).2
  have name : (patternBundle (shelf.all.map labelledUnit) "public-api").name =
    "smart:type-public-api" := by decide +kernel
  rw [name] at counted
  exact ⟨by decide +kernel, counted⟩

-- The slug of a purpose that starts as types do is read as the name of a type.
theorem resolve_misses_listed : ¬ ∀ (s : Store ClassifiedUnit) (b : Bundle),
    (∀ u ∈ s.all, isBlankText u.purpose = false) → b ∈ bundles (s.all.map labelledUnit) →
      (∀ path, path ∈ resolve b.name (s.all.map labelledUnit) ↔
        ∃ u ∈ s.all, u.raw.path = path ∧ b.Carried (labelledUnit u)) ∧
      (resolve b.name (s.all.map labelledUnit)).length = b.fileCount := by
  intro always
  have listed : purposeBundle (shelf.all.map labelledUnit) "Type checker" ∈
      bundles (shelf.all.map labelledUnit) := by
    rw [mem_bundles]
    exact .inl ⟨_, List.mem_cons_self, by decide, rfl⟩
  have counted := (always shelf _ (by decide +kernel) listed).2
  exact absurd counted (by decide +kernel)

end CodeAtlas.Bundles
