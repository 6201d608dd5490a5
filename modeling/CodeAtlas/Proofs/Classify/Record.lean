import CodeAtlas.Classify.Record
import CodeAtlas.Proofs.Document.RoundTrip
import CodeAtlas.Proofs.Number.Order
import CodeAtlas.Proofs.Rules.WellFormed
import CodeAtlas.Proofs.Text.Distinct

set_option autoImplicit false

/-! Classified units written as documents and read back. -/

namespace CodeAtlas.Text

theorem distinct_of_nodup {α : Type} [BEq α] [LawfulBEq α] {elements : List α}
    (apart : elements.Nodup) : distinct elements = elements := by
  induction elements with
  | nil => rfl
  | cons first rest ih =>
    obtain ⟨fresh, later⟩ := List.nodup_cons.mp apart
    rw [distinct, ih later, List.filter_eq_self.mpr]
    intro other member
    have differs : other ≠ first := fun same => fresh (same ▸ member)
    simpa using differs

end CodeAtlas.Text

namespace CodeAtlas.Classify

open CodeAtlas.Rules CodeAtlas.Source CodeAtlas.Text

/-! ### Sets of labels -/

theorem inOrder_trans (a b c : String) (first : inOrder a b = true) (second : inOrder b c = true) :
    inOrder a c = true := by
  simp only [inOrder, Bool.not_eq_true', decide_eq_false_iff_not] at first second ⊢
  exact String.le_trans first second

theorem inOrder_total (a b : String) : (inOrder a b || inOrder b a) = true := by
  simp only [inOrder, Bool.or_eq_true, Bool.not_eq_true', decide_eq_false_iff_not]
  exact String.le_total a b

theorem inOrder_antisymm (a b : String) (first : inOrder a b = true) (second : inOrder b a = true) :
    a = b := by
  simp only [inOrder, Bool.not_eq_true', decide_eq_false_iff_not] at first second
  exact String.le_antisymm first second

-- A set of labels is known from its members.
theorem labelSet_congr {labels others : List String}
    (same : ∀ label, label ∈ labels ↔ label ∈ others) : labelSet labels = labelSet others := by
  have sorted (texts : List String) : (sortTexts texts).Pairwise (inOrder · ·) :=
    List.pairwise_mergeSort inOrder_trans inOrder_total texts
  apply List.Perm.eq_of_pairwise _ (sorted _) (sorted _)
  · exact ((List.mergeSort_perm _ _).trans (distinct_perm same)).trans (List.mergeSort_perm _ _).symm
  · exact fun a b _ _ => inOrder_antisymm a b

/-- Texts as a set is written: in order, and none twice. -/
def IsSet (texts : List String) : Prop :=
  sortTexts (distinct texts) = texts

theorem nodup_labelSet (labels : List String) : (labelSet labels).Nodup :=
  (List.mergeSort_perm _ _).nodup_iff.mpr (nodup_distinct labels)

theorem isSet_labelSet (labels : List String) : IsSet (labelSet labels) := by
  rw [IsSet, distinct_of_nodup (nodup_labelSet labels)]
  exact List.mergeSort_of_pairwise (List.pairwise_mergeSort inOrder_trans inOrder_total _)

theorem mapM_text (texts : List String) : (textList texts).mapM Document.text? = some texts := by
  induction texts with
  | nil => rfl
  | cons text texts ih =>
    rw [textList] at ih
    rw [textList, List.map_cons, List.mapM_cons, ih]
    rfl

theorem castSet_texts {texts : List String} (set : IsSet texts) :
    Document.castSet (.list (textList texts)) = .ok (textList texts) := by
  have sorted : Document.sortedTexts texts = textList texts := congrArg textList set
  simp only [Document.castSet, Document.castList, bind, Except.bind, mapM_text, sorted]
  rfl

/-! ### Records -/

theorem textList_inj {texts others : List String} : textList texts = textList others ↔ texts = others :=
  List.map_inj_right fun _ _ => Document.text.inj

theorem level_inj {level other : Level} (same : level.label = other.label) : level = other := by
  cases level <;> cases other <;> first | rfl | exact absurd same (by decide)

-- A record says everything of its unit.
theorem record_inj {u v : ClassifiedUnit} (same : u.record = v.record) : u = v := by
  obtain ⟨⟨name, kind, path, start, stop, code, signature, ⟨imports, types, calls⟩⟩, purpose,
    confidence, domains, patterns, ⟨score, level⟩, tags⟩ := u
  obtain ⟨⟨name', kind', path', start', stop', code', signature', ⟨imports', types', calls'⟩⟩,
    purpose', confidence', domains', patterns', ⟨score', level'⟩, tags'⟩ := v
  simp only [ClassifiedUnit.record, UnitRecord.mk.injEq, Document.text.injEq, textList_inj,
    Int.ofNat_inj] at same
  obtain ⟨rfl, rfl, rfl, rfl, rfl, rfl, rfl, rfl, rfl, rfl, rfl, rfl, rfl, rfl, rfl, label, rfl⟩ := same
  rw [level_inj label]

/-- The labels of a unit are sets. -/
structure ClassifiedUnit.Canonical (u : ClassifiedUnit) : Prop where
  domains : IsSet u.domains
  patterns : IsSet u.patterns
  tags : IsSet u.tags

theorem classify_canonical (rules : RuleSet) (raw : RawUnit) : (classify rules raw).Canonical :=
  ⟨isSet_labelSet _, isSet_labelSet _, isSet_labelSet _⟩

-- A record is read back as it was written, if its sets are.
theorem read_toDocument {r : UnitRecord}
    (domains : Document.castSet (.list r.domains) = .ok r.domains)
    (patterns : Document.castSet (.list r.patterns) = .ok r.patterns)
    (tags : Document.castSet (.list r.tags) = .ok r.tags) : UnitRecord.read r.toDocument = .ok r := by
  simp only [UnitRecord.read, UnitRecord.listField, UnitRecord.setField, UnitRecord.toDocument,
    UnitRecord.toFields, Document.memberObject, Document.required, Document.memberOr,
    Document.member, bind, Except.bind, pure, Except.pure]
  simp [Keyed.lookup, Document.isPresent, Document.castInt, Document.castFloat, Document.castList,
    domains, patterns, tags]

/-- The unit is what its document is read as, and is equal to that in each field. -/
structure Survives (u : ClassifiedUnit) : Prop where
  read : UnitRecord.read u.toDocument = .ok u.record
  own : ∀ other : ClassifiedUnit, other.record = u.record → other = u
  comparable : (u.confidence == u.confidence) = true

theorem InUnit.comparable {x : Float} (inside : InUnit x) : (x == x) = true := by
  have above := (Number.floatLe_iff 0.0 x).mp (decide_eq_true inside.1)
  exact (Number.beq_self_iff x).mpr (ne_bot_of_le_ne_bot above.1 above.2)

theorem survives_classify {rules : RuleSet} (formed : rules.WellFormed) (raw : RawUnit) :
    Survives (classify rules raw) where
  read := by
    obtain ⟨domains, patterns, tags⟩ := classify_canonical rules raw
    exact read_toDocument (castSet_texts domains) (castSet_texts patterns) (castSet_texts tags)
  own _ same := record_inj same
  comparable := InUnit.comparable (judged formed raw).classified.2

end CodeAtlas.Classify
