import CodeAtlas.Proofs.Atlas.Classified
import CodeAtlas.Proofs.Classify.Record
import CodeAtlas.Proofs.Rules.Backing
import CodeAtlas.Proofs.Rules.Nesting
import CodeAtlas.Proofs.Settings
import CodeAtlas.Proofs.Source.Refinement

set_option autoImplicit false

/-! What a scan prints as a document, read back as the units in the store. -/

namespace CodeAtlas

open CodeAtlas.Classify CodeAtlas.Files CodeAtlas.Rules CodeAtlas.Source

namespace Document

theorem isKept_texts (texts : List String) : (Document.list (textList texts)).isKept = true := by
  refine isKept_list.mpr fun item member => ?_
  obtain ⟨text, -, rfl⟩ := List.mem_map.mp member
  rfl

end Document

namespace Classify

/-- The numbers of a unit are short enough to be written, and its confidence is read back as it was
written. -/
structure Legible (u : ClassifiedUnit) : Prop where
  start : (Document.int u.raw.startLine).isKept = true
  stop : (Document.int u.raw.endLine).isKept = true
  score : (Document.int u.complexity.score).isKept = true
  confidence : (Document.float u.confidence).isKept = true

-- All else in the document of a unit is texts, and no two fields of an object have one name.
theorem Legible.document {u : ClassifiedUnit} (legible : Legible u) :
    u.toDocument.isKept = true := by
  have context : (Document.object [("imports", .list u.record.imports),
      ("types", .list u.record.types), ("calledFunctions", .list u.record.calls)]).isKept = true :=
    Document.isKept_object.mpr ⟨by simp, by simp [ClassifiedUnit.record, Document.isKept_texts]⟩
  have complexity : (Document.object
      [("score", .int u.record.score), ("level", u.record.level)]).isKept = true :=
    Document.isKept_object.mpr
      ⟨by simp, List.forall_mem_cons.mpr ⟨legible.score, List.forall_mem_singleton.mpr rfl⟩⟩
  refine Document.isKept_object.mpr ⟨by simp [UnitRecord.toFields], ?_⟩
  simp only [UnitRecord.toFields, List.forall_mem_cons]
  exact ⟨rfl, rfl, rfl, rfl, legible.start, legible.stop, rfl, rfl, context, rfl,
    legible.confidence, Document.isKept_texts _, Document.isKept_texts _, complexity,
    Document.isKept_texts _, List.forall_mem_nil _⟩

-- Records are read one after the other.
theorem mapM_read {units : List ClassifiedUnit} (survive : ∀ u ∈ units, Survives u) :
    (units.map (·.toDocument)).mapM UnitRecord.read = .ok (units.map (·.record)) := by
  induction units with
  | nil => rfl
  | cons u units ih =>
    obtain ⟨first, rest⟩ := List.forall_mem_cons.mp survive
    rw [List.map_cons, List.mapM_cons, first.read, ih rest]
    rfl

end Classify

namespace Command

theorem scanDocument_kept {units : List ClassifiedUnit} (legible : ∀ u ∈ units, Legible u) :
    (scanDocument true units).isKept = true := by
  refine Document.isKept_list.mpr fun item member => ?_
  obtain ⟨u, inside, rfl⟩ := List.mem_map.mp member
  exact (legible u inside).document

theorem scanned_formed {s : Surroundings} {settings : Settings} {files : List String}
    {stats : ScanStats} {a : Atlas} {w : Workspace}
    (done : scanned s settings files = .ok (stats, a, w)) : a.Formed := by
  obtain ⟨⟨opened, v⟩, openedOk, finished⟩ := ok_of_bind done
  obtain ⟨found, -, same⟩ := ok_of_bind finished
  obtain ⟨backend, -, rfl⟩ := openAtlas_ok openedOk
  obtain ⟨rfl, rfl, rfl⟩ := Except.ok.inj same
  exact Atlas.scan_formed (Atlas.empty_formed _ _ _ _) _ _

/-- From the text that a scan prints of these units, all of them can be had again in order, if the text
is read back as the document that it was written for. It is if each unit is legible. -/
structure Recovered (units : List ClassifiedUnit) : Prop where
  survive : ∀ u ∈ units, Survives u
  read : Rereads (scanDocument true units) → ∃ items,
    Document.parse (scanDocument true units).renderIndented.toList = .ok (.list items) ∧
      items.mapM UnitRecord.read = .ok (units.map (·.record))
  rereads : (∀ u ∈ units, Legible u) → Rereads (scanDocument true units)

theorem recovered_of_formed {a : Atlas} (formed : a.Formed) : Recovered a.store.all := by
  have survive : ∀ u ∈ a.store.all, Survives u := by
    intro u member
    obtain ⟨rules, raw, wellFormed, rfl⟩ := formed.units u member
    exact survives_classify wellFormed raw
  exact ⟨survive, fun rereads => ⟨_, rereads, mapM_read survive⟩,
    fun legible => rereads_of_isKept (scanDocument_kept legible)⟩

/-- Units survive as documents, whichever rules they were classified by, and a scan prints documents from
which the units in the store are read back in order. -/
theorem units_survive :
    (∀ (source : String) (document : Document) (rules : RuleSet),
      Rules.build source document = .ok rules →
        ∀ (least : Int) (path text : String), ∀ u ∈ classifyText rules least path text, Survives u) ∧
    ∀ (s : Surroundings) (rulesPath : String) (files : List String),
      runScan s rulesPath files true true =
        (scanned s (settingsFor s rulesPath "" false) files).map (fun (_, a, _) =>
          printed [(scanDocument true a.store.all).renderIndented] a 0) ∧
      ∀ stats a w, scanned s (settingsFor s rulesPath "" false) files = .ok (stats, a, w) →
        Recovered a.store.all := by
  refine ⟨fun source document rules built least path text u member => ?_,
    fun s rulesPath files => ⟨?_, ?_⟩⟩
  · obtain ⟨raw, -, rfl⟩ := List.mem_map.mp member
    exact survives_classify (build_ok built) raw
  · rw [runScan]
    cases scanned s (settingsFor s rulesPath "" false) files with
    | error fault => rfl
    | ok found => rfl
  · intro stats a w done
    exact recovered_of_formed (scanned_formed done)

/-- Two files with a function each, and no cache. -/
def arrowFolder : Surroundings where
  workspace :=
    ⟨[(["a.js"], .file ⟨"const f = (x) => load(x)".toUTF8.toList, .fresh 0⟩),
      (["b.js"], .file ⟨"const g = (x) => x".toUTF8.toList, .fresh 1⟩)], 2, []⟩
  environment := [("CODEINDEX_CACHE_DIR", "")]
  input := ""
  cache := .empty

-- The units are read back in the order in which their files were named.
theorem units_survive_arrows : Survives (classify builtin boxUnit) ∧
    ∃ stats a w items,
      scanned arrowFolder (settingsFor arrowFolder "" "" false) ["b.js", "a.js"] =
        .ok (stats, a, w) ∧
      a.store.all.map (·.raw.name) = ["g", "f"] ∧
      Document.parse (scanDocument true a.store.all).renderIndented.toList = .ok (.list items) ∧
      items.mapM UnitRecord.read = .ok (a.store.all.map (·.record)) := by
  have own := units_survive.1 "default" Builtin.document builtin build_builtin 10 "src/box.tsx"
    boxText _ (List.mem_map_of_mem boxUnit_mem)
  let numbers (u : ClassifiedUnit) :=
    (u.raw.startLine, u.raw.endLine, u.complexity.score, u.confidence)
  have seen : (scanned arrowFolder (settingsFor arrowFolder "" "" false)
      ["b.js", "a.js"]).toOption.map (fun found => found.2.1.store.all.map fun u =>
        (u.raw.name, numbers u)) = some [("g", 1, 1, 1, 0.5), ("f", 1, 1, 1, 0.5)] := by
    decide +kernel
  cases done : scanned arrowFolder (settingsFor arrowFolder "" "" false) ["b.js", "a.js"] with
  | error fault =>
    rw [done] at seen
    cases seen
  | ok found =>
    obtain ⟨stats, a, w⟩ := found
    rw [done] at seen
    have listed := Option.some.inj seen
    have named : a.store.all.map (·.raw.name) = ["g", "f"] := by
      simpa [Function.comp_def] using congrArg (List.map (·.1)) listed
    have numbered : a.store.all.map numbers = List.replicate 2 (1, 1, 1, 0.5) := by
      simpa [Function.comp_def] using congrArg (List.map (·.2)) listed
    have one : (Document.int 1).isKept = true := by decide +kernel
    have half : (Document.float 0.5).isKept = true := by decide +kernel
    have legible : ∀ u ∈ a.store.all, Legible u := by
      intro u member
      have told : numbers u = (1, 1, 1, 0.5) :=
        List.eq_of_mem_replicate (numbered ▸ List.mem_map_of_mem member)
      simp only [numbers, Prod.mk.injEq] at told
      obtain ⟨start, stop, score, confidence⟩ := told
      exact ⟨start ▸ one, stop ▸ one, score ▸ one, confidence ▸ half⟩
    have recovered := (units_survive.2 arrowFolder "" ["b.js", "a.js"]).2 stats a w done
    obtain ⟨items, parsed, read⟩ := recovered.read (recovered.rereads legible)
    exact ⟨own, stats, a, w, items, rfl, named, parsed, read⟩

end Command

end CodeAtlas
