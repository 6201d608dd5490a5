import CodeAtlas.Proofs.Document.RoundTrip
import CodeAtlas.Proofs.Files.Plain
import CodeAtlas.Proofs.Files.Writing
import CodeAtlas.Proofs.Rules.Operations

set_option autoImplicit false

/-! What the backing file of a rule book holds, before and after the book has written it. -/

namespace CodeAtlas.Rules

open CodeAtlas.Files

/-- The file at a location is JSON text of this document. -/
def Holds (w : Workspace) (location : Location) (document : Document) : Prop :=
  ∃ bytes text, w.read location = .ok bytes ∧ decode bytes = .ok text ∧
    Document.parse text.toList = .ok document

/-- The file at a location holds a rule document, and these are its rules. -/
def Offers (w : Workspace) (location : Location) (rules : RuleSet) : Prop :=
  ∃ document, Holds w location document ∧ build location.text document = .ok rules

theorem ofJson_ok {malformed : String → RuleProblem} {text : String} {document : Document} :
    ofJson malformed text = .ok document ↔ Document.parse text.toList = .ok document := by
  rw [ofJson, enter_unbounded]
  simp only [bind, Except.bind]
  cases Document.parse text.toList with
  | ok other => simp
  | error failure => cases failure <;> simp

theorem read_ok {w : Workspace} {location : Location} {bytes : List UInt8}
    (read : w.read location = .ok bytes) :
    ∃ stored, w.nodeAt location = .ok (.file stored) ∧ stored.bytes = bytes := by
  rw [Workspace.read] at read
  cases here : w.nodeAt location with
  | error fault =>
    rw [here] at read
    cases read
  | ok node =>
    simp only [here, bind, Except.bind] at read
    split at read
    · cases read
    · cases node with
      | folder => cases read
      | file stored =>
        cases read
        exact ⟨stored, rfl, rfl⟩

theorem exists?_read {w : Workspace} {location : Location} {bytes : List UInt8}
    (read : w.read location = .ok bytes) : w.exists? location = .ok true := by
  obtain ⟨stored, here, -⟩ := read_ok read
  rw [Workspace.exists?, here]

theorem readFile_ok {w : Workspace} {location : Location} {origin : Origin} :
    readFile w location = .ok origin ↔
      origin.description = location.text ∧ Holds w location origin.document := by
  constructor
  · intro given
    cases here : w.nodeAt location with
    | error fault => exact absurd given (readFile_missing here origin)
    | ok node =>
      have found : w.exists? location = .ok true := by rw [Workspace.exists?, here]
      cases read : w.read location with
      | error fault =>
        obtain ⟨problem, path, rfl⟩ := read_error_of_nodeAt here read
        rw [readFile_unread rfl found read] at given
        cases given
      | ok bytes =>
        rw [readFile_read rfl found read] at given
        cases decoded : decode bytes with
        | error failure =>
          rw [decoded] at given
          cases given
        | ok text =>
          cases parsed : ofJson (.unreadable location.text) text with
          | error fault =>
            simp only [decoded, parsed, bind, Except.bind] at given
            cases given
          | ok document =>
            simp only [decoded, parsed, bind, Except.bind] at given
            cases given
            exact ⟨rfl, bytes, text, read, decoded, ofJson_ok.mp parsed⟩
  · rintro ⟨described, bytes, text, read, decoded, parsed⟩
    obtain ⟨document, description⟩ := origin
    rw [readFile_read rfl (exists?_read read) read, decoded]
    simp only [ofJson_ok.mpr parsed, bind, Except.bind, ← described]
    rfl

theorem offers_iff {w : Workspace} {location : Location} {rules : RuleSet} :
    Offers w location rules ↔ (do (← readFile w location).build) = .ok rules := by
  constructor
  · rintro ⟨document, holds, built⟩
    have read : readFile w location = .ok ⟨document, location.text⟩ := readFile_ok.mpr ⟨rfl, holds⟩
    rw [read]
    exact built
  · intro built
    cases read : readFile w location with
    | error fault =>
      rw [read] at built
      cases built
    | ok origin =>
      obtain ⟨described, holds⟩ := readFile_ok.mp read
      rw [read] at built
      exact ⟨origin.document, holds, described ▸ built⟩

theorem Offers.unique {w : Workspace} {location : Location} {rules other : RuleSet}
    (offers : Offers w location rules) (again : Offers w location other) : rules = other := by
  rw [offers_iff] at offers again
  exact Except.ok.inj (offers.symm.trans again)

theorem Offers.stamped {w : Workspace} {location : Location} {rules : RuleSet}
    (offers : Offers w location rules) : ∃ stamp, w.stamp? location = .ok (some stamp) := by
  obtain ⟨document, ⟨bytes, text, read, -, -⟩, -⟩ := offers
  obtain ⟨stored, here, -⟩ := read_ok read
  exact ⟨stored.stamp, Workspace.stamp?_file here⟩

/-! ### Saved documents -/

/-- The text that is saved of a document is read back as the document. -/
def Rereads (document : Document) : Prop :=
  Document.parse document.renderIndented.toList = .ok document

/-- If a document is accepted, what is saved of it is read back as the document. -/
def Persists (document : Document) : Prop :=
  ∀ source rules, build source document = .ok rules → Rereads document

theorem rereads_of_isKept {document : Document} (kept : document.isKept = true) :
    Rereads document := by
  rw [Rereads, Document.renderIndented, String.toList_ofList]
  exact Document.parse_write kept _

theorem holds_saved {w later : Workspace} {location : Location} {document : Document}
    {time : Option Float}
    (written : w.write location document.renderIndented.toUTF8.toList time = .ok later)
    (rereads : Rereads document) : Holds later location document := by
  refine ⟨_, document.renderIndented, Workspace.write_read written, ?_, rereads⟩
  exact decode_written (Document.written_write document _)

end CodeAtlas.Rules
