import CodeAtlas.Index.Basic
import CodeAtlas.Index.Ranking

set_option autoImplicit false

/-! Searching the index. -/

namespace CodeAtlas.Index

open CodeAtlas.Text

structure Hit where
  id : String
  similarity : Float
  metadata : Document

-- A label or one of a list of labels is the wanted one, in any case of letters.
def matchesLabel (label : String) : Document → Bool
  | .list items => items.any fun item => lower item.toText == lower (strip label)
  | .null => false
  | value => lower value.toText == lower (strip label)

def fieldMatches (names : List String) (label : String) : Document → Except Fault Bool
  | .object fields =>
    .ok (names.any fun name => (Keyed.lookup name fields).any (matchesLabel label))
  | _ => .error .noSuchOperation

/-- What a search may keep: anything, or what has a label in one of some fields. -/
inductive Filter
  | all
  | labelled (names : List String) (label : String)

def Filter.keeps (metadata : Document) : Filter → Except Fault Bool
  | .all => .ok true
  | .labelled names label => fieldMatches names label metadata

def kept (filter : Filter) (records : List (String × Stored)) :
    Except Fault (List (String × Stored)) :=
  records.filterM fun record => filter.keeps record.2.metadata

def floatLe (a b : Float) : Bool :=
  a ≤ b

def rank (similarity : Stored → Float) (least : Float) (limit : Nat)
    (records : List (String × Stored)) : List Hit :=
  let scored := records.map fun record => (record, similarity record.2)
  (best floatLe least limit scored).map fun ((id, stored), score) => ⟨id, score, stored.metadata⟩

namespace VectorIndex

/-- What a search is for. -/
structure Query where
  text : String
  limit : Int
  least : Float
  filter : Filter

-- The hits for a query. Nothing is asked of the backend if no hit is wanted.
def find (ix : VectorIndex) (query : Query) : Except Fault (List Hit) × VectorIndex :=
  if query.limit ≤ 0 then (.ok [], ix)
  else
    match ix.prepare with
    | .error fault => (.error fault, ix)
    | .ok ix =>
      let (answer, taken) := ix.askOne query.text
      let hits := do
        let wanted ← answer
        let records ← kept query.filter ix.records
        pure (rank (fun stored => wanted.cosine stored.vector) query.least query.limit.toNat records)
      (hits, { ix with embedded := ix.embedded + taken })

-- A search in which an empty type stands for any.
def search (ix : VectorIndex) (text : String) (limit : Int) (least : Float) (type : String) :
    Except Fault (List Hit) × VectorIndex :=
  let filter := if type.isEmpty then .all else .labelled ["purpose", "kind"] type
  ix.find ⟨text, limit, least, filter⟩

/-- The sorts of labels that can be searched for. -/
inductive LabelSort
  | type
  | domain
  | pattern
  deriving DecidableEq, Repr

def LabelSort.title : LabelSort → String
  | .type => "Type"
  | .domain => "Domain"
  | .pattern => "Patterns"

def LabelSort.fieldName : LabelSort → String
  | .type => "purpose"
  | .domain => "domains"
  | .pattern => "patterns"

def searchLabel (ix : VectorIndex) (sort : LabelSort) (label : String) (limit : Int) :
    Except Fault (List Hit) × VectorIndex :=
  ix.find ⟨s!"{sort.title}: {label}", limit, -1, .labelled [sort.fieldName] label⟩

end VectorIndex

end CodeAtlas.Index
