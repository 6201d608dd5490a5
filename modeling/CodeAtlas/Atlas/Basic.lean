import CodeAtlas.Classify.Basic
import CodeAtlas.Embedding.Cache
import CodeAtlas.Index.Basic
import CodeAtlas.Rules.Book
import CodeAtlas.Store

set_option autoImplicit false

/-! The atlas: the units of a project, stored by file, and the index over them. -/

namespace CodeAtlas

open CodeAtlas.Classify CodeAtlas.Embedding CodeAtlas.Files CodeAtlas.Index CodeAtlas.Rules

/-- `generation` counts the scans so far, and `generations` says which of them each file in the
store is from. Units are at least `least` characters long. -/
structure Atlas where
  book : RuleBook
  store : Store ClassifiedUnit
  index : VectorIndex
  cache : Option Cache
  least : Int
  generations : List (String × Int)
  generation : Int

namespace Atlas

def empty (book : RuleBook) (index : VectorIndex) (cache : Option Cache) (least : Int) : Atlas :=
  ⟨book, .empty, index, cache, least, [], 0⟩

def nextGeneration (a : Atlas) : Atlas :=
  { a with generation := a.generation + 1 }

def generationOf (a : Atlas) (path : String) : Int :=
  (Keyed.lookup path a.generations).getD 0

-- The units of a file from one scan, unless a newer scan was first.
def commit (a : Atlas) (path : String) (units : List ClassifiedUnit) (generation : Int) :
    Bool × Atlas :=
  if generation < a.generationOf path then (false, a)
  else
    (true, { a with
      generations := Keyed.put path generation a.generations
      store := a.store.replace path units })

def processText (a : Atlas) (w : Workspace) (path text : String) :
    Except Fault (List ClassifiedUnit) × Atlas :=
  let (rules, book) := a.book.rules w
  (rules.map fun rules => classifyText rules a.least path text, { a with book := book })

def scanText (a : Atlas) (w : Workspace) (path text : String) :
    Except Fault (List ClassifiedUnit) × Atlas :=
  match a.processText w path text with
  | (.ok units, a) =>
    let a := a.nextGeneration
    (.ok units, (a.commit path units a.generation).2)
  | (.error fault, a) => (.error fault, a)

-- Forgets all units. Scans are counted on.
def clear (a : Atlas) : Atlas :=
  { a with index := a.index.clear, store := .empty, generations := [] }

end Atlas

end CodeAtlas
