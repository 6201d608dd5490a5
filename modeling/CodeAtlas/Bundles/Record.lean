import CodeAtlas.Bundles.Resolve
import CodeAtlas.Classify.Entry

set_option autoImplicit false

/-! Bundles of units that are known by their records alone, where labels and paths need not be texts.
-/

namespace CodeAtlas.Bundles

open CodeAtlas.Classify

def labelText : Document → Except Fault String
  | .text label => .ok label
  | _ => .error .noSuchOperation

def hasSlug (wanted : String) (label : Document) : Except Fault Bool :=
  (labelText label).map fun text => slug text == wanted

def purposesIn (records : List UnitRecord) : Except Fault (List Document) :=
  (Document.list ((records.map (·.purpose)).filter (·.isPresent))).castSet

def patternsIn (records : List UnitRecord) : List Document :=
  records.flatMap (·.patterns)

def recordLabels (records : List UnitRecord) : Except Fault (List Document) := do
  let purposes ← purposesIn records
  let others := (patternsIn records).filter fun p => !purposes.any p.sameMember
  pure (purposes ++ (← (Document.list others).castSet))

def labelledRecord (r : UnitRecord) : Labelled (Option String) :=
  { path := if r.path.isNull then none else some r.path.toText
    kind := presentText r.kind
    purpose := presentText r.purpose
    patterns := r.patterns.filterMap (·.text?) }

def recordBundles (records : List UnitRecord) : Except Fault (List Bundle) := do
  let _ ← (← purposesIn records).mapM labelText
  let _ ← (← (Document.list (patternsIn records)).castSet).mapM labelText
  pure (bundles (records.map labelledRecord))

def isOfType (wanted : String) (r : UnitRecord) : Except Fault Bool := do
  if ← hasSlug wanted r.kind then pure true else r.patterns.anyM (hasSlug wanted)

def isOfPurpose (wanted : String) (r : UnitRecord) : Except Fault Bool :=
  if r.purpose.isPresent then hasSlug wanted r.purpose else .ok false

def recordFiles (label : Document) (records : List UnitRecord) : Except Fault (List Document) :=
  match label.text?.bind wanted? with
  | none => .ok []
  | some wanted => do
    let ofType ← records.filterM (isOfType wanted.slug)
    let found ←
      if wanted.typeOnly || !ofType.isEmpty then pure ofType
      else records.filterM (isOfPurpose wanted.slug)
    (Document.list (found.map (·.path))).castSet

end CodeAtlas.Bundles
