import CodeAtlas.Bundles.Slug
import CodeAtlas.Classify.Record
import CodeAtlas.Store

set_option autoImplicit false

/-! Bundles: files grouped by the labels of their units. -/

namespace CodeAtlas.Bundles

open CodeAtlas.Classify CodeAtlas.Text

/-- What a bundle looks at in a unit of a file. An empty purpose is none. -/
structure Labelled (P : Type) where
  path : P
  kind : String
  purpose : String
  patterns : List String

def labelledUnit (u : ClassifiedUnit) : Labelled String :=
  ⟨u.raw.path, u.raw.kind, u.purpose, u.patterns⟩

variable {P : Type} [BEq P]

def filesWhere (pass : Labelled P → Bool) (units : List (Labelled P)) : List P :=
  distinct ((units.filter pass).map (·.path))

def purposes (units : List (Labelled P)) : List String :=
  labelSet ((units.map (·.purpose)).filter (!·.isEmpty))

def patterns (units : List (Labelled P)) : List String :=
  labelSet (units.flatMap (·.patterns))

def labels (units : List (Labelled P)) : List String :=
  let known := purposes units
  known ++ (patterns units).filter fun label => !known.contains label

/-- What a label asks for: files whose units have its slug as kind or pattern or, unless the label
is one of a type, as purpose. -/
structure Wanted where
  slug : String
  typeOnly : Bool
  deriving DecidableEq, Repr

def smartMark : String := "smart:"

def typeMark : String := "type-"

def afterMark (mark : String) (text : List Char) : Option (List Char) :=
  if mark.toList.isPrefixOf (lowerChars text) then some (text.drop mark.length) else none

def wantedSlug (typeOnly : Bool) (text : List Char) : Option Wanted :=
  match slugOf text with
  | [] => none
  | slug => some ⟨String.ofList slug, typeOnly⟩

-- A label without a slug asks for nothing. The mark of a type counts only behind the first mark.
def wanted? (label : String) : Option Wanted :=
  let text := trim label.toList
  match afterMark smartMark text with
  | none => wantedSlug false text
  | some rest =>
    match afterMark typeMark rest with
    | none => wantedSlug false rest
    | some name => wantedSlug true name

def filesOf (wanted : Wanted) (units : List (Labelled P)) : List P :=
  let byType := filesWhere (fun u =>
    slug u.kind == wanted.slug || u.patterns.any fun p => slug p == wanted.slug) units
  if wanted.typeOnly || !byType.isEmpty then byType
  else filesWhere (fun u => !u.purpose.isEmpty && slug u.purpose == wanted.slug) units

def resolve (label : String) (units : List (Labelled P)) : List P :=
  match wanted? label with
  | some wanted => filesOf wanted units
  | none => []

inductive Origin
  | purpose
  | pattern
  deriving DecidableEq, Repr

def Origin.label : Origin → String
  | .purpose => "purpose"
  | .pattern => "pattern"

structure Bundle where
  name : String
  label : String
  origin : Origin
  fileCount : Nat
  description : String
  deriving DecidableEq, Repr

def purposeBundle (units : List (Labelled P)) (purpose : String) : Bundle :=
  { name := smartMark ++ slug purpose
    label := purpose
    origin := .purpose
    fileCount := (filesWhere (fun u => u.purpose == purpose) units).length
    description := s!"Automatically grouped by purpose: {purpose}" }

def patternBundle (units : List (Labelled P)) (pattern : String) : Bundle :=
  { name := smartMark ++ typeMark ++ slug pattern
    label := pattern
    origin := .pattern
    fileCount := (filesWhere (fun u => u.patterns.contains pattern) units).length
    description := s!"All {pattern} units across the codebase" }

def bundles (units : List (Labelled P)) : List Bundle :=
  ((purposes units).map (purposeBundle units) ++ (patterns units).map (patternBundle units)).filter
    fun bundle => 0 < bundle.fileCount

end CodeAtlas.Bundles
