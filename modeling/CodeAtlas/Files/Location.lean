import CodeAtlas.Text.Basic

set_option autoImplicit false

/-! Locations of files: segments below the working folder or below a root. -/

namespace CodeAtlas.Files

open CodeAtlas.Text

/-- The root is empty, or one or two slashes. -/
structure Location where
  root : String
  segments : List String
  deriving DecidableEq, Repr

namespace Location

-- Two slashes at the start are kept; any other number counts as one.
def rootOf : List Char → String
  | '/' :: '/' :: '/' :: _ => "/"
  | '/' :: '/' :: _ => "//"
  | '/' :: _ => "/"
  | _ => ""

def segmentsOf (text : List Char) : List String :=
  ((splitWhere (· == '/') text).filter fun s => !s.isEmpty && s != ['.']).map String.ofList

def ofText (text : String) : Location :=
  ⟨rootOf text.toList, segmentsOf text.toList⟩

def text (location : Location) : String :=
  let text := location.root ++ join "/" location.segments
  if text.isEmpty then "." else text

def isNameable (location : Location) : Bool :=
  !location.segments.any fun s => s.toList.contains '\x00'

end Location

end CodeAtlas.Files
