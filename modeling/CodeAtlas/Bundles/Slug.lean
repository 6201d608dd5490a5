import CodeAtlas.Text.Blank
import CodeAtlas.Text.Lower

set_option autoImplicit false

/-! Slugs: the form in which labels are compared. -/

namespace CodeAtlas.Bundles

open CodeAtlas.Text

def dashed : List Char → List Char
  | [] => []
  | c :: rest =>
    if isBlank c then
      if rest.head?.any isBlank then dashed rest else '-' :: dashed rest
    else (if c = '_' then '-' else c) :: dashed rest

-- Lower case without white space at the ends; inside, white space and underscores are dashes.
def slugOf (label : List Char) : List Char :=
  dashed (lowerChars (trim label))

def slug (label : String) : String :=
  String.ofList (slugOf label.toList)

end CodeAtlas.Bundles
