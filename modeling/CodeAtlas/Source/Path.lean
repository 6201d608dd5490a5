import CodeAtlas.Text.Basic
import CodeAtlas.Text.Lower

set_option autoImplicit false

/-! Segments of a path. Both slashes separate them. -/

namespace CodeAtlas.Source

open CodeAtlas.Text

def isSeparator (c : Char) : Bool :=
  c = '/' || c = '\\'

-- The segments in lower case, without empty ones.
def splitPath (path : String) : List String :=
  ((splitWhere isSeparator (lowerChars path.toList)).filter (!·.isEmpty)).map String.ofList

-- The last segment that is neither empty nor a single dot; nothing if there is none.
def baseName (path : String) : String :=
  match (splitWhere isSeparator path.toList).filter (fun s => !s.isEmpty && s != ['.']) with
  | [] => ""
  | segment :: segments => String.ofList ((segment :: segments).getLast (by simp))

end CodeAtlas.Source
