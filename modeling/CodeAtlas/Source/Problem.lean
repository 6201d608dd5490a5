set_option autoImplicit false

/-! Problems of extraction, with the place they were met at. -/

namespace CodeAtlas.Source

/-- An empty path and line zero stand for an unknown place. -/
structure ExtractionProblem where
  description : String
  path : String
  line : Int
  deriving DecidableEq, Repr

def ExtractionProblem.message (p : ExtractionProblem) : String :=
  String.intercalate " | "
    ([p.description] ++ (if p.path.isEmpty then [] else ["file: " ++ p.path]) ++
      (if p.line == 0 then [] else [s!"line: {p.line}"]))

end CodeAtlas.Source
