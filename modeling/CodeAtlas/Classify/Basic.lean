import CodeAtlas.Classify.Labels
import CodeAtlas.Classify.Purpose
import CodeAtlas.Source.Complexity
import CodeAtlas.Source.Extract

set_option autoImplicit false

/-! Classified units: purpose, business domains, technical patterns, complexity and tags. -/

namespace CodeAtlas.Classify

open CodeAtlas.Rules CodeAtlas.Source CodeAtlas.Text

/-- What the domain bank looks at, in lower case. -/
structure DomainView where
  name : String
  path : String
  imports : List String

def DomainView.of (u : RawUnit) : DomainView :=
  ⟨lower u.name, join "/" u.pathParts, u.context.imports⟩

def inPath (parts : List String) (v : DomainView) : Bool :=
  parts.any (contains v.path)

def inName (parts : List String) (v : DomainView) : Bool :=
  parts.any (contains v.name)

def inImports (parts : List String) (v : DomainView) : Bool :=
  v.imports.any fun specifier => parts.any (contains specifier)

def domainBank : List (String × (DomainView → Bool)) :=
  [("authentication", inPath ["auth"]),
   ("ui-layer", inPath ["component", "ui"]),
   ("api-integration", inPath ["service", "api"]),
   ("testing", inPath ["test", "spec"]),
   ("desktop-runtime", inImports ["tauri"]),
   ("text-editing", inImports ["tiptap", "prosemirror"]),
   ("frontend-ui", inImports ["react"]),
   ("file-management", inName ["file", "save", "export", "read", "write"]),
   ("authentication", inName ["login", "user", "session"])]

def domainsOf (u : RawUnit) : List String :=
  labelsMet domainBank (DomainView.of u)

def inCode (parts : List String) (u : RawUnit) : Bool :=
  parts.any (contains u.code)

def nameStarts (start : String) (u : RawUnit) : Bool :=
  hasStart (lower u.name) start

def patternBank : List (String × (RawUnit → Bool)) :=
  [("react-hooks", nameStarts "use"),
   ("async-io", inCode ["async", "await"]),
   ("event-driven", fun u => inCode ["on(", "addListener"] u || nameStarts "handle" u),
   ("object-oriented", inCode ["new ", "class "]),
   ("public-api", RawUnit.isExported)]

def patternsOf (u : RawUnit) : List String :=
  labelsMet patternBank u

/-- Labels of one sort are a set, kept in order. -/
structure ClassifiedUnit where
  raw : RawUnit
  purpose : String
  confidence : Float
  domains : List String
  patterns : List String
  complexity : Complexity
  tags : List String

def ClassifiedUnit.id (u : ClassifiedUnit) : String :=
  u.raw.id

def classify (rules : RuleSet) (u : RawUnit) : ClassifiedUnit :=
  let purpose := purposeOf rules u
  { raw := u
    purpose := purpose.label
    confidence := purpose.confidence
    domains := domainsOf u
    patterns := patternsOf u
    complexity := complexity u.code
    tags := labelSet u.tags }

def classifyText (rules : RuleSet) (least : Int) (path text : String) : List ClassifiedUnit :=
  (extract least path text).map (classify rules)

end CodeAtlas.Classify
