import CodeAtlas.Source.Path
import CodeAtlas.Text.Upper

set_option autoImplicit false

/-! Units: function-sized parts of a source file. -/

namespace CodeAtlas.Source

open CodeAtlas.Text

/-- The kinds of units that extraction finds. -/
inductive Kind
  | function
  | arrow
  | method
  | component
  deriving DecidableEq, Repr

def Kind.label : Kind → String
  | .function => "function"
  | .arrow => "arrow_function"
  | .method => "method"
  | .component => "react_component"

/-- What surrounds a unit: imports and types of its file, and the functions it calls. -/
structure Context where
  imports : List String := []
  types : List String := []
  calls : List String := []
  deriving DecidableEq, Repr

/-- The first line is line one. -/
structure RawUnit where
  name : String
  kind : String
  path : String
  startLine : Int
  endLine : Int
  code : String
  signature : String
  context : Context
  deriving DecidableEq, Repr

def unitId (name path : String) (line : Int) : String :=
  s!"{name}:{path}:{line}"

namespace RawUnit

def id (u : RawUnit) : String :=
  unitId u.name u.path u.startLine

def isExported (u : RawUnit) : Bool :=
  hasStart u.signature "export "

def pathParts (u : RawUnit) : List String :=
  splitPath u.path

def startsUpper (text : String) : Bool :=
  match text.toList with
  | [] => false
  | c :: _ => isUpper c

def tags (u : RawUnit) : List String :=
  [u.kind] ++
  (if u.context.imports.isEmpty then [] else ["has-imports"]) ++
  (if 3 < u.context.calls.length then ["complex-logic"] else []) ++
  (if contains u.code "async" then ["async"] else []) ++
  (if u.isExported then ["exported"] else []) ++
  (if startsUpper u.name then ["component-style"] else [])

end RawUnit

end CodeAtlas.Source
