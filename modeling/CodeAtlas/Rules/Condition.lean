import CodeAtlas.Document.Display
import CodeAtlas.Fault
import CodeAtlas.Pattern.Reader
import CodeAtlas.Pattern.Search
import CodeAtlas.Text.Basic
import CodeAtlas.Text.Blank

set_option autoImplicit false

/-! Conditions of rules: their written form and what they ask of a unit or path. -/

namespace CodeAtlas.Rules

open CodeAtlas.Text

/-- All that a condition may look at. -/
structure Sighting where
  kind : Option String := none
  name : String := ""
  pathParts : List String := []
  fileName : String := ""
  imports : List String := []
  deriving DecidableEq, Repr

inductive Condition
  | kindEquals (value : String)
  | nameStarts (value : String)
  | nameContains (value : String)
  | nameMatches (value : String) (pattern : Pattern)
  | pathContains (value : String)
  | fileContains (value : String)
  | fileEnds (value : String)
  | importContains (value : String)
  | unrecognized (text : String)
  deriving Repr

namespace Condition

-- An empty name or file name satisfies nothing that is asked of it.
def holds (s : Sighting) : Condition → Bool
  | .kindEquals value => s.kind == some value
  | .nameStarts value => !s.name.isEmpty && hasStart s.name value
  | .nameContains value => !s.name.isEmpty && contains s.name value
  | .nameMatches _ pattern => !s.name.isEmpty && pattern.occurs s.name.toList
  | .pathContains value => s.pathParts.contains value
  | .fileContains value => !s.fileName.isEmpty && contains s.fileName value
  | .fileEnds value => !s.fileName.isEmpty && hasEnd s.fileName value
  | .importContains value => s.imports.any fun specifier => contains specifier value
  | .unrecognized _ => false

def value : Condition → String
  | .kindEquals value => value
  | .nameStarts value => value
  | .nameContains value => value
  | .nameMatches value _ => value
  | .pathContains value => value
  | .fileContains value => value
  | .fileEnds value => value
  | .importContains value => value
  | .unrecognized text => text

-- The characters in front of the first quote that has a good end behind it, all on one line.
def upToQuote (quote : Char) (ends : List Char → Bool) : List Char → Option (List Char)
  | [] => none
  | c :: rest =>
    if c = quote && ends rest then some []
    else if c = '\n' then none
    else (upToQuote quote ends rest).map (c :: ·)

def literal? (ends : List Char → Bool) : List Char → Option (List Char)
  | [] => none
  | c :: rest => if c = '\'' || c = '"' then upToQuote c ends rest else none

def after? (word : String) (text : List Char) : Option (List Char) :=
  if word.toList.isPrefixOf text then some (text.drop word.length) else none

def afterEquals? (text : List Char) : Option (List Char) :=
  after? "===" text <|> after? "==" text

def kindWords : List String :=
  ["func.type", "kind", "type"]

-- A comparison with the kind: nothing follows the literal.
def kindLiteral? (text : List Char) : Option (List Char) := do
  let rest ← kindWords.findSome? fun word => after? word text
  let rest ← afterEquals? (trimLeft rest)
  literal? List.isEmpty (trimLeft rest)

-- A literal in parentheses behind `word`, with nothing else in them.
def callLiteral? (word : String) (text : List Char) : Option (List Char) := do
  let rest ← after? word text
  let rest ← after? "(" rest
  literal? (fun rest => trimLeft rest == [')']) (trimLeft rest)

inductive Call
  | nameStarts
  | nameContains
  | nameMatches
  | pathContains
  | fileContains
  | fileEnds
  | importContains
  deriving DecidableEq, Repr

def Call.word : Call → String
  | .nameStarts => "name.startsWith"
  | .nameContains => "name.includes"
  | .nameMatches => "name.matches"
  | .pathContains => "pathParts.includes"
  | .fileContains => "fileName.includes"
  | .fileEnds => "fileName.endsWith"
  | .importContains => "chunk.imports.includes"

def calls : List Call :=
  [.nameStarts, .nameContains, .nameMatches, .pathContains, .fileContains, .fileEnds,
   .importContains]

/-- Why an expression is not compiled: it is malformed, or its compiler fails in another way. -/
inductive Uncompiled
  | malformed
  | failure (fault : Fault)
  deriving DecidableEq, Repr

abbrev Compiler := String → Except Uncompiled Pattern

def uncompiled : Pattern.ReadError → Uncompiled
  | .malformed => .malformed
  | .tooManyRounds | .codeTooLarge => .failure .tooLarge
  | .tooManyDigits | .conflictingFlags => .failure .badValue

-- The expressions of conditions ignore case.
def compile (value : String) : Except Uncompiled Pattern :=
  (Pattern.read { ignoreCase := true } value.toList).mapError uncompiled

-- Only a malformed expression leaves the text unrecognized.
def matching (compiler : Compiler) (text value : String) : Except Fault Condition :=
  match compiler value with
  | .ok pattern => .ok (.nameMatches value pattern)
  | .error .malformed => .ok (.unrecognized text)
  | .error (.failure fault) => .error fault

def ofCall (compiler : Compiler) (text value : String) : Call → Except Fault Condition
  | .nameStarts => .ok (.nameStarts value)
  | .nameContains => .ok (.nameContains value)
  | .nameMatches => matching compiler text value
  | .pathContains => .ok (.pathContains value)
  | .fileContains => .ok (.fileContains value)
  | .fileEnds => .ok (.fileEnds value)
  | .importContains => .ok (.importContains value)

-- A text of no known shape is kept, and never holds.
def parseWith (compiler : Compiler) (text : String) : Except Fault Condition :=
  let stripped := trim text.toList
  match kindLiteral? stripped with
  | some value => .ok (.kindEquals (String.ofList value))
  | none =>
    match calls.findSome? fun call => (callLiteral? call.word stripped).map fun v => (call, v) with
    | some (call, value) => ofCall compiler text (String.ofList value) call
    | none => .ok (.unrecognized text)

def parse (text : String) : Except Fault Condition :=
  parseWith compile text

def ofDocument : Document → Except Fault Condition
  | .text text => parse text
  | value => .ok (.unrecognized value.display)

end Condition

inductive Combinator
  | all
  | any
  deriving DecidableEq, Repr

namespace Combinator

def label : Combinator → String
  | .all => "all"
  | .any => "any"

def ofLabel? (label : String) : Option Combinator :=
  if label == "all" then some .all else if label == "any" then some .any else none

-- Two shapes of rules are met by either condition: the start of a name beside a kind, and the path
-- segments `web` and `src`.
def isEither : List Condition → Bool
  | [.nameStarts _, .kindEquals _] => true
  | [.kindEquals _, .nameStarts _] => true
  | [.pathContains a, .pathContains b] =>
    (a == "web" && b == "src") || (a == "src" && b == "web")
  | _ => false

def resolve (conditions : List Condition) (explicit : Option Combinator) : Combinator :=
  match explicit with
  | some combinator => combinator
  | none => if isEither conditions then .any else .all

end Combinator

def Combinator.holds (combinator : Combinator) (conditions : List Condition) (s : Sighting) :
    Bool :=
  !conditions.isEmpty &&
    match combinator with
    | .any => conditions.any (·.holds s)
    | .all => conditions.all (·.holds s)

end CodeAtlas.Rules
