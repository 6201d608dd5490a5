import CodeAtlas.Source.Block
import CodeAtlas.Source.Shape
import CodeAtlas.Text.Blank

set_option autoImplicit false

/-! Units of a source text. -/

namespace CodeAtlas.Source

open CodeAtlas.Text

def captures (pattern : Pattern) (text : List Char) : List String :=
  distinct ((pattern.findAll text).filterMap fun m => (m.group? 1).map String.ofList)

def importsOf (text : List Char) : List String :=
  captures Shape.imported text

def typesOf (text : List Char) : List String :=
  captures Shape.declaredType text

-- Names in front of a parenthesis that are no calls of the project's own functions.
def callStoplist : List String :=
  ["if", "for", "while", "switch", "catch", "function", "return", "typeof", "super", "console",
   "Object", "Array", "JSON", "Promise", "require", "import"]

def callsOf (text : List Char) : List String :=
  (captures Shape.call text).filter fun name => !callStoplist.contains name

def controlWords : List String :=
  ["if", "for", "while", "switch", "catch", "function", "return", "with", "else", "do"]

/-- A unit found in a text: its first index and the one behind it. -/
structure Span where
  start : Nat
  stop : Nat
  kind : Kind
  name : String
  signature : List Char
  deriving DecidableEq, Repr

def indexOf (c : Char) (start : Nat) (text : List Char) : Option Nat :=
  indexWhere (· == c) start (text.drop start)

-- The body of a declaration follows its parameters, before any semicolon.
def declarationEnd (text : List Char) (parameters : Nat) : Option Nat := do
  let behind ← findClosing parentheses text parameters
  let brace ← indexOf '\x7b' behind text
  match indexOf ';' behind text with
  | some semicolon => if semicolon < brace then none else findClosing braces text brace
  | none => findClosing braces text brace

def isMargin (c : Char) : Bool :=
  c = ' ' || c = '\t'

-- An arrow leads to a block, to an expression in parentheses, or to the rest of its line.
def arrowEnd (text : List Char) (behind : Nat) : Option Nat :=
  let margin := ((text.drop behind).takeWhile isMargin).length
  match text.drop (behind + margin) with
  | '\x7b' :: _ => findClosing braces text (behind + margin)
  | '(' :: _ => findClosing parentheses text (behind + margin)
  | _ => some ((indexOf '\n' behind text).getD text.length)

def bodyEnd (kind : Kind) (text : List Char) (behind : Nat) : Option Nat :=
  match kind with
  | .method => findClosing braces text (behind - 1)
  | .arrow => arrowEnd text behind
  | _ => declarationEnd text (behind - 1)

def declaredName (m : Pattern.Match) : Option String :=
  (([1, 2].filterMap m.group?).find? (!·.isEmpty)).map String.ofList

def unitStart (m : Pattern.Match) : Nat :=
  m.index + (m.text.takeWhile isBlank).length

abbrev Found := List Span

def Found.at? (found : Found) (start : Nat) : Option Span :=
  found.find? (·.start == start)

def Found.relabel (found : Found) (start : Nat) (kind : Kind) : Found :=
  found.map fun s => if s.start == start then { s with kind := kind } else s

-- The span of a match, unless its body has no end or it is smaller than `least` characters.
def spanOf (least : Int) (text : List Char) (kind : Kind) (m : Pattern.Match) : Option Span := do
  let name ← declaredName m
  let start := unitStart m
  if kind == .method && controlWords.contains name then none
  else
    let stop ← bodyEnd kind text m.endIndex
    if (stop : Int) - start < least then none
    else some ⟨start, stop, kind, name, trim ((text.drop start).take (m.endIndex - start))⟩

def addMatch (least : Int) (text : List Char) (shape : DeclarationShape) (found : Found)
    (m : Pattern.Match) : Found :=
  let start := unitStart m
  if shape.refines then found.relabel start shape.kind
  else if (found.at? start).isSome then found
  else
    match spanOf least text shape.kind m with
    | some span => found ++ [span]
    | none => found

def addShape (least : Int) (text : List Char) (found : Found) (shape : DeclarationShape) : Found :=
  (shape.pattern.findAll text).foldl (addMatch least text shape) found

-- All spans by first index. A shape does not touch a span that an earlier one has found, unless it
-- refines.
def spans (least : Int) (text : List Char) : List Span :=
  (declarationShapes.foldl (addShape least text) []).mergeSort fun a b => a.start ≤ b.start

def unitOf (path : String) (imports types : List String) (text : List Char) (s : Span) : RawUnit :=
  let code := trimRight ((text.drop s.start).take (s.stop - s.start))
  let startLine := (text.take s.start).count '\n' + 1
  { name := s.name
    kind := s.kind.label
    path := path
    startLine := startLine
    endLine := startLine + code.count '\n'
    code := String.ofList code
    signature := String.ofList s.signature
    context := ⟨imports, types, callsOf (code.drop s.signature.length)⟩ }

def extract (least : Int) (path : String) (text : String) : List RawUnit :=
  let chars := text.toList
  (spans least chars).map (unitOf path (importsOf chars) (typesOf chars) chars)

def defaultLeast : Int := 10

end CodeAtlas.Source
