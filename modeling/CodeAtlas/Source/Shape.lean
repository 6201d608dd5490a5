import CodeAtlas.Pattern.Search
import CodeAtlas.Source.Unit

set_option autoImplicit false

/-! The written shapes of declarations, imports, types and calls. -/

namespace CodeAtlas.Source

open CodeAtlas.Pattern

namespace Shape

def setOf (items : List ClassItem) : CharSet :=
  ⟨true, items, .exact, false⟩

def setExcept (items : List ClassItem) : CharSet :=
  ⟨false, items, .exact, false⟩

def char (c : Char) : Pattern :=
  .set (.char c)

def all : List Pattern → Pattern
  | [] => .empty
  | [only] => only
  | first :: rest => .seq first (all rest)

def oneOf : List Pattern → Pattern
  | [] => .empty
  | [only] => only
  | first :: rest => .choice first (oneOf rest)

def word (text : String) : Pattern :=
  all (text.toList.map char)

def maybe (p : Pattern) : Pattern :=
  .loop p 0 (some 1) .greedy

def many (p : Pattern) : Pattern :=
  .loop p 0 none .greedy

def several (p : Pattern) : Pattern :=
  .loop p 1 none .greedy

def fewest (p : Pattern) : Pattern :=
  .loop p 1 none .lazy

def space : Pattern :=
  .set (setOf [.named true .space])

def margin : Pattern :=
  many (.set (setOf [.char ' ', .char '\t']))

def lowerLetters : ClassItem := .range 'a' 'z'
def upperLetters : ClassItem := .range 'A' 'Z'
def digits : ClassItem := .range '0' '9'

def nameStart : CharSet :=
  setOf [lowerLetters, upperLetters, .char '_', .char '$']

def nameRest : CharSet :=
  setOf [lowerLetters, upperLetters, digits, .char '_', .char '$']

def identifier (first : CharSet) : Pattern :=
  .seq (.set first) (many (.set nameRest))

def spaced (text : String) : Pattern :=
  .seq (word text) (several space)

def typeParameters : Pattern :=
  let plain := Pattern.set (setExcept [.char '<', .char '>', .char '(', .char ')'])
  let nested := all [char '<', many plain, char '>']
  maybe (all [char '<', many (.choice plain nested), char '>', many space])

def parameters : Pattern :=
  all [char '(', many (.set (setExcept [.char ')'])), char ')']

def notAssignment : Pattern :=
  .set (setExcept [.char '=', .char '\n'])

def function : Pattern :=
  all [.anchor .lineStart, margin, maybe (spaced "export"), maybe (spaced "default"),
    maybe (spaced "async"), word "function", many space, maybe (char '*'), many space,
    .group 1 (identifier nameStart), many space, typeParameters, char '(']

def arrow : Pattern :=
  all [.anchor .lineStart, margin, maybe (spaced "export"),
    oneOf [word "const", word "let", word "var"], several space,
    .group 1 (identifier nameStart), many space,
    maybe (.seq (char ':') (several notAssignment)), char '=', many space,
    maybe (spaced "async"), typeParameters, parameters, many space,
    maybe (all [char ':', many space, fewest notAssignment]), many space, word "=>"]

def modifiers : Pattern :=
  many (.seq (oneOf [word "public", word "private", word "protected", word "static", word "async",
    word "get", word "set"]) (several space))

def method : Pattern :=
  all [.anchor .lineStart, margin, modifiers, .group 1 (identifier nameStart), many space,
    typeParameters, parameters, many space,
    maybe (all [char ':', many space,
      several (.set (setExcept [.char '\x7b', .char ';', .char '\n']))]), char '\x7b']

def upperName (index : Nat) : Pattern :=
  .group index (identifier (setOf [upperLetters]))

def component : Pattern :=
  all [.anchor .lineStart, margin, spaced "export", maybe (spaced "default"),
    oneOf [
      all [maybe (spaced "async"), spaced "function", upperName 1, many space, typeParameters,
        char '('],
      all [spaced "const", upperName 2, many space,
        maybe (.seq (char ':') (several notAssignment)), char '=']]]

def quotes : List ClassItem := [.char '\'', .char '"', .char '\x60']

def imported : Pattern :=
  let names := setOf [.named true .word, .char '*', .char '$', .char '\x7b', .char '\x7d',
    .named true .space, .char ',']
  all [
    oneOf [
      all [word "import", several space,
        maybe (all [fewest (.set names), several space, word "from", several space])],
      all [word "require(", many space]],
    .set (setOf quotes), .group 1 (several (.set (setExcept (quotes ++ [.char '\n'])))),
    .set (setOf quotes)]

def declaredType : Pattern :=
  all [.anchor (.wordEdge false), oneOf [word "type", word "interface", word "enum"], several space,
    .group 1 (.seq (.set (setOf [upperLetters]))
      (many (.set (setOf [lowerLetters, upperLetters, digits, .char '_']))))]

def call : Pattern :=
  all [.group 1 (identifier nameStart), many space, char '(']

end Shape

/-- A shape of declarations. One that refines only relabels a unit which another shape has found. -/
structure DeclarationShape where
  kind : Kind
  pattern : Pattern
  refines : Bool

def declarationShapes : List DeclarationShape :=
  [⟨.function, Shape.function, false⟩, ⟨.arrow, Shape.arrow, false⟩,
   ⟨.method, Shape.method, false⟩, ⟨.component, Shape.component, true⟩]

end CodeAtlas.Source
