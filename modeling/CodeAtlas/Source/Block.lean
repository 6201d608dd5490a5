set_option autoImplicit false

/-! Where a block ends: the delimiter that closes the first one opened, outside literals and
comments. -/

namespace CodeAtlas.Source

/-- The two characters around a block. -/
structure Delimiters where
  opening : Char
  closing : Char
  deriving DecidableEq, Repr

def braces : Delimiters := ⟨'\x7b', '\x7d'⟩

def parentheses : Delimiters := ⟨'(', ')'⟩

-- By how much openings outnumber closings behind a character of code; nothing if it closes the
-- block.
def Delimiters.depthAfter (d : Delimiters) (depth : Int) (c : Char) : Option Int :=
  if c = d.opening then some (depth + 1)
  else if c = d.closing then if depth = 1 then none else some (depth - 1)
  else some depth

def templateQuote : Char := '\x60'

def isQuote (c : Char) : Bool :=
  c = '"' || c = '\'' || c = templateQuote

mutual

def closeInCode (d : Delimiters) (depth : Int) (index : Nat) : List Char → Option Nat
  | [] => none
  | '/' :: '/' :: rest => closeInLine d depth (index + 2) rest
  | '/' :: '*' :: rest => closeInComment d depth (index + 2) rest
  | c :: rest =>
    if isQuote c then closeInLiteral d c depth (index + 1) rest
    else
      match d.depthAfter depth c with
      | none => some (index + 1)
      | some depth => closeInCode d depth (index + 1) rest

-- A comment up to the end of its line. The newline is code again.
def closeInLine (d : Delimiters) (depth : Int) (index : Nat) : List Char → Option Nat
  | [] => none
  | c :: rest =>
    if c = '\n' then
      match d.depthAfter depth c with
      | none => some (index + 1)
      | some depth => closeInCode d depth (index + 1) rest
    else closeInLine d depth (index + 1) rest

def closeInComment (d : Delimiters) (depth : Int) (index : Nat) : List Char → Option Nat
  | [] => none
  | '*' :: '/' :: rest => closeInCode d depth (index + 2) rest
  | _ :: rest => closeInComment d depth (index + 1) rest

-- A literal: a backslash hides what follows it, and a plain quote ends with its line.
def closeInLiteral (d : Delimiters) (quote : Char) (depth : Int) (index : Nat) :
    List Char → Option Nat
  | [] => none
  | '\\' :: _ :: rest => closeInLiteral d quote depth (index + 2) rest
  | c :: rest =>
    if c = quote || (c = '\n' && quote != templateQuote) then
      closeInCode d depth (index + 1) rest
    else closeInLiteral d quote depth (index + 1) rest

end

-- The index behind the delimiter that closes the block opened at `index`.
def findClosing (d : Delimiters) (text : List Char) (index : Nat) : Option Nat :=
  closeInCode d 0 index (text.drop index)

end CodeAtlas.Source
