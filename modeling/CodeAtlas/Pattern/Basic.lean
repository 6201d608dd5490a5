import CodeAtlas.Pattern.Folding
import CodeAtlas.Text.Blank
import CodeAtlas.Text.Digit
import CodeAtlas.Text.Word

set_option autoImplicit false

/-! Regular expressions: sets of characters and the expressions built from them. -/

namespace CodeAtlas

namespace Pattern

open CodeAtlas.Text

/-- A class that a letter behind a backslash names; its capital letter names the complement. -/
inductive NamedClass
  | digit
  | space
  | word
  deriving DecidableEq, Repr

def NamedClass.holds (ascii : Bool) (c : Char) : NamedClass → Bool
  | .digit => if ascii then (asciiDigit? c).isSome else isDigit c
  | .space => if ascii then c = ' ' || (9 ≤ c.toNat && c.toNat ≤ 13) else isBlank c
  | .word => if ascii then isAsciiWord c else isWord c

inductive ClassItem
  | char (c : Char)
  | range (low high : Char)
  | named (positive : Bool) (name : NamedClass)
  deriving DecidableEq, Repr

structure CharSet where
  positive : Bool
  items : List ClassItem
  folding : Folding := .exact
  ascii : Bool := false
  deriving DecidableEq, Repr

namespace CharSet

def itemHolds (s : CharSet) (c : Char) : ClassItem → Bool
  | .char written => s.folding.same c written
  | .range low high => s.folding.within c low high
  | .named positive name => name.holds s.ascii c == positive

def holds (s : CharSet) (c : Char) : Bool :=
  s.items.any (s.itemHolds (s.folding.fold c)) == s.positive

def char (c : Char) : CharSet :=
  ⟨true, [.char c], .exact, false⟩

def any : CharSet :=
  ⟨false, [], .exact, false⟩

def notNewline : CharSet :=
  ⟨false, [.char '\n'], .exact, false⟩

end CharSet

/-- Places that take no character. -/
inductive Anchor
  | textStart
  | lineStart
  | textEnd
  | lastLineEnd
  | lineEnd
  | wordEdge (ascii : Bool)
  | insideWord (ascii : Bool)
  deriving DecidableEq, Repr

/-- Whether a loop prefers more rounds, prefers fewer, or keeps all it can get. -/
inductive Greed
  | greedy
  | lazy
  | possessive
  deriving DecidableEq, Repr

end Pattern

open Pattern in
inductive Pattern
  | empty
  | set (s : CharSet)
  | anchor (a : Anchor)
  | seq (first second : Pattern)
  | choice (first second : Pattern)
  | loop (body : Pattern) (least : Nat) (most : Option Nat) (greed : Greed)
  | group (index : Nat) (body : Pattern)
  | again (index : Nat) (folding : Folding)
  | ahead (positive : Bool) (body : Pattern)
  | behind (positive : Bool) (width : Nat) (body : Pattern)
  | atomic (body : Pattern)
  | given (index : Nat) (yes no : Pattern)
  deriving Repr

end CodeAtlas
