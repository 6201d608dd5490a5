import CodeAtlas.Text.Basic
import CodeAtlas.Text.Word

set_option autoImplicit false

/-! Complexity: one, and one more for each branching word or operator. -/

namespace CodeAtlas.Source

open CodeAtlas.Text

def words (text : List Char) : List (List Char) :=
  (splitWhere (fun c => !isWord c) text).filter (!·.isEmpty)

def branchWords : List String :=
  ["if", "else", "for", "while", "switch", "case", "try", "catch", "async", "await"]

def branchOperators : List String :=
  ["&&", "||", "?"]

def wordCount (code : List Char) : Nat :=
  ((words code).filter fun w => branchWords.any fun b => b.toList == w).length

def operatorCount (code : List Char) : Nat :=
  (branchOperators.map fun operator => countOf operator.toList code).foldr (· + ·) 0

inductive Level
  | low
  | medium
  | high
  deriving DecidableEq, Repr

def Level.label : Level → String
  | .low => "low"
  | .medium => "medium"
  | .high => "high"

def Level.ofScore (score : Nat) : Level :=
  if score < 5 then .low else if score < 15 then .medium else .high

structure Complexity where
  score : Nat
  level : Level
  deriving DecidableEq, Repr

def complexityScore (code : List Char) : Nat :=
  1 + wordCount code + operatorCount code

def complexity (code : String) : Complexity :=
  let score := complexityScore code.toList
  ⟨score, .ofScore score⟩

end CodeAtlas.Source
