set_option autoImplicit false

/-! Parts of a text: occurrence, splitting, joining and counting on lists of characters. -/

namespace CodeAtlas.Text

variable {α : Type} [BEq α]

def occursIn (part : List α) : List α → Bool
  | [] => part.isEmpty
  | c :: rest => part.isPrefixOf (c :: rest) || occursIn part rest

-- Occurrences of `part` from left to right, none of which overlap. An empty part occurs nowhere.
def countFrom (part : List α) : Nat → List α → Nat
  | 0, _ => 0
  | _, [] => 0
  | fuel + 1, c :: rest =>
    if part.isPrefixOf (c :: rest) then 1 + countFrom part fuel ((c :: rest).drop part.length)
    else countFrom part fuel rest

def countOf (part text : List α) : Nat :=
  if part.isEmpty then 0 else countFrom part text.length text

def indexWhere (pass : α → Bool) (start : Nat) : List α → Option Nat
  | [] => none
  | c :: rest => if pass c then some start else indexWhere pass (start + 1) rest

-- The pieces between separators, one more than there are separators.
def splitWhere (separates : α → Bool) : List α → List (List α)
  | [] => [[]]
  | c :: rest =>
    if separates c then [] :: splitWhere separates rest
    else
      match splitWhere separates rest with
      | [] => [[c]]
      | piece :: pieces => (c :: piece) :: pieces

def joinWith (separator : List α) : List (List α) → List α
  | [] => []
  | [piece] => piece
  | piece :: pieces => piece ++ separator ++ joinWith separator pieces

-- The first of equal elements stays, in its place.
def distinct : List α → List α
  | [] => []
  | a :: rest => a :: (distinct rest).filter (fun b => !(b == a))

def contains (whole part : String) : Bool :=
  occursIn part.toList whole.toList

def hasStart (whole part : String) : Bool :=
  part.toList.isPrefixOf whole.toList

def hasEnd (whole part : String) : Bool :=
  part.toList.isSuffixOf whole.toList

def join (separator : String) (pieces : List String) : String :=
  String.intercalate separator pieces

end CodeAtlas.Text
