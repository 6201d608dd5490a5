import CodeAtlas.Text.Basic

set_option autoImplicit false

/-! Tokens of a text: words in lower case, cut out of runs of ASCII letters and digits at changes of
case and between letters and digits. -/

namespace CodeAtlas.Embedding

open CodeAtlas.Text

def isLowerLetter (c : Char) : Bool :=
  'a' ≤ c && c ≤ 'z'

def isUpperLetter (c : Char) : Bool :=
  'A' ≤ c && c ≤ 'Z'

def isNumeral (c : Char) : Bool :=
  '0' ≤ c && c ≤ '9'

def isTokenChar (c : Char) : Bool :=
  isLowerLetter c || isUpperLetter c || isNumeral c

-- Whether a character belongs to the piece behind it: a digit to digits, a letter to lower-case
-- letters, and a capital also to capitals alone.
def joins (c : Char) : List Char → Bool
  | [] => false
  | d :: rest =>
    if isNumeral c then isNumeral d
    else if isLowerLetter c then isLowerLetter d
    else isLowerLetter d || (isUpperLetter d && !(rest.head?.any isLowerLetter))

-- Pieces of a run: digits, capitals, or lower-case letters with at most one capital in front.
def pieces : List Char → List (List Char)
  | [] => []
  | c :: rest =>
    match pieces rest with
    | [] => [[c]]
    | piece :: more => if joins c piece then (c :: piece) :: more else [c] :: piece :: more

def runs (text : List Char) : List (List Char) :=
  (splitWhere (fun c => !isTokenChar c) text).filter (!·.isEmpty)

def segments (text : List Char) : List (List Char) :=
  (runs text).flatMap pieces

def lowerLetter (c : Char) : Char :=
  if isUpperLetter c then Char.ofNat (c.toNat + 32) else c

-- Words that say nothing of what a text is about.
def stopWords : List String :=
  ["the", "a", "an", "and", "or", "of", "to", "in"]

def isStopWord (word : List Char) : Bool :=
  stopWords.any fun stop => stop.toList == word

def tokensOf (text : List Char) : List (List Char) :=
  ((segments text).map (List.map lowerLetter)).filter (!isStopWord ·)

def tokens (text : String) : List String :=
  (tokensOf text.toList).map String.ofList

end CodeAtlas.Embedding
