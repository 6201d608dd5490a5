import CodeAtlas.Text.Ranges

set_option autoImplicit false

/-! White space of Unicode, and texts without it at their ends. -/

namespace CodeAtlas.Text

def blankRanges : List (Nat × Nat) :=
  [(9, 13), (28, 32), (133, 133), (160, 160), (5760, 5760), (8192, 8202), (8232, 8233),
   (8239, 8239), (8287, 8287), (12288, 12288)]

def isBlank (c : Char) : Bool :=
  inRanges blankRanges c.toNat

def trimLeft (text : List Char) : List Char :=
  text.dropWhile isBlank

def trimRight (text : List Char) : List Char :=
  (text.reverse.dropWhile isBlank).reverse

def trim (text : List Char) : List Char :=
  trimRight (trimLeft text)

def strip (text : String) : String :=
  String.ofList (trim text.toList)

def isBlankText (text : String) : Bool :=
  text.toList.all isBlank

end CodeAtlas.Text
