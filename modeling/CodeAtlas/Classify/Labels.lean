import CodeAtlas.Text.Basic

set_option autoImplicit false

/-! Sets of labels: sorted by code point, each label once. -/

namespace CodeAtlas.Classify

def inOrder (a b : String) : Bool :=
  !decide (b < a)

def sortTexts (texts : List String) : List String :=
  texts.mergeSort inOrder

def labelSet (labels : List String) : List String :=
  sortTexts (Text.distinct labels)

def labelsMet {α : Type} (bank : List (String × (α → Bool))) (subject : α) : List String :=
  labelSet ((bank.filter fun entry => entry.2 subject).map (·.1))

end CodeAtlas.Classify
