import CodeAtlas.Keyed

set_option autoImplicit false

/-! Documents: values written as JSON. An object keeps its fields in order, and a whole number stays
apart from a floating-point one. -/

namespace CodeAtlas

inductive Document
  | null
  | bool (value : Bool)
  | int (value : Int)
  | float (value : Float)
  | text (value : String)
  | list (items : List Document)
  | object (fields : List (String × Document))
  deriving Inhabited

namespace Document

def field? (name : String) : Document → Option Document
  | .object fields => Keyed.lookup name fields
  | _ => none

def isNull : Document → Bool
  | .null => true
  | _ => false

-- What counts as present: not null, false, zero or empty.
def isPresent : Document → Bool
  | .null => false
  | .bool value => value
  | .int value => value != 0
  | .float value => !(value == 0.0)
  | .text value => !value.isEmpty
  | .list items => !items.isEmpty
  | .object fields => !fields.isEmpty

def text? : Document → Option String
  | .text value => some value
  | _ => none

def ofTexts (texts : List String) : Document :=
  .list (texts.map .text)

-- The texts of a list that holds nothing else.
def texts? : Document → Option (List String)
  | .list items => items.mapM text?
  | _ => none

mutual

-- Whether a check holds of a value and of all values inside it.
def every (check : Document → Bool) : Document → Bool
  | .list items => check (.list items) && everyItem check items
  | .object fields => check (.object fields) && everyField check fields
  | value => check value

def everyItem (check : Document → Bool) : List Document → Bool
  | [] => true
  | item :: items => every check item && everyItem check items

def everyField (check : Document → Bool) : List (String × Document) → Bool
  | [] => true
  | (_, value) :: fields => every check value && everyField check fields

end

end Document

end CodeAtlas
