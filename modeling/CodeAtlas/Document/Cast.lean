import CodeAtlas.Document.Display
import CodeAtlas.Fault
import CodeAtlas.Number.Read
import CodeAtlas.Text.Basic

set_option autoImplicit false

/-! Values taken for what they can be read as: whole numbers, numbers, sequences and sets. -/

namespace CodeAtlas.Document

open CodeAtlas.Number

-- The whole part of a number. A value that is neither finite nor a number has none.
def wholeOf (x : Float) : Except Fault Int :=
  match Binary.ofFloat x with
  | .notANumber => .error .badValue
  | .infinite _ => .error .tooLarge
  | .finite negative mantissa exponent => .ok (truncate negative mantissa exponent)

def castInt : Document → Except Fault Int
  | .int n => .ok n
  | .bool b => .ok (if b then 1 else 0)
  | .float x => wholeOf x
  | .text s =>
    match readInt s.toList with
    | some n => .ok n
    | none => .error .badValue
  | _ => .error .wrongType

def castFloat : Document → Except Fault Float
  | .int n =>
    match ofInt? n with
    | some x => .ok x
    | none => .error .tooLarge
  | .bool b => .ok (if b then 1 else 0)
  | .float x => .ok x
  | .text s =>
    match readFloat s.toList with
    | some x => .ok x
    | none => .error .badValue
  | _ => .error .wrongType

-- The items of a list, the characters of a text, or the names of an object.
def castList : Document → Except Fault (List Document)
  | .list items => .ok items
  | .text s => .ok (s.toList.map fun c => .text (String.singleton c))
  | .object fields => .ok (fields.map fun field => .text field.1)
  | _ => .error .wrongType

def magnitude? : Document → Option Float
  | .int n => ofInt? n
  | .bool b => some (if b then 1 else 0)
  | .float x => some x
  | _ => none

-- Whether two values are one member of a set. Numbers of different types may be equal.
def sameMember : Document → Document → Bool
  | .text a, .text b => a == b
  | .null, .null => true
  | a, b =>
    match magnitude? a, magnitude? b with
    | some x, some y => x == y
    | _, _ => false

def distinctBy {α : Type} (same : α → α → Bool) : List α → List α
  | [] => []
  | a :: rest => a :: (distinctBy same rest).filter (fun b => !same a b)

def sortedTexts (texts : List String) : List Document :=
  ((Text.distinct texts).mergeSort fun a b => !decide (b < a)).map .text

def sortedNumbers (numbers : List (Float × Document)) : List Document :=
  ((distinctBy (fun a b => a.1 == b.1) numbers).mergeSort fun a b => a.1 ≤ b.1).map (·.2)

-- The members of a set in order. They are texts, or numbers, or all the same.
def castSet (value : Document) : Except Fault (List Document) := do
  let items ← castList value
  match items.mapM text?, items.mapM fun d => (magnitude? d).map fun x => (x, d) with
  | some texts, _ => pure (sortedTexts texts)
  | none, some numbers => pure (sortedNumbers numbers)
  | none, none => if items.all isNull then pure [.null] else .error .wrongType

def member (name : String) : Document → Except Fault (Option Document)
  | .object fields => .ok (Keyed.lookup name fields)
  | _ => .error .noSuchOperation

def required (name : String) (value : Document) : Except Fault Document := do
  match ← value.member name with
  | some found => pure found
  | none => .error (.missingField name)

def memberOr (value : Document) (name : String) (default : Document) : Except Fault Document := do
  pure ((← value.member name).getD default)

-- A field that counts as an empty object where it is absent.
def memberObject (name : String) (value : Document) : Except Fault Document := do
  match ← value.member name with
  | some found => pure (if found.isPresent then found else .object [])
  | none => pure (.object [])

end CodeAtlas.Document
