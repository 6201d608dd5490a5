import CodeAtlas.Document.Basic
import CodeAtlas.Document.Printer
import CodeAtlas.Text.Printable

set_option autoImplicit false

/-! Values shown to a reader: texts in single quotes, unless a text holds one and no double quote. -/

namespace CodeAtlas.Document

open CodeAtlas.Number CodeAtlas.Text

def quoteFor (text : List Char) : Char :=
  if text.contains '\'' && !text.contains '"' then '"' else '\''

def shownChar (quote : Char) (c : Char) : List Char :=
  if c = quote || c = '\\' then ['\\', c]
  else if c = '\n' then ['\\', 'n']
  else if c = '\r' then ['\\', 'r']
  else if c = '\t' then ['\\', 't']
  else if isPrintable c then [c]
  else if c.toNat < 0x100 then '\\' :: 'x' :: hexDigits 2 c.toNat
  else if c.toNat < 0x10000 then '\\' :: 'u' :: hexDigits 4 c.toNat
  else '\\' :: 'U' :: hexDigits 8 c.toNat

def shownText (text : String) : List Char :=
  let quote := quoteFor text.toList
  quote :: text.toList.flatMap (shownChar quote) ++ [quote]

def shownFloat (x : Float) : List Char :=
  match Binary.ofFloat x with
  | .notANumber => ['n', 'a', 'n']
  | .infinite negative => signed negative ['i', 'n', 'f']
  | .finite negative mantissa exponent => shortestText negative mantissa exponent

mutual

def shown : Document → List Char
  | .null => "None".toList
  | .bool true => "True".toList
  | .bool false => "False".toList
  | .int n => intText n
  | .float x => shownFloat x
  | .text s => shownText s
  | .list items => '[' :: shownItems items ++ [']']
  | .object fields => '\x7b' :: shownFields fields ++ ['\x7d']

def shownItems : List Document → List Char
  | [] => []
  | [item] => shown item
  | item :: items => shown item ++ ',' :: ' ' :: shownItems items

def shownFields : List (String × Document) → List Char
  | [] => []
  | [(name, value)] => shownText name ++ ':' :: ' ' :: shown value
  | (name, value) :: fields =>
    shownText name ++ ':' :: ' ' :: shown value ++ ',' :: ' ' :: shownFields fields

end

def display (value : Document) : String :=
  String.ofList (shown value)

-- The text of a value; a text stands for itself.
def toText : Document → String
  | .text s => s
  | value => display value

end CodeAtlas.Document
