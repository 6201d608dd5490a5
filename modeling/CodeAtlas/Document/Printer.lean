import CodeAtlas.Document.Basic
import CodeAtlas.Number.Shortest
import CodeAtlas.Number.Read

set_option autoImplicit false

/-! Documents as JSON text, on one line or indented. Only ASCII is written. -/

namespace CodeAtlas.Document

open CodeAtlas.Number

def hexDigits (width n : Nat) : List Char :=
  padLeft width '0' (Nat.toDigits 16 n)

def unitEscape (unit : Nat) : List Char :=
  '\\' :: 'u' :: hexDigits 4 unit

def codeEscape (code : Nat) : List Char :=
  if code < 0x10000 then unitEscape code
  else
    let offset := code - 0x10000
    unitEscape (0xd800 + offset / 1024) ++ unitEscape (0xdc00 + offset % 1024)

def escapeChar (c : Char) : List Char :=
  if c = '"' then ['\\', '"']
  else if c = '\\' then ['\\', '\\']
  else if c = '\n' then ['\\', 'n']
  else if c = '\r' then ['\\', 'r']
  else if c = '\t' then ['\\', 't']
  else if c = '\x0c' then ['\\', 'f']
  else if c = '\x08' then ['\\', 'b']
  else if 32 ≤ c.toNat && c.toNat < 127 then [c]
  else codeEscape c.toNat

def quoted (text : String) : List Char :=
  '"' :: text.toList.flatMap escapeChar ++ ['"']

def intText (n : Int) : List Char :=
  signed (n < 0) (Nat.toDigits 10 n.natAbs)

def hasShortInt : Document → Bool
  | .int n => (Nat.toDigits 10 n.natAbs).length ≤ digitLimit
  | _ => true

-- No whole number in it has too many digits to be written.
def isWritable (document : Document) : Bool :=
  document.every hasShortInt

def floatText (x : Float) : List Char :=
  match Binary.ofFloat x with
  | .notANumber => "NaN".toList
  | .infinite negative => signed negative "Infinity".toList
  | .finite negative mantissa exponent => shortestText negative mantissa exponent

/-- Where the parts of a list or object stand: after one space, or each on a line of its own,
`step` deeper than the line of the bracket. -/
inductive Spacing
  | line
  | block (step depth : Nat)

namespace Spacing

def deeper : Spacing → Spacing
  | .line => .line
  | .block step depth => .block step (depth + step)

def newline : Spacing → List Char
  | .line => []
  | .block _ depth => '\n' :: List.replicate depth ' '

def comma : Spacing → List Char
  | .line => [',', ' ']
  | .block step depth => ',' :: newline (.block step depth)

end Spacing

mutual

def write (spacing : Spacing) : Document → List Char
  | .null => "null".toList
  | .bool true => "true".toList
  | .bool false => "false".toList
  | .int n => intText n
  | .float x => floatText x
  | .text s => quoted s
  | .list [] => ['[', ']']
  | .list (item :: items) =>
    '[' :: spacing.deeper.newline ++ write spacing.deeper item ++
      writeItems spacing.deeper items ++ spacing.newline ++ [']']
  | .object [] => ['\x7b', '\x7d']
  | .object ((name, value) :: fields) =>
    '\x7b' :: spacing.deeper.newline ++ quoted name ++ ':' :: ' ' :: write spacing.deeper value ++
      writeFields spacing.deeper fields ++ spacing.newline ++ ['\x7d']

def writeItems (spacing : Spacing) : List Document → List Char
  | [] => []
  | item :: items => spacing.comma ++ write spacing item ++ writeItems spacing items

def writeFields (spacing : Spacing) : List (String × Document) → List Char
  | [] => []
  | (name, value) :: fields =>
    spacing.comma ++ quoted name ++ ':' :: ' ' :: write spacing value ++
      writeFields spacing fields

end

def render (document : Document) : String :=
  String.ofList (write .line document)

def renderIndented (document : Document) : String :=
  String.ofList (write (.block 2 0) document)

end CodeAtlas.Document
