import CodeAtlas.Document.Basic
import CodeAtlas.Number.Read

set_option autoImplicit false

/-! Documents read from JSON text. -/

namespace CodeAtlas.Document

open CodeAtlas.Number

inductive Problem
  | byteOrderMark
  | value
  | comma
  | colon
  | name
  | unterminated
  | controlCharacter
  | badEscape
  | badUnitEscape
  | extraData
  deriving DecidableEq, Repr

def Problem.message : Problem → String
  | .byteOrderMark => "Unexpected UTF-8 BOM (decode using utf-8-sig)"
  | .value => "Expecting value"
  | .comma => "Expecting ',' delimiter"
  | .colon => "Expecting ':' delimiter"
  | .name => "Expecting property name enclosed in double quotes"
  | .unterminated => "Unterminated string starting at"
  | .controlCharacter => "Invalid control character at"
  | .badEscape => "Invalid \\escape"
  | .badUnitEscape => "Invalid \\uXXXX escape"
  | .extraData => "Extra data"

/-- Malformed text is reported at an index. A whole number with too many digits is refused without a
place. -/
inductive ReadFailure
  | malformed (problem : Problem) (index : Nat)
  | tooManyDigits
  deriving DecidableEq, Repr

/-- What is left to read, and its index in the whole text. -/
structure Cursor where
  rest : List Char
  index : Nat

def Cursor.skip (cursor : Cursor) (count : Nat) : Cursor :=
  ⟨cursor.rest.drop count, cursor.index + count⟩

def isSpace (c : Char) : Bool :=
  c = ' ' || c = '\t' || c = '\n' || c = '\r'

def skipSpace (index : Nat) : List Char → Cursor
  | [] => ⟨[], index⟩
  | c :: rest => if isSpace c then skipSpace (index + 1) rest else ⟨c :: rest, index⟩

def Cursor.space (cursor : Cursor) : Cursor :=
  skipSpace cursor.index cursor.rest

def hexDigit? (c : Char) : Option Nat :=
  if '0' ≤ c && c ≤ '9' then some (c.toNat - 48)
  else if 'a' ≤ c && c ≤ 'f' then some (c.toNat - 87)
  else if 'A' ≤ c && c ≤ 'F' then some (c.toNat - 55)
  else none

def unit? : List Char → Option (Nat × List Char)
  | a :: b :: c :: d :: next :: rest => do
    let a ← hexDigit? a
    let b ← hexDigit? b
    let c ← hexDigit? c
    let d ← hexDigit? d
    pure (((a * 16 + b) * 16 + c) * 16 + d, next :: rest)
  | _ => none

def isHighUnit (unit : Nat) : Bool :=
  0xd800 ≤ unit && unit < 0xdc00

def isLowUnit (unit : Nat) : Bool :=
  0xdc00 ≤ unit && unit < 0xe000

def unitChar (unit : Nat) : Char :=
  if 0xd800 ≤ unit && unit < 0xe000 then '\ufffd' else Char.ofNat unit

def escapeMeaning? : Char → Option Char
  | '"' => some '"'
  | '\\' => some '\\'
  | '/' => some '/'
  | 'b' => some '\x08'
  | 'f' => some '\x0c'
  | 'n' => some '\n'
  | 'r' => some '\r'
  | 't' => some '\t'
  | _ => none

/-- The outcome of an escape: its character, what it took beyond the backslash, and the rest. -/
inductive Escape
  | char (value : Char) (taken : Nat) (rest : List Char)
  | failure (problem : Problem) (index : Nat)

def readLowUnit (index high : Nat) : List Char → Escape
  | '\\' :: 'u' :: a :: b :: c :: d :: next :: rest =>
    match unit? (a :: b :: c :: d :: next :: rest) with
    | some (low, after) =>
      if isLowUnit low then
        .char (Char.ofNat (0x10000 + (high - 0xd800) * 1024 + (low - 0xdc00))) 11 after
      else .char '\ufffd' 5 ('\\' :: 'u' :: a :: b :: c :: d :: next :: rest)
    | none => .failure .badUnitEscape (index + 7)
  | rest => .char '\ufffd' 5 rest

-- The text behind a backslash at `index`, in a text whose quote stands at `start`.
def readEscape (start index : Nat) : List Char → Escape
  | [] => .failure .unterminated start
  | 'u' :: rest =>
    match unit? rest with
    | some (unit, after) =>
      if isHighUnit unit then readLowUnit index unit after else .char (unitChar unit) 5 after
    | none => .failure .badUnitEscape (index + 1)
  | c :: rest =>
    match escapeMeaning? c with
    | some meaning => .char meaning 1 rest
    | none => .failure .badEscape index

-- The characters up to the closing quote; the opening one stands at `start`.
def readText (start : Nat) : Nat → List Char → Cursor → Except ReadFailure (String × Cursor)
  | 0, _, _ => .error (.malformed .unterminated start)
  | fuel + 1, taken, ⟨rest, index⟩ =>
    match rest with
    | [] => .error (.malformed .unterminated start)
    | '"' :: after => .ok (String.ofList taken.reverse, ⟨after, index + 1⟩)
    | '\\' :: after =>
      match readEscape start index after with
      | .char value count left => readText start fuel (value :: taken) ⟨left, index + 1 + count⟩
      | .failure problem place => .error (.malformed problem place)
    | c :: after =>
      if c.toNat < 32 then .error (.malformed .controlCharacter index)
      else readText start fuel (c :: taken) ⟨after, index + 1⟩

def digitsOf (text : List Char) : List Char × List Char :=
  text.span Char.isDigit

def digitsValue (digits : List Char) : Nat :=
  digits.foldl (fun n c => 10 * n + (c.toNat - 48)) 0

/-- The parts of a number. A zero in front ends the whole part. -/
structure Numeral where
  negative : Bool
  whole : List Char
  fraction : List Char
  exponent : Option (Bool × List Char)
  rest : List Char
  length : Nat

def wholePart : List Char → Option (List Char × List Char)
  | '0' :: rest => some (['0'], rest)
  | source =>
    match digitsOf source with
    | ([], _) => none
    | found => some found

def fractionPart : List Char → List Char × List Char
  | '.' :: rest =>
    match digitsOf rest with
    | ([], _) => ([], '.' :: rest)
    | found => found
  | source => ([], source)

-- The sign of an exponent, and how many characters it takes with the mark in front.
def exponentSign : List Char → Bool × Nat × List Char
  | '-' :: rest => (true, 2, rest)
  | '+' :: rest => (false, 2, rest)
  | rest => (false, 1, rest)

def exponentPart : List Char → Option (Bool × List Char × Nat × List Char)
  | c :: rest =>
    if c = 'e' || c = 'E' then
      let (negative, marked, after) := exponentSign rest
      match digitsOf after with
      | ([], _) => none
      | (digits, left) => some (negative, digits, marked + digits.length, left)
    else none
  | [] => none

def numeralOf (negative : Bool) (text : List Char) : Option Numeral :=
  match wholePart text with
  | none => none
  | some (whole, rest) =>
    let (fraction, rest) := fractionPart rest
    let length := (if negative then 1 else 0) + whole.length +
      (if fraction.isEmpty then 0 else fraction.length + 1)
    match exponentPart rest with
    | some (down, digits, count, rest) =>
      some ⟨negative, whole, fraction, some (down, digits), rest, length + count⟩
    | none => some ⟨negative, whole, fraction, none, rest, length⟩

def numeral? : List Char → Option Numeral
  | '-' :: source => numeralOf true source
  | source => numeralOf false source

def Numeral.value (n : Numeral) : Except ReadFailure Document :=
  if n.fraction.isEmpty && n.exponent.isNone then
    if digitLimit < n.whole.length then .error .tooManyDigits
    else
      let value : Int := digitsValue n.whole
      .ok (.int (if n.negative then -value else value))
  else
    let power : Int :=
      match n.exponent with
      | some (true, digits) => -(digitsValue digits : Int)
      | some (false, digits) => digitsValue digits
      | none => 0
    .ok (.float (nearestFloat n.negative (digitsValue (n.whole ++ n.fraction))
      (power - n.fraction.length)))

def words : List (String × Document) :=
  [("null", .null), ("true", .bool true), ("false", .bool false), ("NaN", .float notANumber),
   ("Infinity", .float infinity), ("-Infinity", .float (-infinity))]

def word? (text : List Char) : Option (Document × Nat) :=
  words.findSome? fun (word, value) =>
    if word.toList.isPrefixOf text then some (value, word.length) else none

def readScalar (cursor : Cursor) : Except ReadFailure (Document × Cursor) :=
  match word? cursor.rest with
  | some (value, length) => .ok (value, cursor.skip length)
  | none =>
    match numeral? cursor.rest with
    | none => .error (.malformed .value cursor.index)
    | some n => n.value.map fun value => (value, ⟨n.rest, cursor.index + n.length⟩)

mutual

def readValue : Nat → Cursor → Except ReadFailure (Document × Cursor)
  | 0, cursor => .error (.malformed .value cursor.index)
  | fuel + 1, cursor =>
    match cursor.rest with
    | '"' :: rest => do
      let (value, after) ← readText cursor.index rest.length.succ [] ⟨rest, cursor.index + 1⟩
      pure (.text value, after)
    | '[' :: rest =>
      let inner := skipSpace (cursor.index + 1) rest
      match inner.rest with
      | ']' :: after => .ok (.list [], ⟨after, inner.index + 1⟩)
      | _ => do
        let (items, after) ← readItems fuel inner
        pure (.list items, after)
    | '\x7b' :: rest =>
      let inner := skipSpace (cursor.index + 1) rest
      match inner.rest with
      | '\x7d' :: after => .ok (.object [], ⟨after, inner.index + 1⟩)
      | _ => do
        let (fields, after) ← readFields fuel [] inner
        pure (.object fields, after)
    | _ => readScalar cursor

def readItems : Nat → Cursor → Except ReadFailure (List Document × Cursor)
  | 0, cursor => .error (.malformed .value cursor.index)
  | fuel + 1, cursor => do
    let (item, after) ← readValue fuel cursor
    let next := after.space
    match next.rest with
    | ']' :: rest => pure ([item], ⟨rest, next.index + 1⟩)
    | ',' :: rest => do
      let (items, last) ← readItems fuel (skipSpace (next.index + 1) rest)
      pure (item :: items, last)
    | _ => .error (.malformed .comma next.index)

def readFields : Nat → List (String × Document) → Cursor →
    Except ReadFailure (List (String × Document) × Cursor)
  | 0, _, cursor => .error (.malformed .name cursor.index)
  | fuel + 1, fields, cursor =>
    match cursor.rest with
    | '"' :: rest => do
      let (name, after) ← readText cursor.index rest.length.succ [] ⟨rest, cursor.index + 1⟩
      let colon := after.space
      match colon.rest with
      | ':' :: rest => do
        let (value, after) ← readValue fuel (skipSpace (colon.index + 1) rest)
        let next := after.space
        let fields := Keyed.put name value fields
        match next.rest with
        | '\x7d' :: rest => pure (fields, ⟨rest, next.index + 1⟩)
        | ',' :: rest => readFields fuel fields (skipSpace (next.index + 1) rest)
        | _ => .error (.malformed .comma next.index)
      | _ => .error (.malformed .colon colon.index)
    | _ => .error (.malformed .name cursor.index)

end

-- Every step below a value takes a character, so the length of the text is fuel enough.
def parse (text : List Char) : Except ReadFailure Document :=
  match text with
  | '\ufeff' :: _ => .error (.malformed .byteOrderMark 0)
  | _ => do
    let (value, after) ← readValue (2 * text.length + 2) (skipSpace 0 text)
    let last := after.space
    if last.rest.isEmpty then pure value else .error (.malformed .extraData last.index)

def position (text : List Char) (index : Nat) : Nat × Nat :=
  let before := text.take index
  (before.count '\n' + 1, (before.reverse.takeWhile (· != '\n')).length + 1)

def ReadFailure.message (text : List Char) : ReadFailure → String
  | .malformed problem index =>
    let (line, column) := position text index
    s!"{problem.message}: line {line} column {column} (char {index})"
  | .tooManyDigits => s!"Exceeds the limit ({digitLimit} digits) for integer string conversion"

end CodeAtlas.Document
