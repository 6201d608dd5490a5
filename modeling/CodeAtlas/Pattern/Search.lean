import CodeAtlas.Pattern.Basic

set_option autoImplicit false

/-! Search by backtracking: of several ways to match, the preferred one that lets the rest match. -/

namespace CodeAtlas.Pattern

open CodeAtlas.Text

/-- A place in a text: what lies before it, nearest first, what lies after it, how long both are, and
the groups matched so far, latest first. -/
structure Cursor where
  before : List Char
  after : List Char
  index : Nat
  left : Nat
  groups : List (Nat × List Char)
  index_eq : index = before.length
  left_eq : left = after.length

namespace Cursor

def start (text : List Char) : Cursor :=
  ⟨[], text, 0, text.length, [], rfl, rfl⟩

def advance (cursor : Cursor) : Option (Char × Cursor) :=
  match h : cursor.after with
  | c :: after =>
    some (c, ⟨c :: cursor.before, after, cursor.index + 1, cursor.left - 1, cursor.groups,
      by simp [cursor.index_eq], by simp [cursor.left_eq, h]⟩)
  | [] => none

def back (cursor : Cursor) (count : Nat) : Option Cursor :=
  if h : count ≤ cursor.index then
    some
      { cursor with
        before := cursor.before.drop count
        after := (cursor.before.take count).reverse ++ cursor.after
        index := cursor.index - count
        left := count + cursor.left
        index_eq := by simp [cursor.index_eq]
        left_eq := by
          have := cursor.index_eq
          simp [cursor.left_eq]
          omega }
  else none

def upTo (cursor later : Cursor) : List Char :=
  cursor.after.take (cursor.left - later.left)

def group? (cursor : Cursor) (index : Nat) : Option (List Char) :=
  (cursor.groups.find? fun (other, _) => other == index).map (·.2)

def close (cursor : Cursor) (index : Nat) (opened : Cursor) : Cursor :=
  { cursor with groups := (index, opened.upTo cursor) :: cursor.groups }

def skipText (folding : Folding) : List Char → Cursor → Option Cursor
  | [], cursor => some cursor
  | c :: rest, cursor =>
    match cursor.advance with
    | some (d, next) =>
      if folding.fold c == folding.fold d then skipText folding rest next else none
    | none => none

end Cursor

def isWordIn (ascii : Bool) (c : Char) : Bool :=
  if ascii then isAsciiWord c else isWord c

def wordAt (ascii : Bool) : List Char → Bool
  | [] => false
  | c :: _ => isWordIn ascii c

namespace Anchor

-- An empty text has neither edges nor insides of words.
def holds (cursor : Cursor) : Anchor → Bool
  | .textStart => cursor.before.isEmpty
  | .lineStart =>
    match cursor.before with
    | [] => true
    | c :: _ => c = '\n'
  | .textEnd => cursor.after.isEmpty
  | .lastLineEnd => cursor.after.isEmpty || cursor.after == ['\n']
  | .lineEnd =>
    match cursor.after with
    | [] => true
    | c :: _ => c = '\n'
  | .wordEdge ascii => wordAt ascii cursor.before != wordAt ascii cursor.after
  | .insideWord ascii =>
    !(cursor.before.isEmpty && cursor.after.isEmpty) &&
      wordAt ascii cursor.before == wordAt ascii cursor.after

end Anchor

-- A step that hands every place it can reach to a continuation, the preferred one first, until one
-- succeeds.
abbrev Step (α : Type) := Cursor → (Cursor → Option α) → Option α

def mayRepeat (most : Option Nat) (count : Nat) : Bool :=
  match most with
  | some most => count < most
  | none => true

-- Rounds of a loop. A round beyond the least count starts only where the round before it did not
-- start, so a round that took nothing is the last one; hence there are no more of them than the
-- text has characters, and one.
def iterate {α : Type} (body : Step α) (least : Nat) (most : Option Nat) (lazy : Bool) :
    Nat → Nat → Option Nat → Step α
  | 0, _, _ => fun cursor next => next cursor
  | fuel + 1, count, mark => fun cursor next =>
    if count < least then
      body cursor fun later => iterate body least most lazy fuel (count + 1) mark later next
    else if mayRepeat most count && mark != some cursor.left then
      if lazy then
        next cursor <|> body cursor fun later =>
          iterate body least most lazy fuel (count + 1) (some cursor.left) later next
      else
        (body cursor fun later =>
          iterate body least most lazy fuel (count + 1) (some cursor.left) later next) <|>
          next cursor
    else next cursor

-- Rounds of which each keeps the first match it finds.
def possess (body : Cursor → Option Cursor) (least : Nat) (most : Option Nat) :
    Nat → Nat → Option Nat → Cursor → Option Cursor
  | 0, _, _, cursor => some cursor
  | fuel + 1, count, mark, cursor =>
    if count < least then
      (body cursor).bind fun later => possess body least most fuel (count + 1) mark later
    else if mayRepeat most count && mark != some cursor.left then
      match body cursor with
      | some later => possess body least most fuel (count + 1) (some cursor.left) later
      | none => some cursor
    else some cursor

def loopFuel (least : Nat) (cursor : Cursor) : Nat :=
  least + cursor.left + 2

def run {α : Type} : Pattern → Step α
  | .empty => fun cursor next => next cursor
  | .set s => fun cursor next =>
    match cursor.advance with
    | some (c, later) => if s.holds c then next later else none
    | none => none
  | .anchor a => fun cursor next => if a.holds cursor then next cursor else none
  | .seq first second => fun cursor next => run first cursor fun later => run second later next
  | .choice first second => fun cursor next => run first cursor next <|> run second cursor next
  | .loop body least most greed => fun cursor next =>
    match greed with
    | .possessive =>
      (possess (fun place => run body place some) least most (loopFuel least cursor) 0 none
        cursor).bind next
    | .greedy => iterate (run body) least most false (loopFuel least cursor) 0 none cursor next
    | .lazy => iterate (run body) least most true (loopFuel least cursor) 0 none cursor next
  | .group index body => fun cursor next =>
    run body cursor fun later => next (later.close index cursor)
  | .again index folding => fun cursor next =>
    match cursor.group? index with
    | some text => (cursor.skipText folding text).bind next
    | none => none
  | .ahead positive body => fun cursor next =>
    match run body cursor some with
    | some later => if positive then next { cursor with groups := later.groups } else none
    | none => if positive then none else next cursor
  | .behind positive width body => fun cursor next =>
    match (cursor.back width).bind fun earlier => run body earlier some with
    | some later => if positive then next { cursor with groups := later.groups } else none
    | none => if positive then none else next cursor
  | .atomic body => fun cursor next => (run body cursor some).bind next
  | .given index yes no => fun cursor next =>
    if (cursor.group? index).isSome then run yes cursor next else run no cursor next

/-- A match: the place it starts from and the place behind it, with its groups. -/
structure Match where
  start : Cursor
  stop : Cursor

namespace Match

def index (m : Match) : Nat :=
  m.start.index

def endIndex (m : Match) : Nat :=
  m.stop.index

def text (m : Match) : List Char :=
  m.start.upTo m.stop

def group? (m : Match) (index : Nat) : Option (List Char) :=
  m.stop.group? index

end Match

def matchAt (pattern : Pattern) (cursor : Cursor) : Option Match :=
  run pattern { cursor with groups := [] } fun stop => some ⟨cursor, stop⟩

def findFrom (pattern : Pattern) : Nat → Cursor → Option Match
  | 0, _ => none
  | places + 1, cursor =>
    match matchAt pattern cursor with
    | some found => some found
    | none => cursor.advance.bind fun (_, next) => findFrom pattern places next

def findNext (pattern : Pattern) (cursor : Cursor) : Option Match :=
  findFrom pattern (cursor.left + 1) cursor

def find (pattern : Pattern) (text : List Char) : Option Match :=
  findNext pattern (.start text)

def occurs (pattern : Pattern) (text : List Char) : Bool :=
  (find pattern text).isSome

-- Where the search goes on: behind the match, one character further if the match was empty.
def resume (m : Match) : Option Cursor :=
  if m.stop.index == m.start.index then m.stop.advance.map (·.2) else some m.stop

def findAllFrom (pattern : Pattern) : Nat → Cursor → List Match
  | 0, _ => []
  | fuel + 1, cursor =>
    match findNext pattern cursor with
    | none => []
    | some m =>
      m :: match resume m with
        | some next => findAllFrom pattern fuel next
        | none => []

def findAll (pattern : Pattern) (text : List Char) : List Match :=
  findAllFrom pattern (text.length + 1) (.start text)

end CodeAtlas.Pattern
