import CodeAtlas.Number.Read
import CodeAtlas.Pattern.Width
import CodeAtlas.Text.CharacterNames
import CodeAtlas.Text.Identifier

set_option autoImplicit false

/-! Patterns read from their written form. -/

namespace CodeAtlas.Pattern

open CodeAtlas.Text CodeAtlas.Number

/-- Why a text is no pattern. -/
inductive ReadError
  | malformed
  | tooManyRounds
  | tooManyDigits
  | codeTooLarge
  | conflictingFlags
  deriving DecidableEq, Repr

/-- A character, or one behind a backslash. -/
inductive Token
  | char (c : Char)
  | escaped (c : Char)
  deriving DecidableEq, Repr

-- The tokens of a text, and whether a backslash is left over at its end.
def tokens : List Char → List Token × Bool
  | [] => ([], false)
  | ['\\'] => ([], true)
  | '\\' :: c :: rest => ((.escaped c :: (tokens rest).1), (tokens rest).2)
  | c :: rest => ((.char c :: (tokens rest).1), (tokens rest).2)

structure Flags where
  ignoreCase : Bool := false
  multiline : Bool := false
  dotAll : Bool := false
  verbose : Bool := false
  ascii : Bool := false
  unicode : Bool := false
  template : Bool := false
  deriving DecidableEq, Repr

namespace Flags

def folding (flags : Flags) : Folding :=
  if flags.ignoreCase then if flags.ascii then .ascii else .unicode else .exact

def or (a b : Flags) : Flags :=
  ⟨a.ignoreCase || b.ignoreCase, a.multiline || b.multiline, a.dotAll || b.dotAll,
   a.verbose || b.verbose, a.ascii || b.ascii, a.unicode || b.unicode, a.template || b.template⟩

def without (a b : Flags) : Flags :=
  ⟨a.ignoreCase && !b.ignoreCase, a.multiline && !b.multiline, a.dotAll && !b.dotAll,
   a.verbose && !b.verbose, a.ascii && !b.ascii, a.unicode && !b.unicode,
   a.template && !b.template⟩

def inScope (outer add del : Flags) : Flags :=
  let outer := if add.ascii || add.unicode then { outer with ascii := false, unicode := false }
    else outer
  (outer.or add).without del

def overlaps (a b : Flags) : Bool :=
  (a.ignoreCase && b.ignoreCase) || (a.multiline && b.multiline) || (a.dotAll && b.dotAll) ||
    (a.verbose && b.verbose)

def ofChar? : Char → Option Flags
  | 'i' => some { ignoreCase := true }
  | 'm' => some { multiline := true }
  | 's' => some { dotAll := true }
  | 'x' => some { verbose := true }
  | 'a' => some { ascii := true }
  | 'u' => some { unicode := true }
  | 't' => some { template := true }
  | _ => none

end Flags

/-- The reader's state: the tokens left, whether a backslash stands behind them, the groups opened, named
and closed so far, the groups that may be matched again inside a look behind, the groups that
conditions ask for, the flags set for the whole pattern, and whether there is anything in it that is
refused only after all of it is read. -/
structure Source where
  tokens : List Token
  cut : Bool
  opened : Nat := 0
  names : List (String × Nat) := []
  closed : List (Nat × Width) := []
  bound : Option Nat := none
  asked : List Nat := []
  flags : Flags
  refused : Bool := false

abbrev Read (α : Type) := StateT Source (Except ReadError) α

def malformed {α : Type} : Read α :=
  throw .malformed

def refuseIf (wrong : Bool) : Read Unit :=
  modify fun s => { s with refused := s.refused || wrong }

def peek : Read (Option Token) := do
  pure (← get).tokens.head?

-- The next token. One token is always read ahead, so a backslash that is left over is an error as soon
-- as the token in front of it is taken.
def take : Read (Option Token) := do
  let s ← get
  match s.tokens with
  | [] => pure none
  | token :: rest =>
    if rest.isEmpty && s.cut then malformed
    else
      modify fun s => { s with tokens := rest }
      pure (some token)

def accept (c : Char) : Read Bool := do
  match ← peek with
  | some (.char d) =>
    if c == d then
      let _ ← take
      pure true
    else pure false
  | _ => pure false

def expect (c : Char) : Read Unit := do
  unless ← accept c do malformed

def hexValue? (c : Char) : Option Nat :=
  if '0' ≤ c && c ≤ '9' then some (c.toNat - 48)
  else if 'a' ≤ c && c ≤ 'f' then some (c.toNat - 87)
  else if 'A' ≤ c && c ≤ 'F' then some (c.toNat - 55)
  else none

def octalValue? (c : Char) : Option Nat :=
  if '0' ≤ c && c ≤ '7' then some (c.toNat - 48) else none

-- At most `count` digits, with the value read so far and how many there were.
def takeDigits (digit : Char → Option Nat) (base : Nat) : Nat → Nat → Nat → Read (Nat × Nat)
  | 0, value, taken => pure (value, taken)
  | count + 1, value, taken => do
    match ← peek with
    | some (.char c) =>
      match digit c with
      | some d =>
        let _ ← take
        takeDigits digit base count (value * base + d) (taken + 1)
      | none => pure (value, taken)
    | _ => pure (value, taken)

def takeHex (count : Nat) : Read Nat := do
  let (value, taken) ← takeDigits hexValue? 16 count 0 0
  if taken == count then pure value else malformed

-- Codes beyond the last character are wrong, and still larger ones are not even numbers of the machine.
def codePoint (code : Nat) : Read Nat :=
  if code < 0x110000 then pure code
  else if code < 0x80000000 then malformed
  else throw .codeTooLarge

def takeUntil (stop : Char) : Nat → List Char → Read (List Char)
  | 0, _ => malformed
  | fuel + 1, found => do
    match ← take with
    | none => malformed
    | some (.char c) =>
      if c == stop then
        if found.isEmpty then malformed else pure found.reverse
      else takeUntil stop fuel (c :: found)
    | some (.escaped c) => takeUntil stop fuel (c :: '\\' :: found)

def takeName (stop : Char) : Read (List Char) := do
  takeUntil stop ((← get).tokens.length + 1) []

def namedClass? : Char → Option (Bool × NamedClass)
  | 'd' => some (true, .digit)
  | 'D' => some (false, .digit)
  | 's' => some (true, .space)
  | 'S' => some (false, .space)
  | 'w' => some (true, .word)
  | 'W' => some (false, .word)
  | _ => none

def controlChar? : Char → Option Char
  | 'a' => some '\x07'
  | 'b' => some '\x08'
  | 'f' => some '\x0c'
  | 'n' => some '\n'
  | 'r' => some '\r'
  | 't' => some '\t'
  | 'v' => some '\x0b'
  | _ => none

def namedCode : Read Nat := do
  expect '\x7b'
  match charNamed? (← takeName '\x7d') with
  | some code => pure code
  | none => malformed

-- The escapes that give a code: hexadecimal ones, names, and characters that are no ASCII letters.
def codedChar (c : Char) : Read Nat := do
  if c = 'x' then takeHex 2
  else if c = 'u' then takeHex 4
  else if c = 'U' then codePoint (← takeHex 8)
  else if c = 'N' then namedCode
  else if c.isAlpha then malformed
  else pure c.toNat

/-- A member of a class as it is written. -/
inductive Member
  | code (n : Nat)
  | span (low high : Nat)
  | named (positive : Bool) (name : NamedClass)
  deriving DecidableEq, Repr

def isSurrogate (code : Nat) : Bool :=
  0xd800 ≤ code && code < 0xe000

-- No character has the code of a surrogate, so a span is cut where it ends among these codes.
def Member.items : Member → List ClassItem
  | .code n => if isSurrogate n then [] else [.char (Char.ofNat n)]
  | .span low high =>
    let low := if isSurrogate low then 0xe000 else low
    let high := if isSurrogate high then 0xd7ff else high
    if high < low then [] else [.range (Char.ofNat low) (Char.ofNat high)]
  | .named positive name => [.named positive name]

def classEscape (c : Char) : Read Member := do
  match controlChar? c with
  | some meaning => pure (.code meaning.toNat)
  | none =>
    match namedClass? c with
    | some (positive, name) => pure (.named positive name)
    | none =>
      match octalValue? c with
      | some first =>
        let (value, _) ← takeDigits octalValue? 8 2 first 0
        if 0o377 < value then malformed else pure (.code value)
      | none => if c.isDigit then malformed else pure (.code (← codedChar c))

def classMember : Token → Read Member
  | .char c => pure (.code c.toNat)
  | .escaped c => classEscape c

-- The members up to the closing bracket. A bracket that comes first is a member.
def classMembers : Nat → List Member → Read (List Member)
  | 0, _ => malformed
  | fuel + 1, found => do
    match ← take with
    | none => malformed
    | some token =>
      if token == .char ']' && !found.isEmpty then pure found.reverse
      else
        let low ← classMember token
        if ← accept '-' then
          match ← take with
          | none => malformed
          | some next =>
            if next == .char ']' then pure (.code '-'.toNat :: low :: found).reverse
            else
              let high ← classMember next
              match low, high with
              | .code a, .code b =>
                if b < a then malformed else classMembers fuel (.span a b :: found)
              | _, _ => malformed
        else classMembers fuel (low :: found)

def readClass (flags : Flags) : Read CharSet := do
  let negated ← accept '^'
  let members ← classMembers ((← get).tokens.length + 1) []
  pure ⟨!negated, members.flatMap Member.items, flags.folding, flags.ascii⟩

-- Only a group that is closed, and not one of the same look behind, can be matched again.
def checkGroup (index : Nat) : Read Unit := do
  let s ← get
  unless s.closed.any fun (other, _) => other == index do malformed
  match s.bound with
  | some bound => if bound < index then malformed
  | none => pure ()

def groupAgain (flags : Flags) (index : Nat) : Read Pattern := do
  checkGroup index
  pure (.again index flags.folding)

def codePattern (flags : Flags) (code : Nat) : Pattern :=
  .set ⟨true, (Member.code code).items, flags.folding, flags.ascii⟩

-- A digit behind a backslash starts an octal code of three digits or the number of a group.
def numberEscape (flags : Flags) (c : Char) : Read Pattern := do
  let first := c.toNat - 48
  match ← peek with
  | some (.char d) =>
    if d.isDigit then
      let _ ← take
      let number := 10 * first + (d.toNat - 48)
      match octalValue? c, octalValue? d with
      | some a, some b =>
        match ← peek with
        | some (.char e) =>
          match octalValue? e with
          | some third =>
            let _ ← take
            let value := (a * 8 + b) * 8 + third
            if 0o377 < value then malformed else pure (codePattern flags value)
          | none => groupAgain flags number
        | _ => groupAgain flags number
      | _, _ => groupAgain flags number
    else groupAgain flags first
  | _ => groupAgain flags first

/-- A piece of a pattern, as far as a repeat behind it is concerned. -/
inductive Piece
  | anchor
  | loop
  | other
  deriving DecidableEq, Repr

def outerEscape? (flags : Flags) : Char → Option Anchor
  | 'A' => some .textStart
  | 'Z' => some .textEnd
  | 'b' => some (.wordEdge flags.ascii)
  | 'B' => some (.insideWord flags.ascii)
  | _ => none

def readEscape (flags : Flags) (c : Char) : Read (Piece × Pattern) := do
  match outerEscape? flags c with
  | some place => pure (.anchor, .anchor place)
  | none =>
    match namedClass? c with
    | some (positive, name) =>
      pure (.other, .set ⟨true, [.named positive name], flags.folding, flags.ascii⟩)
    | none =>
      match controlChar? c with
      | some meaning => pure (.other, codePattern flags meaning.toNat)
      | none =>
        if c = '0' then
          let (value, _) ← takeDigits octalValue? 8 2 0 0
          pure (.other, codePattern flags value)
        else if c.isDigit then pure (.other, ← numberEscape flags c)
        else pure (.other, codePattern flags (← codedChar c))

def roundLimit : Nat := 4294967295

def checkCount (digits count : Nat) : Read Unit := do
  if digitLimit < digits then throw .tooManyDigits
  if roundLimit ≤ count then throw .tooManyRounds

-- The counts between braces, or nothing where the brace stands for itself.
def readCounts : Read (Option (Nat × Option Nat)) := do
  let s ← get
  if (← peek) == some (.char '\x7d') then pure none
  else
    let size := s.tokens.length
    let (low, lowDigits) ← takeDigits asciiDigit? 10 size 0 0
    let (high, highDigits) ←
      if ← accept ',' then takeDigits asciiDigit? 10 size 0 0 else pure (low, lowDigits)
    if ← accept '\x7d' then
      checkCount lowDigits low
      checkCount highDigits high
      if highDigits != 0 && high < low then malformed
      pure (some (low, if highDigits == 0 then none else some high))
    else
      modify fun _ => s
      pure none

def repeatCounts (c : Char) : Read (Option (Nat × Option Nat)) :=
  if c = '?' then pure (some (0, some 1))
  else if c = '*' then pure (some (0, none))
  else if c = '+' then pure (some (1, none))
  else if c = '\x7b' then readCounts
  else pure none

def readGreed : Read Greed := do
  if ← accept '?' then pure .lazy
  else if ← accept '+' then pure .possessive
  else pure .greedy

def repeatLast (least : Nat) (most : Option Nat) :
    List (Piece × Pattern) → Read (List (Piece × Pattern))
  | (.other, body) :: rest => do
    let greed ← readGreed
    refuseIf (← get).flags.template
    pure ((.loop, .loop body least most greed) :: rest)
  | _ => malformed

-- Letters of flags, the first of which is already taken. The character behind them is left.
def flagLetters : Nat → Char → Flags → Read (Flags × Char)
  | 0, _, _ => malformed
  | fuel + 1, c, found => do
    match Flags.ofChar? c with
    | none => malformed
    | some flag =>
      let found := found.or flag
      if found.ascii && found.unicode then malformed
      match ← take with
      | some (.char next) =>
        if next = ')' || next = '-' || next = ':' then pure (found, next)
        else flagLetters fuel next found
      | _ => malformed

/-- What a group of flags is for: the whole pattern, or a part of it. -/
inductive FlagGroup
  | whole
  | part (add del : Flags)

def removedFlags (size : Nat) (added : Flags) : Read FlagGroup := do
  match ← take with
  | some (.char first) =>
    let (removed, stop) ← flagLetters size first {}
    if stop != ':' || removed.ascii || removed.unicode || removed.template ||
        added.overlaps removed then malformed
    else pure (.part added removed)
  | _ => malformed

def readFlags (c : Char) : Read FlagGroup := do
  let size := (← get).tokens.length + 1
  if c = '-' then removedFlags size {}
  else
    let (added, stop) ← flagLetters size c {}
    if stop = ')' then
      modify fun s => { s with flags := s.flags.or added }
      pure .whole
    else if added.template then malformed
    else if stop = ':' then pure (.part added {})
    else removedFlags size added

def groupLimit : Nat := 1073741823

def openGroup (name : Option String) : Read Nat := do
  let s ← get
  let index := s.opened + 1
  if groupLimit ≤ index then malformed
  match name with
  | none => modify fun s => { s with opened := index }
  | some name =>
    if s.names.any fun (other, _) => other == name then malformed
    else modify fun s => { s with opened := index, names := (name, index) :: s.names }
  pure index

def closeGroup (index : Nat) (body : Pattern) : Read Unit :=
  modify fun s => { s with closed := (index, width s.closed body) :: s.closed }

def knownName (name : List Char) : Read Nat := do
  if isIdentifier name then
    match (← get).names.find? fun (other, _) => other == String.ofList name with
    | some (_, index) => pure index
    | none => malformed
  else malformed

def askedGroup (name : List Char) : Read Nat := do
  if isIdentifier name then knownName name
  else
    match readInt name with
    | some (.ofNat (n + 1)) =>
      if groupLimit ≤ n + 1 then malformed
      modify fun s => { s with asked := (n + 1) :: s.asked }
      pure (n + 1)
    | _ => malformed

-- Inside a look behind a condition may ask only for groups closed before it.
def checkAsked (index : Nat) : Read Unit := do
  match (← get).bound with
  | some _ => checkGroup index
  | none => pure ()

def skipComment : Nat → Read Unit
  | 0 => malformed
  | fuel + 1 => do
    match ← take with
    | none => malformed
    | some (.char ')') => pure ()
    | some _ => skipComment fuel

def skipLine : Nat → Read Unit
  | 0 => pure ()
  | fuel + 1 => do
    match ← take with
    | none => pure ()
    | some (.char '\n') => pure ()
    | some _ => skipLine fuel

def sequence (pieces : List (Piece × Pattern)) : Pattern :=
  pieces.foldl (fun rest (_, piece) => if rest matches .empty then piece else .seq piece rest) .empty

def choices : List Pattern → Pattern
  | [] => .empty
  | [only] => only
  | first :: rest => .choice first (choices rest)

def isLayout (c : Char) : Bool :=
  c = ' ' || (9 ≤ c.toNat && c.toNat ≤ 13)

/-- What stands behind an opening parenthesis and a question mark. -/
inductive Opening
  | named (name : String)
  | plain
  | again (index : Nat)
  | comment
  | look (positive ahead : Bool)
  | condition (index : Nat)
  | atomic
  | flags (group : FlagGroup)

def readOpening : Read Opening := do
  match ← take with
  | some (.char 'P') =>
    if ← accept '<' then
      let name ← takeName '>'
      if isIdentifier name then pure (.named (String.ofList name)) else malformed
    else if ← accept '=' then
      let index ← knownName (← takeName ')')
      checkGroup index
      pure (.again index)
    else malformed
  | some (.char ':') => pure .plain
  | some (.char '#') =>
    skipComment ((← get).tokens.length + 1)
    pure .comment
  | some (.char '=') => pure (.look true true)
  | some (.char '!') => pure (.look false true)
  | some (.char '<') =>
    if ← accept '=' then pure (.look true false)
    else if ← accept '!' then pure (.look false false)
    else malformed
  | some (.char '(') =>
    let index ← askedGroup (← takeName ')')
    checkAsked index
    pure (.condition index)
  | some (.char '>') => pure .atomic
  | some (.char c) =>
    if c = '-' || (Flags.ofChar? c).isSome then pure (.flags (← readFlags c)) else malformed
  | _ => malformed

-- What is looked for behind a place has to have one width.
def lookBehind (positive : Bool) (body : Pattern) : Read Pattern := do
  let w := width (← get).closed body
  refuseIf (w.least != w.most || roundLimit < w.least)
  pure (.behind positive w.least body)

mutual

def readChoice : Nat → Bool → Flags → List Pattern → Read Pattern
  | 0, _, _, _ => malformed
  | fuel + 1, nested, flags, found => do
    let item ← readSequence fuel (!nested && found.isEmpty) flags []
    if ← accept '|' then
      let whole := (← get).flags
      readChoice fuel nested (if nested then flags else whole) (item :: found)
    else pure (choices (item :: found).reverse)

-- Pieces up to a bar, a closing parenthesis or the end. Flags for the whole pattern may be set only
-- in front of all pieces.
def readSequence : Nat → Bool → Flags → List (Piece × Pattern) → Read Pattern
  | 0, _, _, _ => malformed
  | fuel + 1, first, flags, found => do
    match ← peek with
    | none => pure (sequence found)
    | some (.char '|') => pure (sequence found)
    | some (.char ')') => pure (sequence found)
    | some token =>
      let _ ← take
      match token with
      | .escaped c =>
        let piece ← readEscape flags c
        readSequence fuel first flags (piece :: found)
      | .char c =>
        if flags.verbose && isLayout c then readSequence fuel first flags found
        else if flags.verbose && c = '#' then
          skipLine ((← get).tokens.length + 1)
          readSequence fuel first flags found
        else if c = '[' then
          let s ← readClass flags
          readSequence fuel first flags ((.other, .set s) :: found)
        else if c = '.' then
          let s := if flags.dotAll then CharSet.any else CharSet.notNewline
          readSequence fuel first flags ((.other, .set s) :: found)
        else if c = '^' then
          let place := if flags.multiline then Anchor.lineStart else Anchor.textStart
          readSequence fuel first flags ((.anchor, .anchor place) :: found)
        else if c = '$' then
          let place := if flags.multiline then Anchor.lineEnd else Anchor.lastLineEnd
          readSequence fuel first flags ((.anchor, .anchor place) :: found)
        else if c = '(' then
          if ← accept '?' then
            match ← readOpening with
            | .comment => readSequence fuel first flags found
            | .flags .whole =>
              let whole := (← get).flags
              if first && found.isEmpty then readSequence fuel first whole found
              else malformed
            | opening =>
              let piece ← readGroup fuel flags opening
              readSequence fuel first flags ((.other, piece) :: found)
          else
            let index ← openGroup none
            let body ← readChoice fuel true flags []
            expect ')'
            closeGroup index body
            readSequence fuel first flags ((.other, .group index body) :: found)
        else
          match ← repeatCounts c with
          | some (least, most) =>
            readSequence fuel first flags (← repeatLast least most found)
          | none => readSequence fuel first flags ((.other, codePattern flags c.toNat) :: found)

def readGroup : Nat → Flags → Opening → Read Pattern
  | 0, _, _ => malformed
  | fuel + 1, flags, opening => do
    match opening with
    | .named name =>
      let index ← openGroup (some name)
      let body ← readChoice fuel true flags []
      expect ')'
      closeGroup index body
      pure (.group index body)
    | .plain =>
      let body ← readChoice fuel true flags []
      expect ')'
      pure body
    | .flags (.part add del) =>
      let body ← readChoice fuel true (flags.inScope add del) []
      expect ')'
      pure body
    | .atomic =>
      let body ← readChoice fuel true flags []
      expect ')'
      pure (.atomic body)
    | .again index => pure (.again index flags.folding)
    | .look positive true =>
      let body ← readChoice fuel true flags []
      expect ')'
      pure (.ahead positive body)
    | .look positive false =>
      let outer := (← get).bound
      if outer.isNone then modify fun s => { s with bound := some s.opened }
      let body ← readChoice fuel true flags []
      if outer.isNone then modify fun s => { s with bound := none }
      expect ')'
      lookBehind positive body
    | .condition index =>
      let yes ← readSequence fuel false flags []
      let no ← if ← accept '|' then readSequence fuel false flags [] else pure .empty
      expect ')'
      pure (.given index yes no)
    | .comment => pure .empty
    | .flags .whole => malformed

end

-- A pattern with the flags it starts under. Every call takes a token or is the only one of its kind
-- on the way to a call that does, so three for each token are enough.
def read (flags : Flags) (text : List Char) : Except ReadError Pattern := do
  let (tokens, cut) := tokens text
  if tokens.isEmpty && cut then throw .malformed
  let (pattern, s) ← readChoice (3 * tokens.length + 3) false flags [] |>.run { tokens, cut, flags }
  if s.flags.ascii && s.flags.unicode then throw .conflictingFlags
  unless s.tokens.isEmpty do throw .malformed
  unless s.asked.all (· ≤ s.opened) do throw .malformed
  if s.refused then throw .malformed
  pure pattern

end CodeAtlas.Pattern
