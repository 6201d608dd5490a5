set_option autoImplicit false

/-! Text read from UTF-8 bytes. -/

namespace CodeAtlas.Files

inductive DecodeProblem
  | badStart
  | badContinuation
  | unexpectedEnd
  deriving DecidableEq, Repr

/-- A character, or bytes that begin one and do not go on as they should. `size` is the number of
bytes. -/
inductive Piece
  | char (c : Char) (size : Nat)
  | bad (problem : DecodeProblem) (first : UInt8) (size : Nat)
  deriving DecidableEq, Repr

def Piece.size : Piece → Nat
  | .char _ size => size
  | .bad _ _ size => size

/-- A character whose first bytes are read. The next byte has to lie between `low` and `high`. -/
structure Pending where
  first : UInt8
  seen : Nat
  need : Nat
  low : Nat
  high : Nat
  value : Nat

def pending? (byte : UInt8) : Option Pending :=
  let b := byte.toNat
  if 0xc2 ≤ b && b ≤ 0xdf then some ⟨byte, 1, 1, 0x80, 0xbf, b % 32⟩
  else if b == 0xe0 then some ⟨byte, 1, 2, 0xa0, 0xbf, 0⟩
  else if b == 0xed then some ⟨byte, 1, 2, 0x80, 0x9f, 13⟩
  else if 0xe1 ≤ b && b ≤ 0xef then some ⟨byte, 1, 2, 0x80, 0xbf, b % 16⟩
  else if b == 0xf0 then some ⟨byte, 1, 3, 0x90, 0xbf, 0⟩
  else if 0xf1 ≤ b && b ≤ 0xf3 then some ⟨byte, 1, 3, 0x80, 0xbf, b % 8⟩
  else if b == 0xf4 then some ⟨byte, 1, 3, 0x80, 0x8f, 4⟩
  else none

def beginPiece (byte : UInt8) : List Piece × Option Pending :=
  if byte < 128 then ([.char (Char.ofNat byte.toNat) 1], none)
  else
    match pending? byte with
    | some pending => ([], some pending)
    | none => ([.bad .badStart byte 1], none)

-- A byte that does not fit ends the character before it and begins the next.
def stepPiece (state : Option Pending) (byte : UInt8) : List Piece × Option Pending :=
  match state with
  | none => beginPiece byte
  | some p =>
    if p.low ≤ byte.toNat && byte.toNat ≤ p.high then
      let value := p.value * 64 + byte.toNat % 64
      if p.need ≤ 1 then ([.char (Char.ofNat value) (p.seen + 1)], none)
      else ([], some ⟨p.first, p.seen + 1, p.need - 1, 0x80, 0xbf, value⟩)
    else
      let (pieces, next) := beginPiece byte
      (.bad .badContinuation p.first p.seen :: pieces, next)

def piecesFrom (state : Option Pending) : List UInt8 → List Piece
  | [] =>
    match state with
    | none => []
    | some p => [.bad .unexpectedEnd p.first p.seen]
  | byte :: rest =>
    let (pieces, next) := stepPiece state byte
    pieces ++ piecesFrom next rest

def pieces (bytes : List UInt8) : List Piece :=
  piecesFrom none bytes

def Piece.orReplacement : Piece → Char
  | .char c _ => c
  | .bad .. => '\ufffd'

def unifyNewlines : List Char → List Char
  | [] => []
  | '\r' :: '\n' :: rest => '\n' :: unifyNewlines rest
  | '\r' :: rest => '\n' :: unifyNewlines rest
  | c :: rest => c :: unifyNewlines rest

def decodeAny (bytes : List UInt8) : String :=
  String.ofList (unifyNewlines ((pieces bytes).map Piece.orReplacement))

/-- Where bytes are no text. -/
structure DecodeFailure where
  problem : DecodeProblem
  first : UInt8
  position : Nat
  size : Nat

def charsOf (position : Nat) : List Piece → Except DecodeFailure (List Char)
  | [] => .ok []
  | .char c size :: rest => (charsOf (position + size) rest).map (c :: ·)
  | .bad problem first size :: _ => .error ⟨problem, first, position, size⟩

def decode (bytes : List UInt8) : Except DecodeFailure String :=
  (charsOf 0 (pieces bytes)).map fun chars => String.ofList (unifyNewlines chars)

def DecodeProblem.message : DecodeProblem → String
  | .badStart => "invalid start byte"
  | .badContinuation => "invalid continuation byte"
  | .unexpectedEnd => "unexpected end of data"

def DecodeFailure.message (failure : DecodeFailure) : String :=
  let byte := String.ofList (Nat.toDigits 16 failure.first.toNat)
  let reason := failure.problem.message
  if failure.size == 1 then
    s!"'utf-8' codec can't decode byte 0x{byte} in position {failure.position}: {reason}"
  else
    let last := failure.position + failure.size - 1
    s!"'utf-8' codec can't decode bytes in position {failure.position}-{last}: {reason}"

end CodeAtlas.Files
