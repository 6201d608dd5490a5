import CodeAtlas.Number.Fixed

set_option autoImplicit false

/-! Messages cut into blocks of 64 bytes, as digests read them. -/

namespace CodeAtlas.Digest

def bytesOf (text : String) : List UInt8 :=
  text.toUTF8.toList

def lowFirst (count n : Nat) : List UInt8 :=
  (List.range count).map fun i => UInt8.ofNat (n / Nat.pow 256 i % 256)

-- One bit and zeros fill the message up, so that eight bytes for its length end a block.
def padded (length : Nat → List UInt8) (message : List UInt8) : List UInt8 :=
  let size := message.length
  let zeros := (119 - size % 64) % 64
  message ++ 128 :: List.replicate zeros 0 ++ length (8 * size % Nat.pow 2 64)

def chunksOf {α : Type} (size : Nat) : Nat → List α → List (List α)
  | 0, _ => []
  | _, [] => []
  | fuel + 1, items => items.take size :: chunksOf size fuel (items.drop size)

def blocks (message : List UInt8) : List (List UInt8) :=
  chunksOf 64 message.length message

def wordLowFirst (bytes : List UInt8) : UInt32 :=
  bytes.foldr (fun byte word => word <<< 8 ||| byte.toUInt32) 0

def wordHighFirst (bytes : List UInt8) : UInt32 :=
  bytes.foldl (fun word byte => word <<< 8 ||| byte.toUInt32) 0

def wordsOf (word : List UInt8 → UInt32) (block : List UInt8) : Array UInt32 :=
  ((chunksOf 4 block.length block).map word).toArray

def rotateLeft (word : UInt32) (count : UInt32) : UInt32 :=
  word <<< count ||| word >>> (32 - count)

def rotateRight (word : UInt32) (count : UInt32) : UInt32 :=
  word >>> count ||| word <<< (32 - count)

def hexWord (word : UInt32) : List Char :=
  Number.padLeft 8 '0' (Nat.toDigits 16 word.toNat)

end CodeAtlas.Digest
