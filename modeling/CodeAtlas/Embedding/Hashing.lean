import CodeAtlas.Digest.Md5
import CodeAtlas.Embedding.Basic
import CodeAtlas.Embedding.Tokens

set_option autoImplicit false

/-! Texts embedded by counting their tokens in buckets. -/

namespace CodeAtlas.Embedding

def tokenHash (token : String) : Nat :=
  Digest.Md5.leading (Digest.bytesOf token)

def bucketOf (size : Nat) (token : String) : Nat :=
  tokenHash token % size

def hit {N : Type} [OfNat N 1] [Add N] (size : Nat) (buckets : List N) (token : String) : List N :=
  buckets.modify (bucketOf size token) (· + 1)

-- How often each bucket is hit, in the numbers of a type.
def counts (N : Type) [OfNat N 0] [OfNat N 1] [Add N] (size : Nat) (tokens : List String) :
    List N :=
  tokens.foldl (hit size) (List.replicate size 0)

def embedded (size : Nat) (text : String) : Embedding :=
  normalize (ofList (counts Float32 size (tokens text)))

-- The embedding of a text in so many dimensions. No token can be put where there is no bucket.
def hashed (dimensions : Int) (text : String) : Except Fault Embedding :=
  if dimensions < 0 then .error .badValue
  else if dimensions == 0 && !(tokens text).isEmpty then .error .dividedByZero
  else .ok (embedded dimensions.toNat text)

end CodeAtlas.Embedding
