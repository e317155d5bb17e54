/-!
The outer form that MD4 and SHA-1 share: a message is padded to whole blocks of sixteen 32-bit
words, and the blocks are compressed into a chaining value one after the other.
-/

namespace SeedSync.Digest

/-- A message under way: the chaining value, and what is gathered of the next block. -/
structure Intake (σ : Type) where
  chain : σ
  words : Array UInt32
  word : UInt32
  filled : Nat

/-- How bytes make words, how blocks change the chaining value, and how words make bytes. -/
structure Scheme (σ : Type) where
  start : σ
  join : UInt32 → UInt8 → UInt32
  compress : σ → Array UInt32 → σ
  /-- The length in bits, as the last eight bytes of the padding. -/
  lengthBytes : UInt64 → List UInt8

namespace Scheme

variable {σ : Type} (S : Scheme σ)

def absorb (s : Intake σ) (b : UInt8) : Intake σ :=
  let word := S.join s.word b
  if s.filled < 3 then { s with word, filled := s.filled + 1 }
  else if s.words.size < 15 then { s with words := s.words.push word, word := 0, filled := 0 }
  else ⟨S.compress s.chain (s.words.push word), #[], 0, 0⟩

/-- A one bit, zeros up to eight bytes short of a block, and the length. -/
def padding (length : Nat) : List UInt8 :=
  0x80 :: List.replicate ((119 - length % 64) % 64) 0 ++ S.lengthBytes (UInt64.ofNat (8 * length))

def run (message : List UInt8) : σ :=
  let s := message.foldl S.absorb ⟨S.start, #[], 0, 0⟩
  ((S.padding message.length).foldl S.absorb s).chain

end Scheme

def rotateLeft (x : UInt32) (n : UInt32) : UInt32 := x <<< n ||| x >>> (32 - n)

def littleEndian (w : UInt32) : List UInt8 :=
  [w.toUInt8, (w >>> 8).toUInt8, (w >>> 16).toUInt8, (w >>> 24).toUInt8]

def bigEndian (w : UInt32) : List UInt8 := (littleEndian w).reverse

end SeedSync.Digest
