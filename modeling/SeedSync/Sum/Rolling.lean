/-!
The rolling sum of a block: two sums modulo 2^16, of its bytes, and of its bytes each taken as
often as there are bytes from it to the end. Moving the block by one byte costs constant time.
-/

namespace SeedSync

structure RollingSum where
  a : UInt16
  b : UInt16
  blockSize : Nat
  mask : UInt32
  deriving DecidableEq, Repr

namespace RollingSum

/-- Keeps the `width` low bytes of a sum. -/
def maskOf (width : Nat) : UInt32 :=
  if width < 4 then UInt32.ofNat (1 <<< (8 * width) - 1) else 0xffffffff

def empty (blockSize width : Nat) : RollingSum := ⟨0, 0, blockSize, maskOf width⟩

def push (s : UInt16 × UInt16) (x : UInt8) : UInt16 × UInt16 :=
  let a := s.1 + x.toUInt16
  (a, s.2 + a)

/-- Adding up the first sums after each byte gives every byte its weight. -/
def sums (block : List UInt8) : UInt16 × UInt16 := block.foldl push (0, 0)

def combine (a b : UInt16) : UInt32 := a.toUInt32 <<< 16 ||| b.toUInt32

def hash (block : List UInt8) : UInt32 := combine (sums block).1 (sums block).2

def init (s : RollingSum) (block : List UInt8) : RollingSum :=
  let (a, b) := sums block
  { s with a, b }

def initFrom (s other : RollingSum) : RollingSum := { s with a := other.a, b := other.b }

/-- Drops `old` at the front of the block and appends `new`. -/
def update (s : RollingSum) (old new : UInt8) : RollingSum :=
  let a := s.a - old.toUInt16 + new.toUInt16
  { s with a, b := s.b - UInt16.ofNat s.blockSize * old.toUInt16 + a }

def digest (s : RollingSum) : UInt32 := combine s.a s.b

/-- The digest at the width that the control file stores. -/
def value (s : RollingSum) : UInt32 := s.digest &&& s.mask

end RollingSum

end SeedSync
