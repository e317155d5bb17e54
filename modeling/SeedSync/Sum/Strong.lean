import SeedSync.Digest.Md4

/-!
The strong sum of a block: the leading bytes of its MD4, with zeros in the place of the rest, so
that equality compares the bytes kept. A register holds one that is computed only when needed.
-/

namespace SeedSync

abbrev StrongBytes := Vector UInt8 16

namespace StrongBytes

def zero : StrongBytes := Vector.replicate 16 0

/-- The bytes from `width` on replaced by zeros. -/
def truncate (width : Nat) (bytes : StrongBytes) : StrongBytes :=
  Vector.ofFn fun i => if i.val < width then bytes[i] else 0

def ofList (bs : List UInt8) : StrongBytes := Vector.ofFn fun i => bs.getD i.val 0

def ofBlock (width : Nat) (block : List UInt8) : StrongBytes := truncate width (Md4.hash block)

end StrongBytes

structure StrongSum where
  bytes : StrongBytes
  width : Nat
  isSet : Bool
  deriving DecidableEq, Repr

namespace StrongSum

def empty (width : Nat) : StrongSum := ⟨StrongBytes.zero, min width 16, false⟩

def unset (s : StrongSum) : StrongSum := { s with isSet := false }

@[simp] theorem isSet_unset (s : StrongSum) : s.unset.isSet = false := rfl

def compute (s : StrongSum) (block : List UInt8) : StrongSum :=
  { s with bytes := StrongBytes.ofBlock s.width block, isSet := true }

/-- Takes over what `other` holds, also whether it holds anything. -/
def copyFrom (s other : StrongSum) : StrongSum :=
  { s with bytes := other.bytes, isSet := other.isSet }

/-- Computes the sum of `block` unless one is held. -/
def ensure (s : StrongSum) (block : List UInt8) : StrongSum :=
  if s.isSet then s else s.compute block

end StrongSum

end SeedSync
