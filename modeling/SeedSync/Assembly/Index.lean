import SeedSync.Sum.Block

/-!
Looking up the blocks with a given sum: the blocks lie in buckets by the low bits of their rolling
sum, in increasing order.
-/

namespace SeedSync

structure BlockIndex where
  buckets : Array (Array Nat)
  mask : UInt32

namespace BlockIndex

/-- A power of two, at least the number of blocks up to 2^24. -/
def tableSize (blocks : Nat) : Nat := min (max blocks 1).nextPowerOfTwo (1 <<< 24)

def slot (mask : UInt32) (s : BlockSum) : Nat := (s.rolling &&& mask).toNat

def insert (x : BlockIndex) (s : BlockSum) (i : Nat) : BlockIndex :=
  { x with buckets := x.buckets.modify (slot x.mask s) (·.push i) }

def ofSums (sums : Array BlockSum) : BlockIndex :=
  let size := tableSize sums.size
  sums.toList.zipIdx.foldl (fun x (s, i) => x.insert s i)
    ⟨Array.replicate size #[], UInt32.ofNat (size - 1)⟩

/-- The blocks with this sum, in increasing order. -/
def positions (x : BlockIndex) (sums : Array BlockSum) (s : BlockSum) : List Nat :=
  (x.buckets.getD (slot x.mask s) #[]).toList.filter fun i => sums[i]? == some s

end BlockIndex

end SeedSync
