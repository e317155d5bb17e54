import SeedSync.Sum.Rolling
import SeedSync.Sum.Strong

/-!
The sum of a block: its rolling and its strong sum at the widths of a control file. A draft is
one that a matcher carries from window to window.
-/

namespace SeedSync

structure BlockSum where
  rolling : UInt32
  strong : StrongBytes
  deriving DecidableEq, Repr

namespace BlockSum

def ofBlock (rollingWidth strongWidth : Nat) (block : List UInt8) : BlockSum :=
  ⟨RollingSum.hash block &&& RollingSum.maskOf rollingWidth, StrongBytes.ofBlock strongWidth block⟩

/-- A block sum under construction. -/
structure Draft where
  rolling : RollingSum
  strong : StrongSum
  deriving DecidableEq, Repr

namespace Draft

def empty (blockSize rollingWidth strongWidth : Nat) : Draft :=
  ⟨.empty blockSize rollingWidth, .empty strongWidth⟩

/-- What the draft compares as, once its strong sum is set. -/
def sum (d : Draft) : BlockSum := ⟨d.rolling.value, d.strong.bytes⟩

end Draft

end BlockSum

end SeedSync
