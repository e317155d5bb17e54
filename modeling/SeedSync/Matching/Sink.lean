import SeedSync.Control.Basic
import SeedSync.Window.View

/-!
Where a matcher puts the blocks that it finds.
-/

namespace SeedSync

class BlockSink (σ : Type) where
  /-- The target blocks with this sum, in increasing order. -/
  positions : σ → BlockSum → List Nat
  /-- Writes a target block from an offset of a view, and says whether it was still missing. -/
  writeBlock : σ → Nat → View → Nat → Except Error Bool × σ
  isComplete : σ → Bool
  /-- Takes note of a read of the seed and its size. -/
  noteRead : σ → Nat → σ

namespace BlockSink

variable {σ : Type} [BlockSink σ]

/-- Writes blocks from offsets of a view, up to the first failure. -/
def writeBlocks (sink : σ) (w : View) : List (Nat × Nat) → Except Error Unit × σ
  | [] => (.ok (), sink)
  | (index, offset) :: rest =>
    match writeBlock sink index w offset with
    | (.error e, sink) => (.error e, sink)
    | (.ok _, sink) => writeBlocks sink w rest

end BlockSink

end SeedSync
