import SeedSync.Matching.Sink

/-!
Matching one block at a time. After a miss the rolling sum moves on by one byte; the strong sum is
computed only where the rolling sum is one of the target's.
-/

namespace SeedSync

inductive SingleMatcher
  /-- The next window is summed afresh. -/
  | fresh
  /-- The last window matched nothing; it began with `first` and had the sum `rolling`. -/
  | missed (first : UInt8) (rolling : RollingSum)

namespace SingleMatcher

variable {σ : Type} [BlockSink σ] (c : ControlFile)

def roll (m : SingleMatcher) (w : View) : RollingSum :=
  match m with
  | .fresh =>
    (RollingSum.empty c.header.blockSize c.header.hashLengths.rolling).init w.toList
  | .missed first rolling => rolling.update first (w.byte (c.header.blockSize - 1))

def candidates (rolling : RollingSum) (sink : σ) (w : View) : List Nat :=
  if c.hasRolling rolling.value then
    BlockSink.positions sink
      ⟨rolling.value, StrongBytes.ofBlock c.header.hashLengths.strong w.toList⟩
  else []

def rolledTo (m : SingleMatcher) (rolling : RollingSum) : SingleMatcher :=
  match m with
  | .fresh => .fresh
  | .missed first _ => .missed first rolling

/-- Writes the blocks that a window matches and says how far the window is to move. -/
def matchWindow (m : SingleMatcher) (sink : σ) (w : View) : Except Error Nat × SingleMatcher × σ :=
  let rolling := m.roll c w
  match candidates c rolling sink w with
  | [] => (.ok 1, .missed (w.byte 0) rolling, sink)
  | found =>
    match BlockSink.writeBlocks sink w (found.map fun q => (q, 0)) with
    | (.error e, sink) => (.error e, m.rolledTo rolling, sink)
    | (.ok (), sink) => (.ok c.header.blockSize, .fresh, sink)

end SingleMatcher

end SeedSync
