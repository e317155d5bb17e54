import SeedSync.Matching.Sink

/-!
Matching two blocks in a row. The pair of rolling sums is the quick filter, and the strong sum of
each half is computed at most once per window. What the second half summed to is carried over when
it becomes the first half of the next window.
-/

namespace SeedSync

inductive PairedMatcher
  /-- Both halves of the next window are summed afresh. -/
  | fresh
  /-- The last window matched nothing; it began with `first`. -/
  | missed (first : UInt8) (current next : RollingSum)
  /-- After a match, the last window matched nothing; `next` is the sum of its second half. -/
  | matchedFirst (next : BlockSum.Draft)
  /-- The last window matched two blocks in a row; `next` is the sum of its second half. -/
  | matchedBoth (next : BlockSum.Draft)

namespace PairedMatcher

variable {σ : Type} [BlockSink σ] (c : ControlFile)

/-- The sums of both halves of a window, and whether the first half is already promising, so that
the pair of rolling sums need not be one of the target's. -/
structure Halves where
  current : BlockSum.Draft
  next : BlockSum.Draft
  promising : Bool

def leftHalf (w : View) : List UInt8 := w.part 0 c.header.blockSize
def rightHalf (w : View) : List UInt8 := w.part c.header.blockSize c.header.blockSize

def emptyDraft : BlockSum.Draft :=
  .empty c.header.blockSize c.header.hashLengths.rolling c.header.hashLengths.strong

/-- A half with this rolling sum, its strong sum left open. -/
def rolled (rolling : RollingSum) : BlockSum.Draft := ⟨rolling, (emptyDraft c).strong.unset⟩

def freshHalf (half : List UInt8) : BlockSum.Draft := rolled c ((emptyDraft c).rolling.init half)

/-- The sums of the window at hand. -/
def roll (m : PairedMatcher) (w : View) : Halves :=
  let bs := c.header.blockSize
  match m with
  | .fresh => ⟨freshHalf c (leftHalf c w), freshHalf c (rightHalf c w), false⟩
  | .missed first current next =>
    let middle := w.byte (bs - 1)
    ⟨rolled c (current.update first middle), rolled c (next.update middle (w.byte (2 * bs - 1))),
      false⟩
  | .matchedFirst next => ⟨next, freshHalf c (rightHalf c w), next.strong.isSet⟩
  | .matchedBoth next =>
    ⟨{ next with strong := next.strong.ensure (leftHalf c w) }, freshHalf c (rightHalf c w), true⟩

/-- Whether the block after `q` has the rolling sum of the second half. -/
def mayFollow (next : BlockSum.Draft) (q : Nat) : Bool :=
  (c.sums[q + 1]?).any fun s => s.rolling == next.rolling.value

/-- The blocks that the first half matches and whose successors, if they have one, the second half
matches, and the second half's sum with its strong sum set if it was called for. -/
def accept (h : Halves) (sink : σ) (w : View) : List Nat × BlockSum.Draft :=
  if !h.promising && !c.hasPair h.current.rolling.value h.next.rolling.value then ([], h.next)
  else
    let current := { h.current with strong := h.current.strong.ensure (leftHalf c w) }
    let found := BlockSink.positions sink current.sum
    let next :=
      if found.any (mayFollow c h.next) then
        { h.next with strong := h.next.strong.ensure (rightHalf c w) }
      else h.next
    (found.filter fun q => q + 1 == c.numBlocks ||
      (mayFollow c next q && c.sums[q + 1]? == some next.sum), next)

/-- The matcher that has rolled on but not settled the window. -/
def rolledTo (m : PairedMatcher) (current : RollingSum) (next : BlockSum.Draft) : PairedMatcher :=
  match m with
  | .fresh => .fresh
  | .missed first _ _ => .missed first current next.rolling
  | .matchedFirst _ => .matchedFirst next
  | .matchedBoth _ => .matchedBoth next

/-- The block itself, and the one after it from the second half. -/
def writes (q : Nat) : List (Nat × Nat) :=
  if q + 1 < c.numBlocks then [(q, 0), (q + 1, c.header.blockSize)] else [(q, 0)]

/-- Writes the blocks that a window matches and says how far the window is to move. A window that
is shorter than its first half is out of range. -/
def matchWindow (m : PairedMatcher) (sink : σ) (w : View) : Except Error Nat × PairedMatcher × σ :=
  if w.length < c.header.blockSize then (.error .panic, m, sink)
  else
    let h := m.roll c w
    match accept c h sink w with
    | ([], next) =>
      match m with
      | .matchedBoth _ => (.ok c.header.blockSize, .matchedFirst next, sink)
      | _ => (.ok 1, .missed (w.byte 0) h.current.rolling next.rolling, sink)
    | (found, next) =>
      match BlockSink.writeBlocks sink w (found.flatMap (writes c)) with
      | (.error e, sink) => (.error e, m.rolledTo h.current.rolling next, sink)
      | (.ok (), sink) => (.ok c.header.blockSize, .matchedBoth next, sink)

end PairedMatcher

end SeedSync
