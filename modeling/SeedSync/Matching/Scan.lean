import SeedSync.Matching.Paired
import SeedSync.Matching.Single
import SeedSync.Window.Sliding

/-!
Scanning a seed: a matcher looks at one window after the other, until the target is complete or
the seed ends. Zeros behind the seed let its tail match the target's last block.
-/

namespace SeedSync

inductive Matcher
  | single (m : SingleMatcher)
  | paired (m : PairedMatcher)

namespace Matcher

variable {σ : Type} [BlockSink σ] (c : ControlFile)

/-- The matcher that the control file asks for. -/
def start : Matcher :=
  if c.header.hashLengths.sequence > 1 then .paired .fresh else .single .fresh

/-- How many bytes a window has to have. -/
def reach : Nat :=
  if c.header.hashLengths.sequence > 1 then 2 * c.header.blockSize else c.header.blockSize

/-- The size of the windows, as a machine word holds it. -/
def span : Nat := reach c % UInt64.size

def matchWindow (m : Matcher) (sink : σ) (w : View) : Except Error Nat × Matcher × σ :=
  match m with
  | .single m =>
    let (r, m, sink) := m.matchWindow c sink w
    (r, .single m, sink)
  | .paired m =>
    let (r, m, sink) := m.matchWindow c sink w
    (r, .paired m, sink)

/-- The size of the buffer behind a window: a multiple of the window, at least twice as large and
at least 64 KiB, unless there is no such size. -/
def bufferSize (window : Nat) : Nat :=
  min (window * max ((65536 + window - 1) / window) 2) SlidingWindow.maxSize

end Matcher

namespace Scan

variable {σ : Type} [BlockSink σ] (c : ControlFile)

/-- Tells the sink of the reads of the seed since the last time. -/
def report (sink : σ) (w : SlidingWindow) : σ × SlidingWindow :=
  (w.feed.reads.foldl BlockSink.noteRead sink, { w with feed := { w.feed with reads := #[] } })

def run (m : Matcher) (sink : σ) (w : SlidingWindow) (_hw : w.base < w.limit) :
    Except Error Unit × σ × Source :=
  if BlockSink.isComplete sink then (.ok (), sink, w.feed.source)
  else
    match m.matchWindow c sink w.view with
    | (.error e, _, sink) => (.error e, sink, w.feed.source)
    | (.ok n, m, sink) =>
      match h : w.advance n with
      | (.error e, v) => (.error (.io .inputFileRead e), (report sink v).1, v.feed.source)
      | (.ok false, v) => (.ok (), (report sink v).1, v.feed.source)
      | (.ok true, v) =>
        run m (report sink v).1 (report sink v).2 (SlidingWindow.advance_true h).1
termination_by w.ahead
decreasing_by exact (SlidingWindow.advance_true h).2 _hw

/-- Scans a whole seed and gives back what is left of it. For windows of no bytes there is no size
of a buffer. -/
def seed (sink : σ) (source : Source) : Except Error Unit × σ × Source :=
  let span := Matcher.span c
  if span = 0 then (.error .panic, sink, source)
  else
    match h : SlidingWindow.openOn (.ofSource source span) span (Matcher.bufferSize span) with
    | (.error e, w) => (.error (.io .inputFileRead e), (report sink w).1, w.feed.source)
    | (.ok (), w) =>
      have hw := SlidingWindow.openOn_ok h
      run c (Matcher.start c) (report sink w).1 (report sink w).2 hw

end Scan

end SeedSync
