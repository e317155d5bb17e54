import SeedSync.Error
import SeedSync.Event.Basic
import SeedSync.Transfer.Body

/-!
Where the ranges of a remote file go. A receiver reads the body of each range, and it keeps the
record of what the transfer reports.
-/

namespace SeedSync

class RangeReceiver (ρ : Type) where
  /-- Reads the body of a range. -/
  receive : ρ → ByteRange → Body → Except Error Unit × ρ × Body
  /-- Takes note of an event of the transfer. -/
  note : ρ → Event → ρ

/-- What a listener hears of the reads of a body. -/
def Body.events (b : Body) (p : Pulled) : List Event :=
  if b.observed then p.reads.map .bytesDownloaded else []

end SeedSync
