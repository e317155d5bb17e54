import SeedSync.IoError

/-!
Sinks of bytes as values: what was accepted, and what each of the next writes does.
-/

namespace SeedSync

/-- What one write does. -/
inductive Acceptance
  /-- Accepts at most `n` of the bytes offered. -/
  | takes (n : Nat)
  | interrupted
  /-- Fails, unless the failure is an interruption too. -/
  | fails (e : IoError)
  deriving DecidableEq, Repr

structure Sink where
  accepted : List UInt8
  /-- The next writes; those after them accept all that they are offered. -/
  turns : List Acceptance
  deriving DecidableEq, Repr

namespace Sink

/-- Offers `bytes` and then what is left of them until all are accepted or a write fails. -/
def writeAll (accepted bytes : List UInt8) : List Acceptance → Except IoError Unit × Sink
  | [] => (.ok (), ⟨accepted ++ bytes, []⟩)
  | turn :: turns =>
    if bytes.isEmpty then (.ok (), ⟨accepted, turn :: turns⟩)
    else
      match turn with
      | .interrupted => writeAll accepted bytes turns
      | .fails e =>
        if e.kind = .interrupted then writeAll accepted bytes turns
        else (.error e, ⟨accepted, turns⟩)
      | .takes 0 => (.error .noBytesAccepted, ⟨accepted, turns⟩)
      | .takes n => writeAll (accepted ++ bytes.take n) (bytes.drop n) turns

def write (s : Sink) (bytes : List UInt8) : Except IoError Unit × Sink :=
  writeAll s.accepted bytes s.turns

end Sink

end SeedSync
