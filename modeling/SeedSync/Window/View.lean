import SeedSync.Stream.Sink

/-!
A view of consecutive bytes of an array, which the matchers and the output under assembly read
from without copying.
-/

namespace SeedSync

structure View where
  buf : Array UInt8
  start : Nat
  size : Nat

namespace View

def ofList (bs : List UInt8) : View := ⟨bs.toArray, 0, bs.length⟩

/-- How many bytes there are. A view that runs past the end of its array ends there. -/
def length (v : View) : Nat := min v.size (v.buf.size - v.start)

def toList (v : View) : List UInt8 := (v.buf.extract v.start (v.start + v.size)).toList

def get? (v : View) (i : Nat) : Option UInt8 :=
  if i < v.size then v.buf[v.start + i]? else none

/-- Byte `i`, and zero outside of the view. -/
def byte (v : View) (i : Nat) : UInt8 := (v.get? i).getD 0

def part (v : View) (offset length : Nat) : List UInt8 :=
  (v.buf.extract (v.start + offset) (v.start + min (offset + length) v.size)).toList

/-- Exactly `length` bytes from `offset` on. -/
def slice (v : View) (offset length : Nat) : Except IoError (List UInt8) :=
  if offset + length ≤ v.length then .ok (v.part offset length)
  else .error (.outsideWindow offset length v.length)

/-- Writes `length` bytes from `offset` on to a sink. -/
def writeTo (v : View) (sink : Sink) (offset length : Nat) : Except IoError Unit × Sink :=
  match v.slice offset length with
  | .error e => (.error e, sink)
  | .ok bytes => sink.write bytes

end View

end SeedSync
