import SeedSync.Transfer.Multipart

/-!
The body of a range as its receiver reads it: a whole response, a stretch of one, or a part of a
multipart body.
-/

namespace SeedSync

/-- Where a body ends. -/
inductive Bound
  /-- With the bytes of its reader. -/
  | whole
  /-- After `n` bytes, or with the bytes of its reader. -/
  | upTo (n : Nat)
  /-- After `n` bytes; fewer are a failure. -/
  | exactly (n : Nat)
  deriving DecidableEq, Repr

structure Body where
  reader : Buffered
  bound : Bound
  /-- Whether someone listens for the bytes transferred. -/
  observed : Bool

namespace Body

/-- The whole of a source, read without a buffer. -/
def ofSource (source : Source) (observed : Bool) : Body :=
  ⟨.ofSource 0 source, .whole, observed⟩

/-- At most `n` bytes, by a read of the reader. -/
def readBy (read : Buffered → Nat → Except IoError (List UInt8) × Buffered) (b : Body) (n : Nat) :
    Except IoError (List UInt8) × Body :=
  match b.bound with
  | .whole =>
    let (r, reader) := read b.reader n
    (r, { b with reader })
  | .upTo 0 => (.ok [], b)
  | .exactly 0 => (.ok [], b)
  | .upTo k =>
    match read b.reader (min n k) with
    | (.error e, reader) => (.error e, { b with reader })
    | (.ok bs, reader) => (.ok bs, { b with reader, bound := .upTo (k - bs.length) })
  | .exactly k =>
    match read b.reader (min n k) with
    | (.error e, reader) => (.error e, { b with reader })
    | (.ok [], reader) => (.error (.partEndedEarly k), { b with reader })
    | (.ok bs, reader) => (.ok bs, { b with reader, bound := .exactly (k - bs.length) })

def read (b : Body) (n : Nat) : Except IoError (List UInt8) × Body := b.readBy Buffered.read n

/-- Reads until a read is not interrupted. -/
def readOn (b : Body) (n : Nat) : Except IoError (List UInt8) × Body := b.readBy Buffered.readOn n

/-- Reads until `n` bytes are there, the body ends, or a read fails. -/
def gather (n : Nat) (got : Array UInt8) (reads : Array Nat) (b : Body) : Pulled × Body :=
  if n = 0 then (⟨got.toList, reads.toList, none⟩, b)
  else
    match b.readOn n with
    | (.error e, b) => (⟨got.toList, reads.toList, some e⟩, b)
    | (.ok bs, b) =>
      if _h : bs = [] then (⟨got.toList, reads.toList, none⟩, b)
      else gather (n - bs.length) (got ++ bs) (reads.push bs.length) b
termination_by n
decreasing_by
  have : bs.length ≠ 0 := by simpa using _h
  omega

def readUpTo (n : Nat) (b : Body) : Pulled × Body := b.gather n #[] #[]

end Body

namespace Multipart

def body (m : Multipart) (observed : Bool) : Body := ⟨m.reader, .exactly m.remaining, observed⟩

/-- Goes on where the reader of the current part left off. -/
def resume (m : Multipart) (b : Body) : Multipart :=
  { m with
    reader := b.reader
    remaining := match b.bound with
      | .exactly k => k
      | _ => 0 }

end Multipart

end SeedSync
