import Std.Data.HashSet
import SeedSync.Control.Header
import SeedSync.Sum.Block

/-!
Control files: a header and the sums of the target's blocks. The rolling sums, and the pairs of
them that stand side by side, are kept for quick lookup.
-/

namespace SeedSync

structure ControlFile where
  header : Header
  sums : Array BlockSum
  rollings : Std.HashSet UInt32
  pairs : Std.HashSet UInt64

namespace ControlFile

/-- Two adjacent rolling sums in one number. -/
def pairKey (current next : UInt32) : UInt64 := current.toUInt64 <<< 32 ||| next.toUInt64

def pairKeys (sums : List BlockSum) : List UInt64 :=
  (sums.zip sums.tail).map fun (x, y) => pairKey x.rolling y.rolling

/-- A control file with one sum for each block of the target. -/
def assemble (header : Header) (sums : List BlockSum) : Except ControlFault ControlFile :=
  if sums.length ≠ header.numBlocks then
    .error (.sumCount header.numBlocks header.length sums.length)
  else
    .ok {
      header
      sums := sums.toArray
      rollings := Std.HashSet.ofList (sums.map BlockSum.rolling)
      pairs := Std.HashSet.ofList (if header.hashLengths.sequence > 1 then pairKeys sums else []) }

def numBlocks (c : ControlFile) : Nat := c.sums.size

def hasRolling (c : ControlFile) (x : UInt32) : Bool := c.rollings.contains x

/-- Whether two adjacent blocks have these rolling sums. -/
def hasPair (c : ControlFile) (x y : UInt32) : Bool := c.pairs.contains (pairKey x y)

/-! ### The block table -/

def bigEndian (bs : List UInt8) : UInt32 := bs.foldl (fun n b => n <<< 8 ||| b.toUInt32) 0

def decodeEntry (h : HashLengths) (entry : List UInt8) : BlockSum :=
  ⟨bigEndian (entry.take h.rolling), .ofList ((entry.drop h.rolling).take h.strong)⟩

/-- The low `width` bytes of a number, high end first. -/
def bigEndianBytes (width : Nat) (n : UInt32) : List UInt8 :=
  ((List.range width).map fun i => (n >>> UInt32.ofNat (8 * i)).toUInt8).reverse

def encodeEntry (h : HashLengths) (s : BlockSum) : List UInt8 :=
  bigEndianBytes h.rolling s.rolling ++ s.strong.toList.take h.strong

/-- Reads `todo` entries behind the sums already read. -/
def readSums (h : Header) (todo : Nat) (done : Array BlockSum) (b : Buffered) :
    Except Error (List BlockSum) × Buffered :=
  match todo with
  | 0 => (.ok done.toList, b)
  | todo + 1 =>
    match b.readExactly h.entrySize with
    | (.error e, b) =>
      if e.kind = .unexpectedEnd then
        (.error (.control (.truncatedTable done.size (done.size + todo + 1))), b)
      else (.error (.io .controlFileRead e), b)
    | (.ok entry, b) => readSums h todo (done.push (decodeEntry h.hashLengths entry)) b

def read (b : Buffered) : Except Error ControlFile × Buffered :=
  match Header.read b with
  | (.error e, b) => (.error e, b)
  | (.ok header, b) =>
    match readSums header header.numBlocks #[] b with
    | (.error e, b) => (.error e, b)
    | (.ok sums, b) =>
      match assemble header sums with
      | .error fault => (.error (.control fault), b)
      | .ok c => (.ok c, b)

end ControlFile

end SeedSync
