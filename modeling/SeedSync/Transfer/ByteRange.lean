import SeedSync.Text.Cut
import SeedSync.Text.Decimal

/-!
Ranges of bytes, both ends included: their written form, the value of a Content-Range field, and
the Range field that asks for several of them.
-/

namespace SeedSync

structure ByteRange where
  first : Nat
  last : Nat
  deriving DecidableEq, Repr

namespace ByteRange

/-- The number of bytes, counted in 64 bits: none for the range of all places. -/
def length (r : ByteRange) : Nat := (UInt64.ofNat r.last - UInt64.ofNat r.first + 1).toNat

/-- The place behind the last byte, counted in 64 bits. -/
def stop (r : ByteRange) : Nat := (UInt64.ofNat r.last + 1).toNat

def text (r : ByteRange) : String :=
  String.ofList ("bytes ".toList ++ Decimal.render r.first ++ ['-'] ++ Decimal.render r.last ++
    ['/', '*'])

/-- Why a text is no Content-Range. -/
inductive Fault
  | noRange
  | unit
  | noTotal
  | noDash
  | first
  | last
  | order
  deriving DecidableEq, Repr

def Fault.reason : Fault → String
  | .noRange => "missing range"
  | .unit => "unit is not bytes"
  | .noTotal => "missing total length"
  | .noDash => "missing '-'"
  | .first => "invalid first byte position"
  | .last => "invalid last byte position"
  | .order => "first byte position after last"

def Fault.message (value : String) (f : Fault) : String :=
  "Invalid Content-Range '" ++ value ++ "': " ++ f.reason

def bound? (cs : List Char) : Option Nat := (Decimal.digits? cs).filter (· < UInt64.size)

/-- Reads `bytes FIRST-LAST/TOTAL`; the total may be any text. -/
def parseChars (cs : List Char) : Except Fault ByteRange := do
  let some (unit, spec) := Cut.cut? ' ' cs | .error .noRange
  if unit ≠ "bytes".toList then .error .unit
  let some (range, _) := Cut.cut? '/' spec | .error .noTotal
  let some (first, last) := Cut.cut? '-' range | .error .noDash
  let some first := bound? first | .error .first
  let some last := bound? last | .error .last
  if last < first then .error .order
  .ok ⟨first, last⟩

def parse (value : String) : Except Fault ByteRange := parseChars value.toList

def spec (r : ByteRange) : String := Decimal.text r.first ++ "-" ++ Decimal.text r.last

def header (ranges : List ByteRange) : String := "bytes=" ++ ",".intercalate (ranges.map spec)

end ByteRange

end SeedSync
