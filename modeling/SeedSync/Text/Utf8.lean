/-!
Reading UTF-8: strictly, or with U+FFFD in the place of each longest run of bytes that begins a
character and goes wrong.
-/

namespace SeedSync.Utf8

def decode? (bs : List UInt8) : Option String := String.fromUTF8? ⟨bs.toArray⟩

def encode (s : String) : List UInt8 := s.toUTF8.data.toList

/-- A character under way: the intervals that its remaining bytes must lie in, and its bits. -/
structure Pending where
  due : List (UInt8 × UInt8)
  bits : Nat

structure Scan where
  /-- The characters read, newest first. -/
  done : List Char
  pending : Option Pending

def replacement : Char := Char.ofNat 0xFFFD

def tail : UInt8 × UInt8 := (0x80, 0xBF)

/-- What the first byte of a character of several bytes calls for. -/
def lead? (b : UInt8) : Option Pending :=
  if 0xC2 ≤ b ∧ b ≤ 0xDF then some ⟨[tail], b.toNat % 32⟩
  else if b = 0xE0 then some ⟨[(0xA0, 0xBF), tail], 0⟩
  else if b = 0xED then some ⟨[(0x80, 0x9F), tail], 13⟩
  else if 0xE1 ≤ b ∧ b ≤ 0xEF then some ⟨[tail, tail], b.toNat % 16⟩
  else if b = 0xF0 then some ⟨[(0x90, 0xBF), tail, tail], 0⟩
  else if b = 0xF4 then some ⟨[(0x80, 0x8F), tail, tail], 4⟩
  else if 0xF1 ≤ b ∧ b ≤ 0xF3 then some ⟨[tail, tail, tail], b.toNat % 8⟩
  else none

def start (done : List Char) (b : UInt8) : Scan :=
  if b < 0x80 then ⟨Char.ofNat b.toNat :: done, none⟩
  else
    match lead? b with
    | some p => ⟨done, some p⟩
    | none => ⟨replacement :: done, none⟩

def Scan.step (s : Scan) (b : UInt8) : Scan :=
  match s.pending with
  | none => start s.done b
  | some ⟨[], _⟩ => start s.done b
  | some ⟨(lo, hi) :: due, bits⟩ =>
    if lo ≤ b ∧ b ≤ hi then
      let bits := bits * 64 + b.toNat % 64
      if due.isEmpty then ⟨Char.ofNat bits :: s.done, none⟩ else ⟨s.done, some ⟨due, bits⟩⟩
    else start (replacement :: s.done) b

def Scan.finish (s : Scan) : List Char :=
  ((if s.pending.isSome then [replacement] else []) ++ s.done).reverse

def decodeLossy (bs : List UInt8) : List Char := (bs.foldl Scan.step ⟨[], none⟩).finish

end SeedSync.Utf8
