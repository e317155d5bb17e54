import SeedSync.Digest.Intake

/-!
MD4: three rounds of sixteen steps on four words, little-endian.
-/

namespace SeedSync.Md4

open Digest

structure Chain where
  a : UInt32
  b : UInt32
  c : UInt32
  d : UInt32

/-- One step; it rotates the roles of the words, so that four of them bring each back. -/
def step (mix : UInt32 → UInt32 → UInt32 → UInt32) (constant : UInt32) (block : Array UInt32)
    (s : Chain) (use : Nat × UInt32) : Chain :=
  let t := s.a + mix s.b s.c s.d + block.getD use.1 0 + constant
  ⟨s.d, rotateLeft t use.2, s.b, s.c⟩

def steps (order : List Nat) (shifts : List UInt32) : List (Nat × UInt32) :=
  order.zip (shifts ++ shifts ++ shifts ++ shifts)

def round1 : List (Nat × UInt32) := steps (List.range 16) [3, 7, 11, 19]
def round2 : List (Nat × UInt32) :=
  steps [0, 4, 8, 12, 1, 5, 9, 13, 2, 6, 10, 14, 3, 7, 11, 15] [3, 5, 9, 13]
def round3 : List (Nat × UInt32) :=
  steps [0, 8, 4, 12, 2, 10, 6, 14, 1, 9, 5, 13, 3, 11, 7, 15] [3, 9, 11, 15]

def compress (s : Chain) (block : Array UInt32) : Chain :=
  let s1 := round1.foldl (step (fun x y z => (x &&& y) ||| (~~~x &&& z)) 0 block) s
  let s2 := round2.foldl
    (step (fun x y z => (x &&& y) ||| (x &&& z) ||| (y &&& z)) 0x5a827999 block) s1
  let s3 := round3.foldl (step (fun x y z => x ^^^ y ^^^ z) 0x6ed9eba1 block) s2
  ⟨s.a + s3.a, s.b + s3.b, s.c + s3.c, s.d + s3.d⟩

def scheme : Scheme Chain where
  start := ⟨0x67452301, 0xefcdab89, 0x98badcfe, 0x10325476⟩
  join w b := w >>> 8 ||| b.toUInt32 <<< 24
  compress := compress
  lengthBytes n := littleEndian n.toUInt32 ++ littleEndian (n >>> 32).toUInt32

def hash (message : List UInt8) : Vector UInt8 16 :=
  let s := scheme.run message
  let bytes := littleEndian s.a ++ littleEndian s.b ++ littleEndian s.c ++ littleEndian s.d
  Vector.ofFn fun i => bytes.getD i.val 0

end SeedSync.Md4
