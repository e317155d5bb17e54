import SeedSync.Digest.Intake

/-!
SHA-1: eighty steps on five words, big-endian.
-/

namespace SeedSync.Sha1

open Digest

structure Chain where
  a : UInt32
  b : UInt32
  c : UInt32
  d : UInt32
  e : UInt32

/-- The message schedule: each word after the sixteenth comes from four before it. -/
def extend (ws : Array UInt32) (i : Nat) : Array UInt32 :=
  ws.push (rotateLeft
    (ws.getD (i - 3) 0 ^^^ ws.getD (i - 8) 0 ^^^ ws.getD (i - 14) 0 ^^^ ws.getD (i - 16) 0) 1)

def mix (t : Nat) (x y z : UInt32) : UInt32 :=
  if t < 20 then ((x &&& y) ||| (~~~x &&& z)) + 0x5a827999
  else if t < 40 then (x ^^^ y ^^^ z) + 0x6ed9eba1
  else if t < 60 then ((x &&& y) ||| (x &&& z) ||| (y &&& z)) + 0x8f1bbcdc
  else (x ^^^ y ^^^ z) + 0xca62c1d6

def step (ws : Array UInt32) (s : Chain) (t : Nat) : Chain :=
  ⟨rotateLeft s.a 5 + mix t s.b s.c s.d + s.e + ws.getD t 0, s.a, rotateLeft s.b 30, s.c, s.d⟩

def compress (s : Chain) (block : Array UInt32) : Chain :=
  let ws := (List.range' 16 64).foldl extend block
  let r := (List.range 80).foldl (step ws) s
  ⟨s.a + r.a, s.b + r.b, s.c + r.c, s.d + r.d, s.e + r.e⟩

def scheme : Scheme Chain where
  start := ⟨0x67452301, 0xefcdab89, 0x98badcfe, 0x10325476, 0xc3d2e1f0⟩
  join w b := w <<< 8 ||| b.toUInt32
  compress := compress
  lengthBytes n := bigEndian (n >>> 32).toUInt32 ++ bigEndian n.toUInt32

def hash (message : List UInt8) : Vector UInt8 20 :=
  let s := scheme.run message
  let bytes := bigEndian s.a ++ bigEndian s.b ++ bigEndian s.c ++ bigEndian s.d ++ bigEndian s.e
  Vector.ofFn fun i => bytes.getD i.val 0

end SeedSync.Sha1
