/-!
Base64 with the standard alphabet and padding.
-/

namespace SeedSync.Base64

def alphabet : List Char :=
  "ABCDEFGHIJKLMNOPQRSTUVWXYZabcdefghijklmnopqrstuvwxyz0123456789+/".toList

def digit (n : Nat) : Char := alphabet.getD (n % 64) 'A'

def encode : List UInt8 → List Char
  | [] => []
  | [a] =>
    let n := a.toNat <<< 4
    [digit (n >>> 6), digit n, '=', '=']
  | [a, b] =>
    let n := (a.toNat <<< 8 + b.toNat) <<< 2
    [digit (n >>> 12), digit (n >>> 6), digit n, '=']
  | a :: b :: c :: rest =>
    let n := (a.toNat <<< 8 + b.toNat) <<< 8 + c.toNat
    digit (n >>> 18) :: digit (n >>> 12) :: digit (n >>> 6) :: digit n :: encode rest

def value? (c : Char) : Option Nat := alphabet.findIdx? (· == c)

/-- Reads the padded form. -/
def decode? : List Char → Option (List UInt8)
  | [] => some []
  | [a, b, '=', '='] => do
    let n := (← value? a) <<< 6 + (← value? b)
    if n % 16 = 0 then some [UInt8.ofNat (n >>> 4)] else none
  | [a, b, c, '='] => do
    let n := ((← value? a) <<< 6 + (← value? b)) <<< 6 + (← value? c)
    if n % 4 = 0 then some [UInt8.ofNat (n >>> 10), UInt8.ofNat (n >>> 2)] else none
  | a :: b :: c :: d :: rest => do
    let n := (((← value? a) <<< 6 + (← value? b)) <<< 6 + (← value? c)) <<< 6 + (← value? d)
    let tail ← decode? rest
    some (UInt8.ofNat (n >>> 16) :: UInt8.ofNat (n >>> 8) :: UInt8.ofNat n :: tail)
  | _ => none

end SeedSync.Base64
