import SeedSync.Text.Quoted

/-!
Bytes written as pairs of hexadecimal digits, high half first and in lower case. Reading takes
both cases and names the first thing that is wrong.
-/

namespace SeedSync.Hex

inductive Fault
  | oddLength
  | badDigit (byte : UInt8) (position : Nat)
  deriving DecidableEq, Repr

/-- A bad digit is shown as the Latin-1 character of its byte. -/
def Fault.message : Fault → String
  | .oddLength => "Odd number of digits"
  | .badDigit b p =>
    "Invalid character " ++ Quoted.char (Char.ofNat b.toNat) ++ " at position " ++ toString p

def digit (n : UInt8) : UInt8 := if n < 10 then 48 + n else 87 + n

def encodeByte (b : UInt8) : List UInt8 := [digit (b >>> 4), digit (b &&& 15)]

def encode (bs : List UInt8) : String :=
  String.ofList ((bs.flatMap encodeByte).map fun b => Char.ofNat b.toNat)

def value? (b : UInt8) : Option UInt8 :=
  if 48 ≤ b ∧ b ≤ 57 then some (b - 48)
  else if 97 ≤ b ∧ b ≤ 102 then some (b - 87)
  else if 65 ≤ b ∧ b ≤ 70 then some (b - 55)
  else none

/-- Reads the pairs of `bs`, the first of them at `position`, behind the bytes `done`. -/
def decodePairs (position : Nat) (done : Array UInt8) : List UInt8 → Except Fault (Array UInt8)
  | hi :: lo :: rest =>
    match value? hi, value? lo with
    | some h, some l => decodePairs (position + 2) (done.push (h <<< 4 ||| l)) rest
    | none, _ => .error (.badDigit hi position)
    | some _, none => .error (.badDigit lo (position + 1))
  | _ => .ok done

def decode (bs : List UInt8) : Except Fault (List UInt8) :=
  if bs.length % 2 = 1 then .error .oddLength
  else (decodePairs 0 #[] bs).map Array.toList

end SeedSync.Hex
