import SeedSync.Text.Hex
import SeedSync.Text.Utf8

/-!
Percent-encoding: bytes that a part of a URL cannot hold are written as a percent sign and two
digits. Each part of a URL has its own set of such bytes.
-/

namespace SeedSync.Percent

def isControl (c : Char) : Bool := c.toNat < 0x20 || 0x7E < c.toNat

def inFragment (c : Char) : Bool := isControl c || " \"<>`".toList.contains c
def inQuery (c : Char) : Bool := isControl c || " \"#<>".toList.contains c
def inSpecialQuery (c : Char) : Bool := inQuery c || c == '\''
def inPath (c : Char) : Bool := inFragment c || "#?\x7b\x7d".toList.contains c
def inUserinfo (c : Char) : Bool := inPath c || "/:;=@[\\]^|".toList.contains c

def upperDigit (n : Nat) : Char := if n < 10 then Char.ofNat (48 + n) else Char.ofNat (55 + n)

def encodeByte (b : UInt8) : List Char :=
  ['%', upperDigit (b.toNat / 16), upperDigit (b.toNat % 16)]

def encode (escaped : Char → Bool) (cs : List Char) : List Char :=
  cs.flatMap fun c =>
    if escaped c then (Utf8.encode (String.singleton c)).flatMap encodeByte else [c]

/-- A percent sign without two digits behind it stands for itself. -/
def decode : List UInt8 → List UInt8
  | 37 :: h :: l :: rest =>
    match Hex.value? h, Hex.value? l with
    | some x, some y => (x <<< 4 ||| y) :: decode rest
    | _, _ => 37 :: decode (h :: l :: rest)
  | b :: rest => b :: decode rest
  | [] => []

def decodeText (cs : List Char) : List Char :=
  Utf8.decodeLossy (decode (Utf8.encode (String.ofList cs)))

end SeedSync.Percent
