import SeedSync.Text.Decimal

/-!
Sizes for people to read: whole bytes below 1024, else two decimals of the largest fitting power
of 1024. The quotient is one of doubles, so a size is first rounded to 53 significant bits.
-/

namespace SeedSync.ByteSize

/-- `n / d` to the nearest whole number, a tie to the even one. -/
def roundDiv (n d : Nat) : Nat :=
  let q := n / d
  let r := n % d
  if 2 * r < d then q else if d < 2 * r then q + 1 else if q % 2 = 0 then q else q + 1

/-- The nearest number with at most 53 significant bits. -/
def toDouble (n : Nat) : Nat :=
  let scale := 1 <<< (n.log2 - 52)
  roundDiv n scale * scale

def scaled (n unit : Nat) (name : String) : String :=
  let hundredths := roundDiv (toDouble n * 100) unit
  Decimal.text (hundredths / 100) ++ "." ++ Decimal.padded 2 (hundredths % 100) ++ name

def text (n : Nat) : String :=
  if 1 <<< 40 ≤ n then scaled n (1 <<< 40) " TB"
  else if 1 <<< 30 ≤ n then scaled n (1 <<< 30) " GB"
  else if 1 <<< 20 ≤ n then scaled n (1 <<< 20) " MB"
  else if 1024 ≤ n then scaled n 1024 " KB"
  else Decimal.text n ++ " B"

end SeedSync.ByteSize
