import SeedSync.Text.Printable

/-!
Texts and characters in quotes, with everything that would not show escaped.
-/

namespace SeedSync.Quoted

def hexDigits (n : Nat) : List Char := Nat.toDigits 16 n

/-- The written form of a character between quotes `q`. -/
def escape (q c : Char) : List Char :=
  if c = '\x00' then ['\\', '0']
  else if c = '\t' then ['\\', 't']
  else if c = '\r' then ['\\', 'r']
  else if c = '\n' then ['\\', 'n']
  else if c = '\\' ∨ c = q then ['\\', c]
  else if Printable.isPrintable c then [c]
  else ['\\', 'u', '\x7b'] ++ hexDigits c.toNat ++ ['\x7d']

def char (c : Char) : String := String.ofList (['\''] ++ escape '\'' c ++ ['\''])

def string (s : String) : String := String.ofList (['"'] ++ s.toList.flatMap (escape '"') ++ ['"'])

end SeedSync.Quoted
