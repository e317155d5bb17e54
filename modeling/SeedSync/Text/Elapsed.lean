import SeedSync.Text.Decimal

/-!
Lengths of time for people to read, from milliseconds.
-/

namespace SeedSync.Elapsed

def text (ms : Nat) : String :=
  let secs := ms / 1000
  let num := Decimal.text
  if 3600 ≤ secs then
    num (secs / 3600) ++ "h " ++ num (secs / 60 % 60) ++ "m " ++ num (secs % 60) ++ "s"
  else if 60 ≤ secs then num (secs / 60) ++ "m " ++ num (secs % 60) ++ "s"
  else if 0 < secs then num secs ++ "." ++ Decimal.padded 3 (ms % 1000) ++ "s"
  else num (ms % 1000) ++ "ms"

end SeedSync.Elapsed
