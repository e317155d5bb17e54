/-!
Blank characters, those with the Unicode property White_Space, and trimming them off the ends of
a text.
-/

namespace SeedSync.Blank

/-- White_Space, as closed intervals of code points. -/
def intervals : List (Nat × Nat) :=
  [(0x9, 0xD), (0x20, 0x20), (0x85, 0x85), (0xA0, 0xA0), (0x1680, 0x1680), (0x2000, 0x200A),
    (0x2028, 0x2029), (0x202F, 0x202F), (0x205F, 0x205F), (0x3000, 0x3000)]

def isBlank (c : Char) : Bool :=
  intervals.any fun (lo, hi) => decide (lo ≤ c.toNat) && decide (c.toNat ≤ hi)

def trimStart (cs : List Char) : List Char := cs.dropWhile isBlank

def dropTrailing (p : Char → Bool) (cs : List Char) : List Char := (cs.reverse.dropWhile p).reverse

def trimEnd (cs : List Char) : List Char := dropTrailing isBlank cs

def trim (cs : List Char) : List Char := trimEnd (trimStart cs)

/-- The first word, empty if the text has none. -/
def firstWord (cs : List Char) : List Char := (trimStart cs).takeWhile fun c => !isBlank c

end SeedSync.Blank
