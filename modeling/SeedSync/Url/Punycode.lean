import SeedSync.Text.Cut

/-!
Punycode: the letters, digits and hyphens that stand for a label with other characters in it.
-/

namespace SeedSync.Punycode

def digit (d : Nat) : Char := if d < 26 then Char.ofNat (97 + d) else Char.ofNat (22 + d)

def threshold (k bias : Nat) : Nat := min 26 (max 1 (k - bias))

def adaptLoop (delta k : Nat) : Nat × Nat :=
  if 455 < delta then adaptLoop (delta / 35) (k + 36) else (delta, k)
termination_by delta
decreasing_by exact Nat.div_lt_self (by omega) (by omega)

def adapt (delta points : Nat) (first : Bool) : Nat :=
  let d := if first then delta / 700 else delta / 2
  let (d, k) := adaptLoop (d + d / points) 0
  k + 36 * d / (d + 38)

/-- A difference in digits of falling weight. -/
def digits (q k bias : Nat) : List Char :=
  let t := threshold k bias
  if q < t then [digit q]
  else digit (t + (q - t) % (36 - t)) :: digits ((q - t) / (36 - t)) (k + 36) bias
termination_by q
decreasing_by
  have : 1 ≤ threshold k bias := by simp only [threshold]; omega
  exact Nat.lt_of_le_of_lt (Nat.div_le_self _ _) (by omega)

structure State where
  /-- All smaller code points are written. -/
  next : Nat
  delta : Nat
  bias : Nat
  handled : Nat
  out : List Char

/-- Writes the places of the code point `n` among those that are not larger. -/
def insert (n basic : Nat) (s : State) (c : Nat) : State :=
  if c < n then { s with delta := s.delta + 1 }
  else if c = n then
    { s with
      bias := adapt s.delta (s.handled + 1) (s.handled == basic)
      delta := 0
      handled := s.handled + 1
      out := s.out ++ digits s.delta 36 s.bias }
  else s

def insertAll (label : List Nat) (basic : Nat) : State → List Nat → State
  | s, [] => s
  | s, n :: rest =>
    let s := { s with delta := s.delta + (n - s.next) * (s.handled + 1), next := n }
    let s := label.foldl (insert n basic) s
    insertAll label basic { s with delta := s.delta + 1, next := n + 1 } rest

def encode (label : List Char) : List Char :=
  let basic := label.filter fun c => c.toNat < 128
  let points := label.map Char.toNat
  let others := ((points.filter (128 ≤ ·)).mergeSort (· ≤ ·)).eraseReps
  let start := if basic.isEmpty then [] else basic ++ ['-']
  (insertAll points basic.length ⟨128, 0, 72, basic.length, start⟩ others).out

/-! ### Reading -/

def digitValue? (c : Char) : Option Nat :=
  if 'a' ≤ c ∧ c ≤ 'z' then some (c.toNat - 97)
  else if '0' ≤ c ∧ c ≤ '9' then some (c.toNat - 22)
  else none

/-- A difference whose next digit weighs `weight`, and the text behind it. A weight has at most 32
bits. -/
def difference? (bias weight k : Nat) : List Char → Option (Nat × List Char)
  | [] => none
  | c :: cs => do
    if UInt32.size ≤ weight then none
    let d ← digitValue? c
    let t := threshold k bias
    if d < t then return (d * weight, cs)
    let (n, rest) ← difference? bias (weight * (36 - t)) (k + 36) cs
    return (d * weight + n, rest)

/-- Puts one code point after the other in its place; `fuel` bounds their number. The next one is
at least `next`, and if it is `next`, it lies at `place` or behind. -/
def insertCoded (fuel next place bias : Nat) (done : List Char) (cs : List Char) :
    Option (List Char) :=
  match fuel, cs with
  | _, [] => some done
  | 0, _ => none
  | fuel + 1, cs => do
    let (delta, rest) ← difference? bias 1 36 cs
    let points := done.length + 1
    let next := next + (place + delta) / points
    let spot := (place + delta) % points
    if !next.isValidChar then none
    insertCoded fuel next (spot + 1) (adapt delta points (place == 0))
      (done.take spot ++ Char.ofNat next :: done.drop spot) rest

def decode? (code : List Char) : Option (List Char) :=
  let coded := Cut.lastPiece (· == '-') code
  let basic := code.take (code.length - coded.length - 1)
  if basic.isEmpty then insertCoded code.length 128 0 72 [] code
  else insertCoded coded.length 128 0 72 basic coded

end SeedSync.Punycode
