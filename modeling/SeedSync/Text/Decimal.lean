/-!
Decimal numbers: the shortest digits of a number, and the readings of a run of digits. Writing a
number and reading it gives it back.
-/

namespace SeedSync.Decimal

def digit (d : Nat) : Char := Char.ofNat (48 + d)

def render (n : Nat) : List Char :=
  if n < 10 then [digit n] else render (n / 10) ++ [digit (n % 10)]
termination_by n

def text (n : Nat) : String := String.ofList (render n)

def isDigit (c : Char) : Bool := decide (48 ≤ c.toNat) && decide (c.toNat ≤ 57)

def value (cs : List Char) : Nat := cs.foldl (fun n c => 10 * n + (c.toNat - 48)) 0

def digits? (cs : List Char) : Option Nat :=
  if cs.isEmpty || !cs.all isDigit then none else some (value cs)

/-- A run of digits, perhaps after a plus sign, whose value is below `limit`. -/
def below? (limit : Nat) (cs : List Char) : Option (Fin limit) := do
  let n ← digits? (match cs with | '+' :: r => r | _ => cs)
  if h : n < limit then some ⟨n, h⟩ else none

/-- `n` in decimal, filled with zeros on the left up to `width` digits. -/
def padded (width n : Nat) : String :=
  let cs := render n
  String.ofList (List.replicate (width - cs.length) '0' ++ cs)

theorem toNat_digit {d : Nat} (h : d < 10) : (digit d).toNat = 48 + d := by
  have h10 : ∀ d < 10, (digit d).toNat = 48 + d := by decide
  exact h10 d h

theorem isDigit_digit {d : Nat} (h : d < 10) : isDigit (digit d) = true := by
  simp [isDigit, toNat_digit h]; omega

theorem render_ne_nil (n : Nat) : render n ≠ [] := by
  rw [render]; split <;> simp

theorem all_isDigit_render (n : Nat) : (render n).all isDigit = true := by
  fun_induction render n with
  | case1 n h => simp [isDigit_digit h]
  | case2 n h ih => rw [List.all_append, ih]; simp [isDigit_digit (Nat.mod_lt n (by omega))]

theorem value_append_singleton (cs : List Char) (c : Char) :
    value (cs ++ [c]) = 10 * value cs + (c.toNat - 48) := by
  simp [value, List.foldl_append]

theorem value_render (n : Nat) : value (render n) = n := by
  fun_induction render n with
  | case1 n h => simp [value, toNat_digit h]
  | case2 n h ih =>
    rw [value_append_singleton, ih, toNat_digit (Nat.mod_lt n (by omega))]
    omega

theorem digits?_render (n : Nat) : digits? (render n) = some n := by
  simp [digits?, render_ne_nil, all_isDigit_render, value_render]

end SeedSync.Decimal
