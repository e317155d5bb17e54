/-!
Tables of rows in increasing order of a key.
-/

namespace SeedSync.Table

/-- The last of the rows from `lo` up to, but not with, `hi` whose key is at most `n`. -/
def floorWithin {α : Type} (rows : Array α) (key : α → Nat) (n lo hi : Nat) : Option α :=
  if _h : lo < hi then
    let mid := (lo + hi) / 2
    match rows[mid]? with
    | none => none
    | some row =>
      if key row ≤ n then (floorWithin rows key n (mid + 1) hi).or (some row)
      else floorWithin rows key n lo mid
  else none
termination_by hi - lo

/-- The last row whose key is at most `n`. -/
def floor? {α : Type} (rows : Array α) (key : α → Nat) (n : Nat) : Option α :=
  floorWithin rows key n 0 rows.size

/-- Whether one of the closed intervals, in increasing order, holds `n`. -/
def covers (intervals : Array (Nat × Nat)) (n : Nat) : Bool :=
  (floor? intervals Prod.fst n).any fun (_, last) => n ≤ last

end SeedSync.Table
