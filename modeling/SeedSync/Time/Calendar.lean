/-!
The proleptic Gregorian calendar, counted in days from 1 January 1970.
-/

namespace SeedSync

/-- A moment: whole seconds from the start of 1970, and nanoseconds after that. A leap second is
the second before it with at least 10^9 nanoseconds. -/
structure Instant where
  seconds : Int
  nanos : Nat
  deriving DecidableEq, Repr

namespace Calendar

def isLeap (year : Int) : Bool := year % 4 = 0 ∧ (year % 100 ≠ 0 ∨ year % 400 = 0)

def daysInMonth (year : Int) (month : Nat) : Nat :=
  if month = 2 then (if isLeap year then 29 else 28)
  else if month = 4 ∨ month = 6 ∨ month = 9 ∨ month = 11 then 30
  else 31

/-- Days before the first of `month` in a year. -/
def daysBefore (year : Int) (month : Nat) : Nat :=
  ((List.range' 1 (month - 1)).map (daysInMonth year)).foldr (· + ·) 0

/-- Days from 1 January 1970 to 1 January of `year`. -/
def yearStart (year : Int) : Int :=
  let y := year - 1
  365 * y + y / 4 - y / 100 + y / 400 - 719162

def dayNumber (year : Int) (month day : Nat) : Int :=
  yearStart year + daysBefore year month + (day - 1 : Nat)

/-- The day of the week, Monday being 0. -/
def weekday (dayNumber : Int) : Nat := ((dayNumber + 3) % 7).toNat

end Calendar

end SeedSync
