import SeedSync.Text.Blank
import SeedSync.Text.Cut
import SeedSync.Text.Decimal
import SeedSync.Time.Calendar

/-!
Dates as in the headers of mail: `Fri, 01 Mar 2019 10:00:00 +0100`, with names in any case, an
optional day of the week, which has to agree, and trailing comments in parentheses.
-/

namespace SeedSync.MailDate

open Blank

def weekdays : List String := ["mon", "tue", "wed", "thu", "fri", "sat", "sun"]

def months : List String :=
  ["jan", "feb", "mar", "apr", "may", "jun", "jul", "aug", "sep", "oct", "nov", "dec"]

/-- The index of the name that the first three characters make, and what follows. -/
def name? (names : List String) (cs : List Char) : Option (Nat × List Char) := do
  let i ← names.findIdx? fun n => Cut.sameFolded n.toList (cs.take 3)
  return (i, cs.drop 3)

def blanks? (cs : List Char) : Option (List Char) :=
  match cs with
  | c :: _ => if isBlank c then some (trimStart cs) else none
  | [] => none

/-- At least `least` and at most `most` digits: their number, their value and what follows. -/
def number? (least most : Nat) (cs : List Char) : Option (Nat × Nat × List Char) :=
  let ds := (cs.take most).takeWhile Decimal.isDigit
  if ds.length < least then none else some (ds.length, Decimal.value ds, cs.drop ds.length)

def char? (c : Char) (cs : List Char) : Option (List Char) :=
  match cs with
  | d :: r => if d = c then some r else none
  | [] => none

/-- An optional day of the week with its comma. -/
def weekday? (cs : List Char) : Option (Option Nat × List Char) :=
  match name? weekdays cs with
  | none => some (none, cs)
  | some (i, r) => do return (some i, ← char? ',' r)

/-- Years of two digits lie between 1950 and 2049; those of three count from 1900. -/
def fullYear (digits value : Nat) : Nat :=
  if digits = 2 then (if value < 50 then 2000 + value else 1900 + value)
  else if digits = 3 then 1900 + value
  else value

def zoneHours : List (String × Int) :=
  [("gmt", 0), ("ut", 0), ("z", 0), ("edt", -4), ("est", -5), ("cdt", -5), ("cst", -6), ("mdt", -6),
    ("mst", -7), ("pdt", -7), ("pst", -8)]

/-- The offset in seconds of a zone given by letters; single ones but `j` are all zero. -/
def namedZone? (letters : List Char) : Option Int :=
  match zoneHours.find? fun z => Cut.sameFolded z.1.toList letters with
  | some (_, h) => some (h * 3600)
  | none =>
    match letters with
    | [c] => if c = 'j' ∨ c = 'J' then none else some 0
    | _ => none

/-- The offset of a zone given as `+hhmm` or `-hhmm`, below a day. -/
def numericZone? (cs : List Char) : Option (Int × List Char) := do
  let (sign, r) ← match cs with
    | '+' :: r => some (1, r)
    | '-' :: r => some (-1, r)
    | _ => none
  let (_, hours, r) ← number? 2 2 r
  let (_, minutes, r) ← number? 2 2 r
  if 60 ≤ minutes ∨ 24 ≤ hours then none
  return (sign * ((hours * 60 + minutes) * 60 : Nat), r)

def zone? (cs : List Char) : Option (Int × List Char) :=
  let letters := cs.takeWhile Char.isAlpha
  if letters.isEmpty then numericZone? cs
  else do return (← namedZone? letters, cs.drop letters.length)

/-- What follows a comment that is open `depth` deep. A backslash takes the next character for
itself. -/
def commentRest? (depth : Nat) : List Char → Option (List Char)
  | [] => none
  | '\\' :: _ :: r => commentRest? depth r
  | '(' :: r => commentRest? (depth + 1) r
  | ')' :: r => if depth ≤ 1 then some r else commentRest? (depth - 1) r
  | _ :: r => commentRest? depth r

/-- Whether only comments follow, each perhaps behind blanks. -/
def onlyComments (fuel : Nat) (cs : List Char) : Bool :=
  match fuel, cs with
  | _, [] => true
  | 0, _ => false
  | fuel + 1, cs =>
    match trimStart cs with
    | '(' :: r =>
      match commentRest? 1 r with
      | some r => onlyComments fuel r
      | none => false
    | _ => false

def clock? (cs : List Char) : Option (Nat × Nat × Nat × List Char) := do
  let (_, hour, r) ← number? 2 2 cs
  let r ← char? ':' (trimStart r)
  let (_, minute, r) ← number? 2 2 (trimStart r)
  let (second, r) ← match char? ':' (trimStart r) with
    | some s => do
      let (_, second, s) ← number? 2 2 s
      pure (second, s)
    | none => pure (0, r)
  if 24 ≤ hour ∨ 60 ≤ minute ∨ 60 < second then none
  return (hour, minute, second, r)

/-- The years that a date may lie in reach up to 262142. -/
def lastDay : Int := Calendar.dayNumber 262142 12 31

def parse? (cs : List Char) : Option Instant := do
  let (weekday, r) ← weekday? (trimStart cs)
  let (_, day, r) ← number? 1 2 (trimStart r)
  let (month, r) ← name? months (← blanks? r)
  let (digits, value, r) ← number? 2 r.length (← blanks? r)
  let (hour, minute, second, r) ← clock? (← blanks? r)
  let (offset, r) ← zone? (← blanks? r)
  if !onlyComments r.length r then none
  let year := fullYear digits value
  if 262142 < year ∨ day = 0 ∨ Calendar.daysInMonth year (month + 1) < day then none
  let days := Calendar.dayNumber year (month + 1) day
  if weekday.any (· ≠ Calendar.weekday days) then none
  let whole := if second = 60 then 59 else second
  let seconds := days * 86400 + (hour * 3600 + minute * 60 + whole : Nat) - offset
  if (lastDay + 1) * 86400 ≤ seconds then none
  return ⟨seconds, if second = 60 then 1000000000 else 0⟩

end SeedSync.MailDate
