import SeedSync.Text.Decimal

/-!
JSON on one line, without blanks, with members in the order given.
-/

namespace SeedSync

/-- The JSON that events and statistics are written in. -/
inductive JsonText
  | null
  | num (n : Nat)
  | str (s : String)
  | arr (items : List JsonText)
  | obj (members : List (String × JsonText))

namespace JsonText

def hexDigit (n : Nat) : Char := (Nat.toDigits 16 (n % 16)).headD '0'

/-- Quotes, backslashes and controls are escaped; all else stands for itself. -/
def escape (c : Char) : List Char :=
  if c = '"' then ['\\', '"']
  else if c = '\\' then ['\\', '\\']
  else if c = '\n' then ['\\', 'n']
  else if c = '\r' then ['\\', 'r']
  else if c = '\t' then ['\\', 't']
  else if c = '\x08' then ['\\', 'b']
  else if c = '\x0c' then ['\\', 'f']
  else if c.toNat < 32 then ['\\', 'u', '0', '0', hexDigit (c.toNat / 16), hexDigit c.toNat]
  else [c]

def quote (s : String) : String := String.ofList (['"'] ++ s.toList.flatMap escape ++ ['"'])

mutual

def render : JsonText → String
  | .null => "null"
  | .num n => Decimal.text n
  | .str s => quote s
  | .arr items => "[" ++ ",".intercalate (renderItems items) ++ "]"
  | .obj members => "\x7b" ++ ",".intercalate (renderMembers members) ++ "\x7d"

def renderItems : List JsonText → List String
  | [] => []
  | v :: vs => render v :: renderItems vs

def renderMembers : List (String × JsonText) → List String
  | [] => []
  | (k, v) :: ms => (quote k ++ ":" ++ render v) :: renderMembers ms

end

def ofOption : Option Nat → JsonText
  | none => .null
  | some n => .num n

end JsonText

end SeedSync
