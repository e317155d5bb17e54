import SeedSync.Text.Cut
import SeedSync.Text.Decimal
import SeedSync.Text.Mark
import SeedSync.Url.Direction
import SeedSync.Url.Folding
import SeedSync.Url.Joining
import SeedSync.Url.Percent
import SeedSync.Url.Punycode

/-!
The host of a URL: a name in lower case, an address of four or of sixteen bytes in one of its many
spellings, or, where the scheme gives hosts no meaning, any text.
-/

namespace SeedSync.Host

/-! ### Addresses of four bytes -/

def digitValue? (base : Nat) (c : Char) : Option Nat :=
  let d :=
    if Decimal.isDigit c then c.toNat - 48
    else if c.isLower then c.toNat - 87
    else if c.isUpper then c.toNat - 55
    else base
  if d < base then some d else none

def numeral? (base : Nat) (cs : List Char) : Option Nat :=
  cs.foldlM (fun n c => (digitValue? base c).map (base * n + ·)) 0

/-- A number in decimal, in octal after a zero, or in hexadecimal after `0x`. -/
def number? (cs : List Char) : Option Nat :=
  match cs with
  | [] => none
  | '0' :: 'x' :: r => numeral? 16 r
  | '0' :: 'X' :: r => numeral? 16 r
  | '0' :: c :: r => numeral? 8 (c :: r)
  | _ => numeral? 10 cs

def dotted (cs : List Char) : List (List Char) :=
  match (Cut.pieces (· == '.') cs).reverse with
  | [] :: p :: ps => (p :: ps).reverse
  | ps => ps.reverse

/-- Whether the last part of a name makes it a number. -/
def endsInNumber (cs : List Char) : Bool :=
  match (dotted cs).getLast? with
  | none => false
  | some last => (!last.isEmpty && last.all Decimal.isDigit) ||
      ((last.take 2 == ['0', 'x'] || last.take 2 == ['0', 'X']) && (number? last).isSome)

/-- The last number fills the bytes that the others leave. -/
def fourBytes? (cs : List Char) : Option Nat := do
  let parts ← (dotted cs).mapM number?
  let last ← parts.getLast?
  let init := parts.dropLast
  if 3 < init.length ∨ init.any (255 < ·) ∨ 1 <<< (8 * (4 - init.length)) ≤ last then none
  return (init.zipIdx.map fun (n, i) => n <<< (8 * (3 - i))).foldr (· + ·) last

def fourBytesText (n : Nat) : List Char :=
  ['.'].intercalate ([n >>> 24, n >>> 16 % 256, n >>> 8 % 256, n % 256].map Decimal.render)

/-! ### Addresses of sixteen bytes -/

/-- Groups of hexadecimal digits between colons; the last may be an address of four bytes. -/
def groups? (cs : List Char) : Option (List Nat) :=
  if cs.isEmpty then some []
  else
    let parts := Cut.pieces (· == ':') cs
    let group (p : List Char) : Option (List Nat) :=
      if p.isEmpty ∨ 4 < p.length then none else (numeral? 16 p).map ([·])
    let tail (p : List Char) : Option (List Nat) :=
      if p.contains '.' then do
        let bytes := Cut.pieces (· == '.') p
        let ns ← bytes.mapM fun b =>
          if 1 < b.length ∧ b.head? = some '0' then none
          else (Decimal.digits? b).filter (· < 256)
        match ns with
        | [a, b, c, d] => some [a * 256 + b, c * 256 + d]
        | _ => none
      else group p
    match parts.reverse with
    | [] => some []
    | last :: init => do
      let init ← init.reverse.mapM group
      return init.flatten ++ (← tail last)

/-- Cuts at the first two colons in a row. -/
def cutGap? : List Char → Option (List Char × List Char)
  | ':' :: ':' :: r => some ([], r)
  | c :: r => (cutGap? r).map fun (a, b) => (c :: a, b)
  | [] => none

def sixteenBytes? (cs : List Char) : Option (List Nat) :=
  match cutGap? cs with
  | none => (groups? cs).filter (·.length == 8)
  | some (a, b) => do
    if a.contains '.' then none
    let x ← groups? a
    let y ← groups? b
    if 7 < x.length + y.length then none
    return x ++ List.replicate (8 - x.length - y.length) 0 ++ y

def hexText (n : Nat) : List Char := Nat.toDigits 16 n

/-- Where the first of the longest runs of zeros starts, and its length. -/
def longestGap (gs : List Nat) : Nat × Nat :=
  (List.range 8).foldl (fun best i =>
    let n := ((gs.drop i).takeWhile (· == 0)).length
    if best.2 < n then (i, n) else best) (0, 0)

def sixteenBytesText (gs : List Nat) : List Char :=
  let (i, n) := longestGap gs
  let text (gs : List Nat) : List Char := [':'].intercalate (gs.map hexText)
  if n < 2 then text gs else text (gs.take i) ++ [':', ':'] ++ text (gs.drop (i + n))

/-! ### Hosts -/

def isForbidden (c : Char) : Bool := "\x00\t\n\r #/:<>?@[\\]^|".toList.contains c

def isForbiddenInName (c : Char) : Bool :=
  isForbidden c || c.toNat < 0x20 || c == '%' || c.toNat == 0x7F

def isAscii (c : Char) : Bool := c.toNat < 128

/-- Whether a label in its own characters may be a part of a name: they are all allowed and have
the form that names give them, no mark stands at the start, and joiners only where they count. -/
def isLabel (label : List Char) : Bool :=
  label.all Folding.isAllowed && Folding.fold label == label && !label.head?.any Mark.isMark &&
    Joining.allStand [] label && label.length ≤ 1000

def codedStart : List Char := "xn--".toList

/-- A label in its own characters; if it is coded, it has to stand for one that is not ASCII. -/
def plainLabel? (label : List Char) : Option (List Char) :=
  if codedStart.isPrefixOf label then do
    let code := label.drop codedStart.length
    if !code.all isAscii ∨ 2000 < code.length then none
    let plain ← Punycode.decode? code
    if isLabel plain && !plain.all isAscii then some plain else none
  else if label.all isAscii || isLabel label then some label
  else none

/-- A label as names hold it, in ASCII. -/
def labelText (label : List Char) : List Char :=
  if label.all isAscii then label else codedStart ++ Punycode.encode label

/-- A name, with each label that is not ASCII in its coded form. -/
def name? (cs : List Char) : Option (List Char) := do
  let labels := Cut.pieces (· == '.') (Folding.fold (Percent.decodeText cs))
  if !Direction.isReadable (← labels.mapM plainLabel?) then none
  let name := ['.'].intercalate (labels.map labelText)
  if name.isEmpty ∨ name.any isForbiddenInName then none
  else if endsInNumber name then (fourBytes? name).map fourBytesText
  else some name

def bracketed? (cs : List Char) : Option (List Char) :=
  match cs.reverse with
  | ']' :: r => (sixteenBytes? r.reverse).map fun gs => ['['] ++ sixteenBytesText gs ++ [']']
  | _ => none

/-- The written form of a host; `special` schemes have names and addresses, others any text. -/
def parse? (special : Bool) (cs : List Char) : Option (List Char) :=
  match cs with
  | '[' :: r => bracketed? r
  | _ =>
    if special then name? cs
    else if cs.any isForbidden then none
    else some (Percent.encode Percent.isControl cs)

end SeedSync.Host
