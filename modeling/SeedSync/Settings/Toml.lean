import SeedSync.Text.Decimal
import SeedSync.Time.Calendar

/-!
TOML documents: tables of values, written as lines of keys and values under headers. A table is
defined once; dotted keys and headers may open tables on their way, each in its own manner.
-/

namespace SeedSync

/-- How a table came to be. -/
structure TableOrigin where
  /-- Only passed through so far. -/
  implicit : Bool
  /-- By a dotted key. -/
  dotted : Bool
  /-- Between braces; it cannot be added to. -/
  inline : Bool
  deriving DecidableEq, Repr

inductive Toml
  | string (s : String)
  | integer (n : Int)
  | float
  | boolean (b : Bool)
  | datetime
  | array (items : List Toml)
  | table (origin : TableOrigin) (entries : List (String × Toml))
  /-- Tables under one repeated header; each one's entries, newest first. -/
  | tables (items : List (List (String × Toml)))

namespace Toml

abbrev Entries := List (String × Toml)

/-! ### Characters -/

def isBlank (c : Char) : Bool := c == ' ' || c == '\t'

def skipBlanks (cs : List Char) : List Char := cs.dropWhile isBlank

def isPlain (c : Char) : Bool := c == '\t' || (0x20 ≤ c.toNat && c.toNat != 0x7F)

def isBareKey (c : Char) : Bool := c.isAlphanum || c == '_' || c == '-'

/-- Skips blanks, line ends and comments; nothing if a comment holds a control. -/
def skipFiller (comment : Bool) : List Char → Option (List Char)
  | '\n' :: r => skipFiller false r
  | '\r' :: '\n' :: r => skipFiller false r
  | c :: r =>
    if comment then (if isPlain c then skipFiller true r else none)
    else if c == '#' then skipFiller true r
    else if isBlank c then skipFiller false r
    else some (c :: r)
  | [] => some []

/-- The end of a line, perhaps behind blanks and a comment. -/
def lineEnd? (cs : List Char) : Option (List Char) :=
  let cs := skipBlanks cs
  let cs := match cs with
    | '#' :: r => r.dropWhile isPlain
    | _ => cs
  match cs with
  | [] => some []
  | '\n' :: r => some r
  | '\r' :: '\n' :: r => some r
  | _ => none

/-! ### Strings -/

def hexDigit? (c : Char) : Option Nat :=
  if Decimal.isDigit c then some (c.toNat - 48)
  else if 'a' ≤ c ∧ c ≤ 'f' then some (c.toNat - 87)
  else if 'A' ≤ c ∧ c ≤ 'F' then some (c.toNat - 55)
  else none

def codePoint? (ds : List Char) : Option Char := do
  let n ← ds.foldlM (fun n c => (hexDigit? c).map (16 * n + ·)) 0
  if n.isValidChar then some (Char.ofNat n) else none

/-- What follows a backslash: the character that it stands for, and the rest. -/
def escape? : List Char → Option (Char × List Char)
  | 'b' :: r => some ('\x08', r)
  | 't' :: r => some ('\t', r)
  | 'n' :: r => some ('\n', r)
  | 'f' :: r => some ('\x0c', r)
  | 'r' :: r => some ('\r', r)
  | '"' :: r => some ('"', r)
  | '\\' :: r => some ('\\', r)
  | 'u' :: r => if r.length < 4 then none else (codePoint? (r.take 4)).map fun c => (c, r.drop 4)
  | 'U' :: r => if r.length < 8 then none else (codePoint? (r.take 8)).map fun c => (c, r.drop 8)
  | _ => none

theorem escape?_shorter {cs r : List Char} {c : Char} (h : escape? cs = some (c, r)) :
    r.length < cs.length := by
  unfold escape? at h
  split at h <;> try (simp at h; obtain ⟨-, rfl⟩ := h; simp)
  · split at h
    · simp at h
    · simp only [Option.map_eq_some_iff, Prod.mk.injEq] at h
      obtain ⟨_, -, -, rfl⟩ := h
      simp only [List.length_cons, List.length_drop]; omega
  · split at h
    · simp at h
    · simp only [Option.map_eq_some_iff, Prod.mk.injEq] at h
      obtain ⟨_, -, -, rfl⟩ := h
      simp only [List.length_cons, List.length_drop]; omega
  · simp at h

def basicString (cs : List Char) : Option (List Char × List Char) :=
  match cs with
  | [] => none
  | '"' :: r => some ([], r)
  | '\\' :: r =>
    match _h : escape? r with
    | none => none
    | some (c, r') => (basicString r').map fun (s, t) => (c :: s, t)
  | c :: r => if isPlain c then (basicString r).map fun (s, t) => (c :: s, t) else none
termination_by cs.length
decreasing_by
  · have := escape?_shorter _h; simp only [List.length_cons]; omega
  · simp

def literalString : List Char → Option (List Char × List Char)
  | [] => none
  | '\'' :: r => some ([], r)
  | c :: r => if isPlain c then (literalString r).map fun (s, t) => (c :: s, t) else none

/-- Up to two quotes may stand before the three that close a string over several lines. -/
def closing? (q : Char) (cs : List Char) : Option (List Char × List Char) :=
  let n := (cs.takeWhile (· == q)).length
  if n < 3 then none else some (List.replicate (min n 5 - 3) q, cs.drop (min n 5))

/-- Whether a backslash stands at the end of its line. -/
def endsLine (cs : List Char) : Bool :=
  match skipBlanks cs with
  | '\n' :: _ => true
  | '\r' :: '\n' :: _ => true
  | _ => false

/-- A string over several lines. A backslash at the end of a line takes away all blanks and line
ends up to the next character; `trim` says that this is under way. -/
def basicLines (trim : Bool) (cs : List Char) : Option (List Char × List Char) :=
  match closing? '"' cs with
  | some r => some r
  | none =>
    match cs with
    | [] => none
    | '\n' :: r =>
      if trim then basicLines true r else (basicLines false r).map fun (s, t) => ('\n' :: s, t)
    | '\r' :: '\n' :: r =>
      if trim then basicLines true r else (basicLines false r).map fun (s, t) => ('\n' :: s, t)
    | '\\' :: r =>
      if endsLine r then basicLines true r
      else
        match _h : escape? r with
        | none => none
        | some (c, r') => (basicLines false r').map fun (s, t) => (c :: s, t)
    | c :: r =>
      if trim && isBlank c then basicLines true r
      else if isPlain c then (basicLines false r).map fun (s, t) => (c :: s, t)
      else none
termination_by cs.length
decreasing_by
  all_goals first
    | (have h := escape?_shorter _h; simp only [List.length_cons]; omega)
    | (simp only [List.length_cons]; omega)

def literalLines (cs : List Char) : Option (List Char × List Char) :=
  match closing? '\'' cs with
  | some r => some r
  | none =>
    match cs with
    | [] => none
    | '\n' :: r => (literalLines r).map fun (s, t) => ('\n' :: s, t)
    | '\r' :: '\n' :: r => (literalLines r).map fun (s, t) => ('\n' :: s, t)
    | c :: r => if isPlain c then (literalLines r).map fun (s, t) => (c :: s, t) else none

/-- A line end right behind the opening quotes does not count. -/
def dropFirstLineEnd : List Char → List Char
  | '\n' :: r => r
  | '\r' :: '\n' :: r => r
  | r => r

def string? (cs : List Char) : Option (List Char × List Char) :=
  match cs with
  | '"' :: '"' :: '"' :: r => basicLines false (dropFirstLineEnd r)
  | '\'' :: '\'' :: '\'' :: r => literalLines (dropFirstLineEnd r)
  | '"' :: r => basicString r
  | '\'' :: r => literalString r
  | _ => none

/-! ### Keys -/

def simpleKey? (cs : List Char) : Option (String × List Char) :=
  match cs with
  | '"' :: r => (basicString r).map fun (s, t) => (String.ofList s, t)
  | '\'' :: r => (literalString r).map fun (s, t) => (String.ofList s, t)
  | _ =>
    match cs.takeWhile isBareKey with
    | [] => none
    | k => some (String.ofList k, cs.drop k.length)

/-- Keys between dots; `most` bounds their number. -/
def keys? (most : Nat) (cs : List Char) : Option (List String × List Char) :=
  match most with
  | 0 => none
  | most + 1 => do
    let (k, r) ← simpleKey? (skipBlanks cs)
    match skipBlanks r with
    | '.' :: r => do
      let (ks, r) ← keys? most r
      return (k :: ks, r)
    | r => return ([k], r)

/-- How deep arrays and tables nest in a value, and how many keys may stand between dots. -/
def maxDepth : Nat := 79

def key? (cs : List Char) : Option (List String × List Char) := keys? maxDepth cs

/-! ### Numbers and dates -/

/-- The digits between single underscores. -/
def plainDigits? (isDigit : Char → Bool) (cs : List Char) : Option (List Char) :=
  let rec go (last : Bool) : List Char → Option (List Char)
    | [] => if last then some [] else none
    | '_' :: r => if last then go false r else none
    | c :: r => if isDigit c then (go true r).map (c :: ·) else none
  go false cs

def decimal? (cs : List Char) : Option Nat := do
  let ds ← plainDigits? Decimal.isDigit cs
  if 1 < ds.length ∧ ds.head? = some '0' then none else some (Decimal.value ds)

def signed (cs : List Char) : Bool × List Char :=
  match cs with
  | '-' :: r => (true, r)
  | '+' :: r => (false, r)
  | _ => (false, cs)

def based? (base : Nat) (isDigit : Char → Bool) (cs : List Char) : Option Int := do
  let ds ← plainDigits? isDigit cs
  let n ← ds.foldlM (fun n c => (hexDigit? c).map (base * n + ·)) 0
  if n < 1 <<< 63 then some n else none

def integer? (cs : List Char) : Option Int :=
  match cs with
  | '0' :: 'x' :: r => based? 16 (fun c => (hexDigit? c).isSome) r
  | '0' :: 'o' :: r => based? 8 (fun c => (hexDigit? c).any (· < 8)) r
  | '0' :: 'b' :: r => based? 2 (fun c => (hexDigit? c).any (· < 2)) r
  | _ => do
    let (negative, r) := signed cs
    let n ← decimal? r
    if negative then (if n ≤ 1 <<< 63 then some (-(n : Int)) else none)
    else if n < 1 <<< 63 then some n else none

/-- Half a step above the greatest finite double; from here on a number rounds to infinity. -/
def infiniteFrom : Nat := 1 <<< 1024 - 1 <<< 970

/-- Whether the number with these digits, times ten to the power `e`, rounds to infinity. Its size
tells, unless it has as many digits before the point as `infiniteFrom`. -/
def isInfinite (digits : List Char) (e : Int) : Bool :=
  let ds := digits.dropWhile (· == '0')
  let places := (Nat.repr infiniteFrom).length
  if ds.isEmpty ∨ ds.length + e < places then false
  else if places < ds.length + e then true
  else decide (infiniteFrom * Nat.pow 10 (-e).toNat ≤ Decimal.value ds * Nat.pow 10 e.toNat)

/-- A number in decimal: its digits without the point, and the power of ten that they count in. -/
def scaled? (cs : List Char) : Option (List Char × Int) := do
  let isE (c : Char) : Bool := c == 'e' || c == 'E'
  let digits? := plainDigits? Decimal.isDigit
  let mantissa := cs.takeWhile fun c => !isE c
  let whole := mantissa.takeWhile (· != '.')
  let fraction := mantissa.drop whole.length
  let exponent := cs.drop mantissa.length
  if (decimal? whole).isNone ∨ (fraction.isEmpty ∧ exponent.isEmpty) then none
  let (negative, power) := signed (exponent.drop 1)
  let whole ← digits? whole
  let fraction ← if fraction.isEmpty then some [] else digits? (fraction.drop 1)
  let power ← if exponent.isEmpty then some 0 else (digits? power).map Decimal.value
  return (whole ++ fraction, (if negative then -(power : Int) else power) - fraction.length)

/-- A positive number that rounds to infinity is none; a negative one counts. -/
def isFloat (cs : List Char) : Bool :=
  let (negative, body) := signed cs
  body == "inf".toList || body == "nan".toList ||
    (scaled? body).any fun (digits, e) => negative || !isInfinite digits e

def field? (n lo hi : Nat) (cs : List Char) : Option (Nat × List Char) :=
  let ds := cs.take n
  if ds.length = n ∧ ds.all Decimal.isDigit ∧ lo ≤ Decimal.value ds ∧ Decimal.value ds ≤ hi then
    some (Decimal.value ds, cs.drop n)
  else none

def char? (p : Char → Bool) (cs : List Char) : Option (List Char) :=
  match cs with
  | c :: r => if p c then some r else none
  | [] => none

def date? (cs : List Char) : Option (List Char) := do
  let (year, r) ← field? 4 0 9999 cs
  let (month, r) ← field? 2 1 12 (← char? (· == '-') r)
  let (_, r) ← field? 2 1 (Calendar.daysInMonth year month) (← char? (· == '-') r)
  return r

def time? (cs : List Char) : Option (List Char) := do
  let (_, r) ← field? 2 0 23 cs
  let (_, r) ← field? 2 0 59 (← char? (· == ':') r)
  let (_, r) ← field? 2 0 60 (← char? (· == ':') r)
  match r with
  | '.' :: r =>
    let ds := r.takeWhile Decimal.isDigit
    if ds.isEmpty then none else return r.drop ds.length
  | _ => return r

def offset? (cs : List Char) : Option (List Char) :=
  match cs with
  | 'Z' :: r => some r
  | 'z' :: r => some r
  | c :: r => do
    if c ≠ '+' ∧ c ≠ '-' then none
    let (_, r) ← field? 2 0 23 r
    let (_, r) ← field? 2 0 59 (← char? (· == ':') r)
    return r
  | [] => some []

def isDatetime (cs : List Char) : Bool :=
  match date? cs with
  | some [] => true
  | some (c :: r) =>
    (c == 'T' || c == 't' || c == ' ') && ((time? r).bind offset?) == some []
  | none => time? cs == some []

def isScalarChar (c : Char) : Bool := c.isAlphanum || "_+-.:".toList.contains c

/-- The characters of a number, a date or a word; a blank may part a date from its time. -/
def scalarText (cs : List Char) : List Char × List Char :=
  let a := cs.takeWhile isScalarChar
  let r := cs.drop a.length
  match r with
  | ' ' :: d :: _ =>
    if date? a == some [] && Decimal.isDigit d then
      let b := (r.drop 1).takeWhile isScalarChar
      (a ++ [' '] ++ b, r.drop (b.length + 1))
    else (a, r)
  | _ => (a, r)

def scalarValue? (cs : List Char) : Option Toml :=
  if cs == "true".toList then some (.boolean true)
  else if cs == "false".toList then some (.boolean false)
  else
    match integer? cs with
    | some n => some (.integer n)
    | none => if isFloat cs then some .float else if isDatetime cs then some .datetime else none

/-! ### Tables -/

def bracesOrigin (dotted : Bool) : TableOrigin := ⟨dotted, dotted, true⟩

def replace (key : String) (v : Toml) : Entries → Entries
  | [] => [(key, v)]
  | (k, w) :: rest => if k = key then (k, v) :: rest else (k, w) :: replace key v rest

/-- Changes the table at the end of a path, opening the tables on the way. A dotted key goes only
through tables that dotted keys opened; between braces all tables are of that kind. -/
def descend (dotted braces : Bool)
    (change : TableOrigin → Entries → Option (TableOrigin × Entries)) :
    List String → TableOrigin → Entries → Option (TableOrigin × Entries)
  | [], o, es => change o es
  | key :: path, o, es =>
    match es.lookup key with
    | none => do
      let (o', es') ← descend dotted braces change path ⟨true, dotted, braces⟩ []
      return (o, es ++ [(key, .table o' es')])
    | some (.table o' es') => do
      if o'.inline != braces ∨ (dotted ∧ !o'.implicit) then none
      let (o', es') ← descend dotted braces change path o' es'
      return (o, replace key (.table o' es') es)
    | some (.tables (last :: others)) => do
      if braces then none
      let (_, last) ← descend dotted braces change path ⟨false, false, false⟩ last
      return (o, replace key (.tables (last :: others)) es)
    | some _ => none

def assign (braces : Bool) (path : List String) (v : Toml) (o : TableOrigin) (es : Entries) :
    Option (TableOrigin × Entries) :=
  match path.getLast? with
  | none => none
  | some key =>
    let way := path.dropLast
    descend true braces (fun o es =>
      if o.dotted == way.isEmpty ∨ (es.lookup key).isSome then none
      else some (o, es ++ [(key, v)])) way o es

def openTable (path : List String) (es : Entries) : Option Entries :=
  match path.getLast? with
  | none => none
  | some key =>
    (descend false false (fun o es =>
      match es.lookup key with
      | none => some (o, es ++ [(key, .table ⟨false, false, false⟩ [])])
      | some (.table ⟨true, false, false⟩ inner) =>
        some (o, replace key (.table ⟨false, false, false⟩ inner) es)
      | some _ => none) path.dropLast ⟨false, false, false⟩ es).map Prod.snd

/-- Opens a further table under a repeated header. -/
def openTables (path : List String) (es : Entries) : Option Entries :=
  match path.getLast? with
  | none => none
  | some key =>
    (descend false false (fun o es =>
      match es.lookup key with
      | none => some (o, es ++ [(key, .tables [[]])])
      | some (.tables items) => some (o, replace key (.tables ([] :: items)) es)
      | some _ => none) path.dropLast ⟨false, false, false⟩ es).map Prod.snd

/-! ### Values -/

/-- The items of an array up to its closing bracket; `fuel` bounds their number. -/
def arrayItems (value : List Char → Option (Toml × List Char)) (fuel : Nat) (cs : List Char) :
    Option (List Toml × List Char) :=
  match fuel with
  | 0 => none
  | fuel + 1 => do
    match ← skipFiller false cs with
    | ']' :: r => return ([], r)
    | cs => do
      let (v, r) ← value cs
      match ← skipFiller false r with
      | ',' :: r => do
        let (vs, r) ← arrayItems value fuel r
        return (v :: vs, r)
      | ']' :: r => return ([v], r)
      | _ => none

/-- The keys and values between braces, behind those already read. -/
def inlineItems (value : List Char → Option (Toml × List Char)) (fuel : Nat) (es : Entries)
    (cs : List Char) : Option (Entries × List Char) :=
  match fuel with
  | 0 => none
  | fuel + 1 => do
    let (path, r) ← key? cs
    let r ← char? (· == '=') (skipBlanks r)
    let (v, r) ← value (skipBlanks r)
    let (_, es) ← assign true path v (bracesOrigin false) es
    match skipBlanks r with
    | ',' :: r => inlineItems value fuel es r
    | '\x7d' :: r => return (es, r)
    | _ => none

def scalar? (cs : List Char) : Option (Toml × List Char) :=
  match cs with
  | '"' :: _ | '\'' :: _ => (string? cs).map fun (s, t) => (.string (String.ofList s), t)
  | _ =>
    let (text, r) := scalarText cs
    (scalarValue? text).map fun v => (v, r)

/-- A value; arrays and tables in it nest at most `depth` deep. -/
def value? (depth : Nat) (cs : List Char) : Option (Toml × List Char) :=
  match depth, cs with
  | 0, '[' :: _ | 0, '\x7b' :: _ => none
  | depth + 1, '[' :: r =>
    (arrayItems (value? depth) (r.length + 1) r).map fun (vs, t) => (.array vs, t)
  | depth + 1, '\x7b' :: r =>
    match skipBlanks r with
    | '\x7d' :: t => some (.table (bracesOrigin false) [], t)
    | r =>
      (inlineItems (value? depth) (r.length + 1) [] r).map fun (es, t) =>
        (.table (bracesOrigin false) es, t)
  | _, cs => scalar? cs

/-! ### Documents -/

/-- A document under way: the entries of all its tables, and the path of the one that keys go
to. -/
structure Document where
  entries : Entries
  current : List String

def Document.assign (d : Document) (path : List String) (v : Toml) : Option Document := do
  let (_, entries) ← descend false false (Toml.assign false path v) d.current
    ⟨false, false, false⟩ d.entries
  return { d with entries }

def line? (d : Document) (cs : List Char) : Option (Document × List Char) :=
  match skipBlanks cs with
  | '[' :: '[' :: r => do
    let (path, r) ← key? r
    let r ← char? (· == ']') (skipBlanks r)
    let r ← char? (· == ']') r
    let entries ← openTables path d.entries
    return (⟨entries, path⟩, ← lineEnd? r)
  | '[' :: r => do
    let (path, r) ← key? r
    let r ← char? (· == ']') (skipBlanks r)
    let entries ← openTable path d.entries
    return (⟨entries, path⟩, ← lineEnd? r)
  | cs =>
    match lineEnd? cs with
    | some r => some (d, r)
    | none => do
      let (path, r) ← key? cs
      let r ← char? (· == '=') (skipBlanks r)
      let (v, r) ← value? maxDepth (skipBlanks r)
      return (← d.assign path v, ← lineEnd? r)

/-- Reads line by line; `fuel` bounds their number. -/
def lines? (fuel : Nat) (d : Document) (cs : List Char) : Option Entries :=
  match fuel, cs with
  | _, [] => some d.entries
  | 0, _ => none
  | fuel + 1, cs => do
    let (d, r) ← line? d cs
    lines? fuel d r

/-- The entries of a document, which may start with a byte order mark. -/
def parse? (text : String) : Option Entries :=
  let cs := match text.toList with
    | c :: r => if c = Char.ofNat 0xFEFF then r else c :: r
    | [] => []
  lines? (cs.length + 1) ⟨[], []⟩ cs

end Toml

end SeedSync
