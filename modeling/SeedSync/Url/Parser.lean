import SeedSync.Url.Basic
import SeedSync.Url.Host

/-!
Reading a URL, on its own or relative to another one.
-/

namespace SeedSync.Url

inductive Fault
  | relativeWithoutBase
  | malformed
  deriving DecidableEq, Repr

/-! ### Schemes -/

def defaultPort? (scheme : String) : Option Nat :=
  [("http", 80), ("https", 443), ("ws", 80), ("wss", 443), ("ftp", 21)].lookup scheme

def isSpecial (scheme : String) : Bool := (defaultPort? scheme).isSome

def isSchemeChar (c : Char) : Bool := c.isAlphanum || c == '+' || c == '-' || c == '.'

/-- The scheme in lower case, and what follows its colon. -/
def cutScheme? (cs : List Char) : Option (String × List Char) :=
  match cs, Cut.cut? ':' cs with
  | c :: _, some (scheme, rest) =>
    if c.isAlpha && scheme.all isSchemeChar then
      some (String.ofList (scheme.map Char.toLower), rest)
    else none
  | _, _ => none

/-! ### The three parts -/

def isBreak (c : Char) : Bool := c == '\t' || c == '\n' || c == '\r'

def withoutBreaks (cs : List Char) : List Char := cs.filter fun c => !isBreak c

/-- The hierarchical part, the query and the fragment. -/
structure Parts where
  body : List Char
  query : Option (List Char)
  fragment : Option (List Char)

/-- Cuts at the first number sign and the first question mark before it. Breaks are left in the
hierarchical part alone. -/
def Parts.ofChars (cs : List Char) : Parts :=
  let (front, fragment) :=
    match Cut.cut? '#' cs with
    | none => (cs, none)
    | some (a, b) => (a, some (withoutBreaks b))
  match Cut.cut? '?' front with
  | none => ⟨front, none, fragment⟩
  | some (a, b) => ⟨a, some (withoutBreaks b), fragment⟩

def queryText (special : Bool) (cs : List Char) : String :=
  String.ofList (Percent.encode (if special then Percent.inSpecialQuery else Percent.inQuery) cs)

def fragmentText (cs : List Char) : String := String.ofList (Percent.encode Percent.inFragment cs)

/-! ### Paths -/

def isSlash (special : Bool) (c : Char) : Bool := c == '/' || (special && c == '\\')

/-- A dot, written out or percent-encoded, and what follows it. -/
def dot? : List Char → Option (List Char)
  | '.' :: r => some r
  | '%' :: '2' :: 'e' :: r => some r
  | '%' :: '2' :: 'E' :: r => some r
  | _ => none

def isDot (cs : List Char) : Bool := dot? cs == some []
def isDoubleDot (cs : List Char) : Bool := ((dot? cs).bind dot?) == some []

def isDrive (cs : List Char) : Bool :=
  match cs with
  | [c, d] => c.isAlpha && (d == ':' || d == '|')
  | _ => false

/-- Takes away the last segment, which stands first, unless it names a drive. -/
def shorten : List String → List String
  | [] => []
  | s :: before => if isDrive s.toList then s :: before else before

def segmentText (cs : List Char) : String := String.ofList (Percent.encode Percent.inPath cs)

/-- Resolves a segment behind those done, whose last one stands first. A dot at the end of a path
leaves an empty segment. -/
def resolve (done : List String) (s : List Char) (isLast : Bool) : List String :=
  let last := if isLast then [""] else []
  if isDoubleDot s then last ++ shorten done
  else if isDot s then last ++ done
  else segmentText s :: done

def resolveAll (done : List String) : List (List Char) → List String
  | [] => done.reverse
  | s :: rest => resolveAll (resolve done s rest.isEmpty) rest

def pathOf (special : Bool) (done : List String) (cs : List Char) : UrlPath :=
  .segments (resolveAll done.reverse (Cut.pieces (isSlash special) cs))

/-- The path behind an authority, which starts with a slash or, in special schemes, may lack it. -/
def rootedPath (special : Bool) (cs : List Char) : UrlPath :=
  match cs with
  | [] => if special then pathOf special [] [] else .segments []
  | c :: r => pathOf special [] (if isSlash special c then r else cs)

/-! ### Paths of files -/

/-- The drive that a segment names, and the text that a break cuts off from it. -/
def drive? (s : List Char) : Option (String × List Char) :=
  match withoutBreaks s with
  | [] => none
  | c :: rest =>
    let drive := String.ofList [c, ':']
    if isDrive (c :: rest) then some (drive, [])
    else
      match rest with
      | ':' :: more =>
        let isCut := ((s.dropWhile (· != ':')).drop 1).head?.any isBreak
        if c.isAlpha && isCut then some (drive, more) else none
      | _ => none

/-- Resolves one segment after the other, and says whether the first is a drive, so that the file
lies on this machine. Only a break, which counts nowhere else, cuts off the name of a drive. -/
def resolveFile (done : List String) : List (List Char) → List String × Bool
  | [] => (done.reverse, false)
  | s :: rest =>
    match if done.isEmpty then drive? s else none with
    | some (drive, []) => ((resolveFile [drive] rest).1, true)
    | some (drive, more) => resolveFile [segmentText more, drive] rest
    | none => resolveFile (resolve done (withoutBreaks s) rest.isEmpty) rest

/-- Without the empty segments at the start, unless nothing else is there. -/
def dropEmptyStart : List String → List String
  | "" :: s :: rest => dropEmptyStart (s :: rest)
  | names => names

/-! ### Authorities -/

def port? (scheme : String) (cs : List Char) : Option (Option Nat) :=
  if cs.isEmpty then some none
  else ((Decimal.digits? cs).filter (· < 65536)).map fun n =>
    if defaultPort? scheme = some n then none else some n

/-- The user and password before the last at sign, and what follows it. -/
def cutUser (cs : List Char) : List Char × List Char :=
  if cs.contains '@' then
    let host := Cut.lastPiece (· == '@') cs
    (cs.take (cs.length - host.length - 1), host)
  else ([], cs)

/-- The host, and the port behind the first colon that no bracket encloses. -/
def cutPort (cs : List Char) : List Char × Option (List Char) :=
  match cs with
  | '[' :: r =>
    let inside := r.takeWhile (· != ']')
    match r.dropWhile (· != ']') with
    | ']' :: ':' :: port => ('[' :: inside ++ [']'], some port)
    | _ => (cs, none)
  | _ =>
    match Cut.cut? ':' cs with
    | none => (cs, none)
    | some (host, port) => (host, some port)

/-- A backslash ends a port, and the path starts with it. -/
def cutRest (port : Option (List Char)) (tail : List Char) : Option (List Char) × List Char :=
  let isRest (c : Char) : Bool := c == '\\'
  (port.map (·.takeWhile (!isRest ·)), (port.getD []).dropWhile (!isRest ·) ++ tail)

def userText (cs : List Char) : String := String.ofList (Percent.encode Percent.inUserinfo cs)

/-- What follows two slashes: an authority and a path. Without a host there may be neither a port
nor a user, and not even an at sign before a path, a query or a fragment. -/
def ofAuthority (scheme : String) (p : Parts) (cs : List Char) : Except Fault Url :=
  let special := isSpecial scheme
  let authority := cs.takeWhile fun c => !isSlash special c
  let tail := cs.drop authority.length
  let (user, rest) := cutUser authority
  let (host, port) := cutPort rest
  let (port, tail) := cutRest port tail
  let (name, password) := (Cut.cut? ':' user).getD (user, [])
  let isNamed := !name.isEmpty || !password.isEmpty
  let isMarked := authority.head? == some '@' &&
    (!tail.isEmpty || p.query.isSome || p.fragment.isSome)
  if host.isEmpty ∧ (special ∨ isNamed ∨ isMarked ∨ port.isSome) then .error .malformed
  else
    let host := if host.isEmpty then some [] else Host.parse? special host
    match host, port? scheme (port.getD []) with
    | some host, some port => .ok {
        scheme, username := userText name, password := userText password
        host := some (String.ofList host), port, path := rootedPath special tail
        query := p.query.map (queryText special), fragment := p.fragment.map fragmentText }
    | _, _ => .error .malformed

/-! ### Whole URLs -/

/-- A file on a host, or on this machine if the path starts with a drive. However many slashes are
written before the first segment, the path starts with one. -/
def ofFilePath (host path : List Char) (p : Parts) : Url :=
  let (names, isLocal) := resolveFile [] (Cut.pieces (isSlash true) path)
  let host := if isLocal then [] else host
  ⟨"file", "", "", some (String.ofList host), none, .segments (dropEmptyStart names),
    p.query.map (queryText true), p.fragment.map fragmentText⟩

/-- The text behind a slash, which breaks may precede. -/
def afterSlash? (cs : List Char) : Option (List Char) :=
  match cs.dropWhile isBreak with
  | c :: rest => if isSlash true c then some rest else none
  | [] => none

def ofFileBody (p : Parts) : Except Fault Url :=
  match afterSlash? p.body with
  | none => .ok (ofFilePath [] p.body p)
  | some path =>
    match afterSlash? path with
    | none => .ok (ofFilePath [] path p)
    | some rest =>
      let host := rest.takeWhile fun c => !isSlash true c
      let tail := rest.drop host.length
      let host := withoutBreaks host
      if host.isEmpty ∨ isDrive host then .ok (ofFilePath [] rest p)
      else
        match Host.parse? true host with
        | none => .error .malformed
        | some name =>
          .ok (if name = "localhost".toList then ofFilePath [] tail p
            else ofFilePath name (tail.drop 1) p)

def ofOtherBody (scheme : String) (p : Parts) : Except Fault Url :=
  match p.body with
  | '/' :: '/' :: rest => ofAuthority scheme p rest
  | body =>
    .ok {
      scheme, username := "", password := "", host := none, port := none
      path := match body with
        | '/' :: r => pathOf false [] r
        | _ => .rootless (String.ofList (Percent.encode Percent.isControl body))
      query := p.query.map (queryText false), fragment := p.fragment.map fragmentText }

/-- A URL without a scheme of its own, or with that of `base`, in the place of parts of `base`. -/
def relativeTo (base : Url) (p : Parts) : Except Fault Url :=
  let special := isSpecial base.scheme
  let query := p.query.map (queryText special)
  let fragment := p.fragment.map fragmentText
  let names := match base.path with
    | .segments names => names
    | .rootless _ => []
  match p.body with
  | [] => .ok { base with query := if query.isSome then query else base.query, fragment }
  | a :: rest =>
    if isSlash special a then
      match rest with
      | b :: tail =>
        if a == '/' && b == '/' then ofAuthority base.scheme p tail
        else if isSlash special b then
          ofAuthority base.scheme p (tail.dropWhile (isSlash special))
        else .ok { base with path := pathOf special [] rest, query, fragment }
      | [] => .ok { base with path := pathOf special [] rest, query, fragment }
    else
      .ok { base with path := pathOf special names.dropLast p.body, query, fragment }

/-- Controls and spaces at the ends do not count. -/
def trim (cs : List Char) : List Char :=
  let isOuter (c : Char) : Bool := c.toNat ≤ 0x20
  ((cs.dropWhile isOuter).reverse.dropWhile isOuter).reverse

def ofScheme (base : Option Url) (scheme : String) (p : Parts) : Except Fault Url :=
  if isSpecial scheme then
    match base.filter fun b =>
        b.scheme == scheme && decide ((p.body.takeWhile (isSlash true)).length < 2) with
    | some b => relativeTo b p
    | none => ofAuthority scheme p (p.body.dropWhile (isSlash true))
  else ofOtherBody scheme p

def parseWith (base : Option Url) (input : String) : Except Fault Url :=
  let cs := trim input.toList
  let plain := withoutBreaks cs
  match cutScheme? plain with
  | some ("file", _) => ofFileBody (.ofChars ((cs.dropWhile (· != ':')).drop 1))
  | some (scheme, rest) => ofScheme base scheme (.ofChars rest)
  | none =>
    match base with
    | some b => relativeTo b (.ofChars plain)
    | none => .error .relativeWithoutBase

def parse (input : String) : Except Fault Url := parseWith none input

def join (base : Url) (input : String) : Except Fault Url := parseWith (some base) input

end SeedSync.Url
