import SeedSync.Files.Path
import SeedSync.IoError
import SeedSync.Stream.Source
import SeedSync.Time.Calendar

/-!
A tree of files and directories around a working directory. A place in it is a list of names: from
the working directory, with leading `..` for those above it, or from the root, which is written
`/`.
-/

namespace SeedSync

inductive Node
  | file (content : List UInt8) (mtime : Option Instant)
  | directory (mtime : Option Instant)
  deriving DecidableEq, Repr

def Node.isDirectory : Node → Bool
  | .file .. => false
  | .directory _ => true

abbrev Place := List String

structure Tree where
  entries : List (Place × Node)
  deriving DecidableEq, Repr

namespace Tree

/-- Directories that are there without an entry. -/
def isGiven (p : Place) : Bool := p == ["/"] || p.all (· == "..")

def node? (t : Tree) (p : Place) : Option Node :=
  match t.entries.lookup p with
  | some n => some n
  | none => if isGiven p then some (.directory none) else none

def above (p : Place) : Place :=
  if p = ["/"] then p else if p.all (· == "..") then p ++ [".."] else p.dropLast

def enter (t : Tree) (p : Place) : Except IoError Unit :=
  match t.node? p with
  | none => .error .notFound
  | some (.file ..) => .error .notADirectory
  | some (.directory _) => .ok ()

/-! ### Names -/

def maxName : Nat := 255

def maxPath : Nat := 4095

def checkName (name : String) : Except IoError Unit :=
  if maxName < name.utf8ByteSize then .error .nameTooLong else .ok ()

def checkNul (path : String) : Except IoError Unit :=
  if path.toList.contains (Char.ofNat 0) then .error .nulInPath else .ok ()

/-- Fails on a path that leads nowhere whatever is there. -/
def checkPath (path : String) : Except IoError Unit :=
  if path = "" then .error .notFound
  else if maxPath < path.utf8ByteSize then .error .nameTooLong
  else .ok ()

/-! ### Finding -/

/-- Follows the segments of a path; all but what the last one names has to be there. -/
def walk (t : Tree) (p : Place) : List String → Except IoError Place
  | [] => .ok p
  | s :: rest => do
    t.enter p
    checkName s
    walk t (if s = "" ∨ s = "." then p else if s = ".." then above p else p ++ [s]) rest

def startOf (path : String) : Place := if Path.isAbsolute path then ["/"] else []

def place (t : Tree) (path : String) : Except IoError Place := do
  checkNul path
  checkPath path
  t.walk (startOf path) (Path.segments path)

def componentPlace (p : Place) : Path.Component → Place
  | .root => ["/"]
  | .here => p
  | .up => above p
  | .name n => p ++ [n]

def find (t : Tree) (path : String) : Except IoError (Place × Node) := do
  let p ← t.place path
  match t.node? p with
  | none => .error .notFound
  | some n => .ok (p, n)

def exists? (t : Tree) (path : String) : Bool := (t.find path).toOption.isSome

def isFile (t : Tree) (path : String) : Bool :=
  match t.find path with
  | .ok (_, .file ..) => true
  | _ => false

def put (t : Tree) (p : Place) (n : Node) : Tree :=
  if t.entries.any (·.1 == p) then
    ⟨t.entries.map fun e => if e.1 == p then (p, n) else e⟩
  else ⟨t.entries ++ [(p, n)]⟩

/-! ### Reading -/

def directorySize : Nat := 4096

/-- A file opened for reading: its length and its bytes. A directory opens, but cannot be read. -/
def openForReading (t : Tree) (path : String) : Except IoError (Nat × Source) := do
  match ← t.find path with
  | (_, .file content _) => .ok (content.length, .ofBytes content)
  | (_, .directory _) => .ok (directorySize, ⟨[], [], some .isADirectory⟩)

def read (t : Tree) (path : String) : Except IoError (List UInt8) := do
  match ← t.find path with
  | (_, .file content _) => .ok content
  | (_, .directory _) => .error .isADirectory

/-! ### Changing -/

/-- Creates the directories on the way to and with the one at the end of `cs`. Those that have been
made stay there when a later one fails. -/
def makeBelow (t : Tree) (p : Place) (made : Bool) :
    List Path.Component → Except IoError Unit × Tree
  | [] => (.ok (), t)
  | c :: rest =>
    match (do t.enter p; checkName c.text) with
    | .error e => (.error e, t)
    | .ok () =>
      let q := componentPlace p c
      match t.node? q with
      | some (.directory _) => makeBelow t q made rest
      -- a file on the way is found when the whole path is tried, one behind a directory that had to
      -- be made only when it is its turn
      | some (.file ..) =>
        (.error (if made || rest.isEmpty then .alreadyExists else .notADirectory), t)
      | none => makeBelow (t.put q (.directory none)) q true rest

def makeDirectories (t : Tree) (path : List Path.Component) : Except IoError Unit × Tree :=
  if path.isEmpty then (.ok (), t)
  else
    match (do checkNul (Path.render path); checkPath (Path.render path)) with
    | .error e => (.error e, t)
    | .ok () => t.makeBelow [] false path

def write (t : Tree) (path : String) (content : List UInt8) : Except IoError Tree := do
  let p ← t.place path
  match t.node? p with
  | some (.directory _) => .error .isADirectory
  | _ => .ok (t.put p (.file content none))

def isBelow (p q : Place) : Bool := p.isPrefixOf q && p != q

/-- The directory that a path's last name lies in, and that name; a path that ends in dots or
names the root has none. -/
def entryOf (t : Tree) (path : String) : Except IoError (Place × Option String) := do
  checkPath path
  let start := startOf path
  match (Path.segments path).reverse.dropWhile (· == "") with
  | [] => return (start, none)
  | last :: before =>
    let p ← t.walk start before.reverse
    t.enter p
    return (p, if last = "." ∨ last = ".." then none else some last)

def endsInSlash (path : String) : Bool := path.toList.getLast? == some '/'

/-- Whether a node may be moved to a place, in the place of what is there. -/
def mayMove (t : Tree) (p : Place) (n : Node) (q : Place) : Except IoError Unit :=
  if isBelow p q then .error .invalidArgument
  else if isBelow q p then .error .directoryNotEmpty
  else
    match t.node? q with
    | none => .ok ()
    | some (.file ..) => if n.isDirectory then .error .notADirectory else .ok ()
    | some (.directory _) =>
      if !n.isDirectory then .error .isADirectory
      else if t.entries.any fun e => isBelow q e.1 then .error .directoryNotEmpty
      else .ok ()

/-- The tree with all at and below `p` moved to `q`. -/
def move (t : Tree) (p q : Place) : Tree :=
  let kept := t.entries.filter fun e => !q.isPrefixOf e.1
  ⟨kept.map fun e => if p.isPrefixOf e.1 then (q ++ e.1.drop p.length, e.2) else e⟩

/-- Moves a file or directory, in the place of what is there. -/
def rename (t : Tree) (source dest : String) : Except IoError Tree := do
  checkNul source
  checkNul dest
  match ← t.entryOf source, ← t.entryOf dest with
  | (dir, some name), (dir', some name') =>
    let p := dir ++ [name]
    let q := dir' ++ [name']
    checkName name
    match t.node? p with
    | none => .error .notFound
    | some n =>
      checkName name'
      if !n.isDirectory && (endsInSlash source || endsInSlash dest) then .error .notADirectory
      else if p = q then return t
      else
        t.mayMove p n q
        return t.move p q
  | _, _ => .error .busy

def setMtime (t : Tree) (path : String) (mtime : Instant) : Except IoError Tree := do
  let (p, n) ← t.find path
  if 1000000000 ≤ mtime.nanos then .error .invalidArgument
  match n with
  | .file content _ => return t.put p (.file content (some mtime))
  | .directory _ => return t.put p (.directory (some mtime))

def mtime? (t : Tree) (path : String) : Option Instant :=
  match t.find path with
  | .ok (_, .file _ m) => m
  | .ok (_, .directory m) => m
  | .error _ => none

end Tree

end SeedSync
