import SeedSync.Text.Cut

/-!
Paths as POSIX reads them. Two paths that differ only in repeated slashes or in dots inside them
have the same components; the order of paths goes component by component.
-/

namespace SeedSync.Path

inductive Component
  | root
  | here
  | up
  | name (text : String)
  deriving DecidableEq, Repr

def Component.rank : Component → Nat
  | .root => 0
  | .here => 1
  | .up => 2
  | .name _ => 3

def Component.text : Component → String
  | .root => ""
  | .here => "."
  | .up => ".."
  | .name n => n

def Component.compare : Component → Component → Ordering
  | .name a, .name b => Ord.compare a b
  | a, b => Ord.compare a.rank b.rank

def segments (path : String) : List String :=
  (Cut.pieces (· == '/') path.toList).map String.ofList

def isAbsolute (path : String) : Bool := path.toList.head? == some '/'

def component? (segment : String) : Option Component :=
  if segment = "" ∨ segment = "." then none
  else if segment = ".." then some .up
  else some (.name segment)

/-- A dot counts only at the start of a relative path. -/
def components (path : String) : List Component :=
  let rest := (segments path).filterMap component?
  if isAbsolute path then .root :: rest
  else if (segments path).head? = some "." then .here :: rest
  else rest

/-- The shortest way to write components. -/
def render (cs : List Component) : String :=
  if cs = [.root] then "/" else "/".intercalate (cs.map Component.text)

def compareComponents : List Component → List Component → Ordering
  | [], [] => .eq
  | [], _ :: _ => .lt
  | _ :: _, [] => .gt
  | a :: as, b :: bs => (a.compare b).then (compareComponents as bs)

def compare (a b : String) : Ordering := compareComponents (components a) (components b)

def same (a b : String) : Bool := components a == components b

/-- The last component, if it is a name. -/
def fileName? (path : String) : Option String :=
  match (components path).getLast? with
  | some (.name n) => some n
  | _ => none

def parent? (path : String) : Option (List Component) :=
  match (components path).getLast? with
  | none | some .root => none
  | some _ => some (components path).dropLast

/-- Where a file is kept while it is assembled. -/
def part (path : String) : String := path ++ ".part"

end SeedSync.Path
