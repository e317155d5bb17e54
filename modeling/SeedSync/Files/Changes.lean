import SeedSync.Files.Tree

/-!
What has to be done to a file system that looks like one tree so that it looks like another.
-/

namespace SeedSync

inductive Change
  | makeDirectory (path : String)
  | write (path : String) (content : List UInt8)
  | remove (path : String)
  deriving DecidableEq, Repr

namespace Tree

def pathOf : Place → String
  | "/" :: names => "/" ++ "/".intercalate names
  | names => "/".intercalate names

/-- The directories on the way to a path, from the outside in. -/
def directoriesTo (path : String) : List Place :=
  let cs := (Path.components path).dropLast
  (List.range cs.length).map fun n => (cs.take (n + 1)).foldl componentPlace []

def placeOf (path : String) : Place := (Path.components path).foldl componentPlace []

def change? (old : Tree) (e : Place × Node) : Option Change :=
  if old.entries.lookup e.1 = some e.2 then none
  else
    match e.2 with
    | .directory _ => some (.makeDirectory (pathOf e.1))
    | .file content _ => some (.write (pathOf e.1) content)

/-- Directories come before the files in them. -/
def changes (old new : Tree) : List Change :=
  let gone := old.entries.filter fun e => (new.entries.lookup e.1).isNone
  new.entries.filterMap (change? old) ++ gone.reverse.map fun e => .remove (pathOf e.1)

end Tree

end SeedSync
