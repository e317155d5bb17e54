import SeedSync.Assembly.Basic
import SeedSync.Files.Tree

/-!
The assembly on disk: it is kept beside its destination under a name of its own, and moved there
once it is verified.
-/

namespace SeedSync.Assembly

/-- The longest that a file can be. -/
def maxLength : Nat := 1 <<< 63 - 1

def makeParent (t : Tree) (path : String) : Except IoError Unit × Tree :=
  match Path.parent? path with
  | none => (.ok (), t)
  | some parent => t.makeDirectories parent

/-- Starts an assembly with a file of zeros. -/
def openAt (t : Tree) (path : String) (c : ControlFile) (journal : Array Event) :
    Except Error Assembly × Tree :=
  match makeParent t path with
  | (.error e, t) => (.error (.io .outputFileWrite e), t)
  | (.ok (), t) =>
    match t.write (Path.part path) [] with
    | .error e => (.error (.io .outputFileWrite e), t)
    | .ok t =>
      if maxLength < c.header.length then (.error (.io .outputFileWrite .lengthTooLarge), t)
      else
        let a := start path c journal
        match t.write (Path.part path) a.content with
        | .error e => (.error (.io .outputFileWrite e), t)
        | .ok t => (.ok a, t)

def save (a : Assembly) (t : Tree) : Tree :=
  match t.write (Path.part a.path) a.content with
  | .ok t => t
  | .error _ => t

/-- Verifies the file and moves it to its destination. A date that cannot be set is let go. -/
def close (a : Assembly) (t : Tree) : Except Error Assembly × Tree :=
  match a.verify with
  | .error e => (.error e, t)
  | .ok () =>
    match t.rename (Path.part a.path) a.path with
    | .error e => (.error (.io .outputFileWrite e), t)
    | .ok t =>
      let t :=
        match a.header.mtime with
        | none => t
        | some m => (t.setMtime a.path m).toOption.getD t
      (.ok (a.emit (.outputComplete a.path)), t)

end SeedSync.Assembly
