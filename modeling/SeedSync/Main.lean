import SeedSync.CommandLine.Program
import SeedSync.Files.Changes

/-!
The program on the files of the machine. It reads the files that the arguments name, runs, and
writes back what has changed. It has no network.
-/

namespace SeedSync.Machine

def look (path : String) : IO (Option Node) := do
  try
    return some (.file (← IO.FS.readBinFile path).toList none)
  catch
    | .noFileOrDirectory .. => return none
    | _ => return some (.directory none)

/-- The tree with what is at a path and on the way to it. -/
def load (files : Tree) (path : String) : IO Tree := do
  let mut files := files
  for place in Tree.directoriesTo path ++ [Tree.placeOf path] do
    if !Tree.isGiven place && (files.node? place).isNone then
      if let some node ← look (Tree.pathOf place) then
        files := files.put place node
  return files

def apply : Change → IO Unit
  | .makeDirectory path => IO.FS.createDirAll path
  | .write path content => IO.FS.writeBinFile path ⟨content.toArray⟩
  | .remove path => IO.FS.removeFile path

def settingsDirectory : IO String := do
  match ← IO.getEnv "XDG_CONFIG_HOME" with
  | some directory => return directory
  | none => return ((← IO.getEnv "HOME").getD "") ++ "/.config"

def noNetwork : Network := ⟨fun _ => false, NetworkFault.message, [], []⟩

def run (words : List String) : IO UInt32 := do
  let directory ← settingsDirectory
  let named ← (Program.paths words directory ⟨[]⟩).foldlM load ⟨[]⟩
  let files ← (Program.paths words directory named).foldlM load named
  let r := Program.run words directory files noNetwork
  (files.changes r.files).forM apply
  r.stdout.forM fun line => IO.println line
  if let some e := r.failure then IO.eprintln ("Error: " ++ e.message)
  if let some stop := r.usage then
    if stop.exitCode ≠ 0 then IO.eprintln ("error: " ++ stop.message)
  return UInt32.ofNat r.exitCode

end SeedSync.Machine

def main (args : List String) : IO UInt32 := SeedSync.Machine.run args
