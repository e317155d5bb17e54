import SeedSync.Event.Basic
import SeedSync.Files.Path
import SeedSync.Text.ByteSize

/-!
Statistics of an invocation, gathered from its events in any order.
-/

namespace SeedSync

/-- Numbers of bytes by path, in the order of paths; equal paths are one. -/
abbrev PathTally := List (String × Nat)

namespace PathTally

def add (path : String) (n : Nat) : PathTally → PathTally
  | [] => [(path, n)]
  | (p, m) :: rest =>
    match Path.compare path p with
    | .lt => (path, n) :: (p, m) :: rest
    | .eq => (p, m + n) :: rest
    | .gt => (p, m) :: add path n rest

def total (t : PathTally) : Nat := (t.map Prod.snd).foldr (· + ·) 0

def json (t : PathTally) : JsonText := .obj (t.map fun (p, n) => (p, .num n))

end PathTally

structure Stats where
  bytesRead : Nat
  bytesWritten : Nat
  bytesDownloaded : Nat
  controlDownloaded : Nat
  remoteDownloaded : Nat
  readByInput : PathTally
  writtenByInput : PathTally
  /-- The ranges of each request for parts of the remote file. -/
  requests : List (List ByteRange)
  deriving DecidableEq, Repr

namespace Stats

def empty : Stats := ⟨0, 0, 0, 0, 0, [], [], []⟩

/-- The bytes of the target that came from seeds. -/
def matchedFromSeeds (s : Stats) : Nat := s.writtenByInput.total

/-- The statistics without their times. -/
def json (s : Stats) : JsonText := .obj [
  ("total_bytes_read", .num s.bytesRead),
  ("total_bytes_written", .num s.bytesWritten),
  ("total_bytes_downloaded", .num s.bytesDownloaded),
  ("bytes_downloaded_for_control_file", .num s.controlDownloaded),
  ("bytes_downloaded_from_remote_file", .num s.remoteDownloaded),
  ("bytes_read_by_input_file", s.readByInput.json),
  ("bytes_written_by_input_file", s.writtenByInput.json),
  ("range_requests", .arr (s.requests.map fun rs =>
    .obj [("ranges", .arr (rs.map ByteRange.json))]))]

/-- A seed under way, with the counts from before it. -/
structure Input where
  path : String
  readBefore : Nat
  writtenBefore : Nat
  deriving DecidableEq, Repr

/-- Statistics under way. -/
structure Gathering where
  stats : Stats
  /-- The bytes of the download under way. -/
  downloaded : Nat
  /-- The ranges of the request under way. -/
  ranges : List ByteRange
  input : Option Input
  deriving DecidableEq, Repr

namespace Gathering

def empty : Gathering := ⟨.empty, 0, [], none⟩

/-- Takes the bytes of the download under way into the total. -/
def finishDownload (g : Gathering) : Nat × Gathering :=
  (g.downloaded, { g with
    downloaded := 0
    stats := { g.stats with bytesDownloaded := g.stats.bytesDownloaded + g.downloaded } })

def finishInput (g : Gathering) (i : Input) : Gathering :=
  let s := g.stats
  { g with
    input := none
    stats := { s with
      readByInput := s.readByInput.add i.path (s.bytesRead - i.readBefore)
      writtenByInput := s.writtenByInput.add i.path (s.bytesWritten - i.writtenBefore) } }

def step (g : Gathering) : Event → Gathering
  | .controlDownloadInitiated _ => { g with downloaded := 0 }
  | .controlDownloadComplete =>
    let (n, g) := g.finishDownload
    { g with stats := { g.stats with controlDownloaded := g.stats.controlDownloaded + n } }
  | .remoteInitiated _ ranges => { g with downloaded := 0, ranges }
  | .remoteComplete =>
    let (n, g) := g.finishDownload
    { g with
      ranges := []
      stats := { g.stats with
        remoteDownloaded := g.stats.remoteDownloaded + n
        requests := g.stats.requests ++ [g.ranges] } }
  | .inputStarted path _ =>
    { g with input := some ⟨path, g.stats.bytesRead, g.stats.bytesWritten⟩ }
  | .inputComplete _ =>
    match g.input with
    | none => g
    | some i => g.finishInput i
  | .bytesRead n => { g with stats := { g.stats with bytesRead := g.stats.bytesRead + n } }
  | .bytesWritten n => { g with stats := { g.stats with bytesWritten := g.stats.bytesWritten + n } }
  | .bytesDownloaded n => { g with downloaded := g.downloaded + n }
  | _ => g

def run (events : List Event) : Gathering := events.foldl step empty

end Gathering

def ofEvents (events : List Event) : Stats := (Gathering.run events).stats

def lines (s : Stats) : List String :=
  ["  Bytes read:        " ++ ByteSize.text s.bytesRead] ++
  (s.writtenByInput.map fun (p, n) =>
    "  Matched from seed: " ++ ByteSize.text n ++ " (" ++ p ++ ")") ++
  ["  Control file:      " ++ ByteSize.text s.controlDownloaded,
   "  Downloaded:        " ++ ByteSize.text s.remoteDownloaded ++ " in " ++
     Decimal.text s.requests.length ++ " requests",
   "  Bytes written:     " ++ ByteSize.text s.bytesWritten]

end Stats

end SeedSync
