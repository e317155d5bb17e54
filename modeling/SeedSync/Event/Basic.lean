import SeedSync.Text.JsonText
import SeedSync.Transfer.ByteRange

/-!
The events of an invocation, in the order in which they happen, and their JSON.
-/

namespace SeedSync

inductive Event
  | started (uri : String)
  | controlDownloadInitiated (url : String)
  | controlDownloadStarted (url : String) (length : Option Nat)
  | controlDownloadComplete
  | controlReadStarted (uri : String) (length : Option Nat)
  | controlReadComplete
  | outputStarted (path : String) (length : Nat)
  | outputComplete (path : String)
  | inputStarted (path : String) (length : Option Nat)
  | inputComplete (path : String)
  | remoteInitiated (url : String) (ranges : List ByteRange)
  | remoteStarted (url : String) (length : Option Nat)
  | rangeReceived (range : ByteRange)
  | remoteComplete
  | bytesRead (n : Nat)
  | bytesDownloaded (n : Nat)
  | bytesWritten (n : Nat)
  | failed (error : String)
  | completed (path : String)
  deriving DecidableEq, Repr

namespace Event

/-- Counters come often and are left out where only milestones are wanted. -/
def isCounter : Event → Bool
  | .bytesRead _ | .bytesDownloaded _ | .bytesWritten _ => true
  | _ => false

def typeName : Event → String
  | .started _ => "zsync_started"
  | .controlDownloadInitiated _ => "control_file_download_initiated"
  | .controlDownloadStarted .. => "control_file_download_started"
  | .controlDownloadComplete => "control_file_download_complete"
  | .controlReadStarted .. => "control_file_read_started"
  | .controlReadComplete => "control_file_read_complete"
  | .outputStarted .. => "output_file_write_started"
  | .outputComplete _ => "output_file_write_complete"
  | .inputStarted .. => "input_file_read_started"
  | .inputComplete _ => "input_file_read_complete"
  | .remoteInitiated .. => "remote_file_download_initiated"
  | .remoteStarted .. => "remote_file_download_started"
  | .rangeReceived _ => "remote_file_range_received"
  | .remoteComplete => "remote_file_download_complete"
  | .bytesRead _ => "bytes_read"
  | .bytesDownloaded _ => "bytes_downloaded"
  | .bytesWritten _ => "bytes_written"
  | .failed _ => "zsync_failed"
  | .completed _ => "zsync_complete"

end Event

def ByteRange.json (r : ByteRange) : JsonText :=
  .obj [("first", .num r.first), ("last", .num r.last)]

namespace Event

def fields : Event → List (String × JsonText)
  | .started uri => [("uri", .str uri)]
  | .controlDownloadInitiated url => [("url", .str url)]
  | .controlDownloadStarted url length => [("url", .str url), ("length", .ofOption length)]
  | .controlDownloadComplete => []
  | .controlReadStarted uri length => [("uri", .str uri), ("length", .ofOption length)]
  | .controlReadComplete => []
  | .outputStarted path length => [("path", .str path), ("length", .num length)]
  | .outputComplete path => [("path", .str path)]
  | .inputStarted path length => [("path", .str path), ("length", .ofOption length)]
  | .inputComplete path => [("path", .str path)]
  | .remoteInitiated url ranges =>
    [("url", .str url), ("ranges", .arr (ranges.map ByteRange.json))]
  | .remoteStarted url length => [("url", .str url), ("length", .ofOption length)]
  | .rangeReceived range => [("range", range.json)]
  | .remoteComplete => []
  | .bytesRead n => [("bytes", .num n)]
  | .bytesDownloaded n => [("bytes", .num n)]
  | .bytesWritten n => [("bytes", .num n)]
  | .failed error => [("error", .str error)]
  | .completed path => [("path", .str path)]

def json (e : Event) : JsonText := .obj (("type", .str e.typeName) :: e.fields)

/-- The events as lines of JSON, with the counters or without. -/
def lines (counters : Bool) (events : List Event) : List String :=
  (events.filter fun e => counters || !e.isCounter).map fun e => e.json.render

end Event

end SeedSync
