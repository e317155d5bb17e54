import SeedSync.Event.Basic

/-!
What a transfer reports: that it is about to start, has started, brought bytes and is over. A
download turns this into the events of the control file's or the target's transfer.
-/

namespace SeedSync

inductive Download
  | controlFile
  /-- The ranges are those still to be announced. -/
  | remoteFile (ranges : List ByteRange)
  deriving DecidableEq, Repr

namespace Download

/-- The ranges are announced once. -/
def initiating (d : Download) (url : String) : Event × Download :=
  match d with
  | .controlFile => (.controlDownloadInitiated url, d)
  | .remoteFile ranges => (.remoteInitiated url ranges, .remoteFile [])

def started (d : Download) (url : String) (length : Option Nat) : Event :=
  match d with
  | .controlFile => .controlDownloadStarted url length
  | .remoteFile _ => .remoteStarted url length

def transferred (n : Nat) : Event := .bytesDownloaded n

def closed (d : Download) : Event :=
  match d with
  | .controlFile => .controlDownloadComplete
  | .remoteFile _ => .remoteComplete

end Download

end SeedSync
