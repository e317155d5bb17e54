import SeedSync.Event.Basic

/-!
What a progress display shows: how much of the output is written, how long it will be, and what is
going on.
-/

namespace SeedSync

structure Progress where
  /-- A 64-bit number, which wraps. -/
  position : Nat
  length : Option Nat
  message : String
  deriving DecidableEq, Repr

namespace Progress

def start : Progress := ⟨0, none, ""⟩

def tabWidth : Nat := 8

def expandTabs (text : String) : String :=
  String.ofList (text.toList.flatMap fun c => if c = '\t' then List.replicate tabWidth ' ' else [c])

def step (p : Progress) : Event → Progress
  | .controlDownloadStarted .. | .controlReadStarted .. =>
    { p with message := "reading control file" }
  | .outputStarted _ length => { p with position := 0, length := some length }
  | .inputStarted path _ => { p with message := expandTabs ("scanning " ++ path) }
  | .remoteStarted .. => { p with message := "downloading" }
  | .bytesWritten n => { p with position := (p.position + n) % UInt64.size }
  | .outputComplete _ => { p with message := "verified" }
  | _ => p

end Progress

end SeedSync
