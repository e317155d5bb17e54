import SeedSync.CommandLine.Arguments
import SeedSync.Event.Stats

/-!
A run of the program from its arguments to its exit code: what it prints, why it failed if it did,
and the files and the client as it leaves them.
-/

namespace SeedSync

structure ProgramRun where
  exitCode : Nat
  stdout : List String
  /-- The failure of an invocation, printed behind `Error: `. -/
  failure : Option Error
  usage : Option UsageStop
  files : Tree
  network : Network

namespace Program

def versionLine : String := "zsync 0.1.0"

def usageLines : List String := [
  "Usage: zsync [-i PATH]... [-o PATH] [-u URL] [-A HOST=USER:PASS]... [--timeout SECS]",
  "             [-v]... [-q] [--json] [--stats] URI"]

def stopLines : UsageStop → List String
  | .helpAsked => usageLines
  | .versionAsked => [versionLine]
  | _ => []

/-- What a finished invocation prints behind its events. -/
def closingLines (a : Arguments) (path : String) (events : List Event) : List String :=
  let wrote := if a.showsProgress then ["", "✓ Wrote " ++ path, ""] else []
  let stats := Stats.ofEvents events
  wrote ++
    if !a.stats then [] else if a.json then [stats.json.render] else stats.lines

def stdout (a : Arguments) (o : Outcome) : List String :=
  let events := o.events.toList
  (if a.json then Event.lines (a.verbose ≠ 0) events else []) ++
    match o.result with
    | .error _ => []
    | .ok path => closingLines a path events

def invoke (a : Arguments) (settings : Settings) (files : Tree) (network : Network) : ProgramRun :=
  let options := a.options settings
  match Client.create options.http.userAgent network with
  | .error e => ⟨1, [], some e, none, files, network⟩
  | .ok client =>
    let o := Invocation.run options a.uri files client
    let lines := stdout a o
    match o.result with
    | .error .panic => ⟨101, lines, none, none, o.files, o.client.network⟩
    | .error e => ⟨1, lines, some e, none, o.files, o.client.network⟩
    | .ok _ => ⟨0, lines, none, none, o.files, o.client.network⟩

/-- Runs the program; its settings lie below a directory of their own. -/
def run (words : List String) (settingsDirectory : String) (files : Tree) (network : Network) :
    ProgramRun :=
  match Arguments.parse words with
  | .error stop => ⟨stop.exitCode, stopLines stop, none, some stop, files, network⟩
  | .ok a =>
    match Settings.load files settingsDirectory with
    | .error f => ⟨1, [], some (.config f), none, files, network⟩
    | .ok settings => invoke a settings files network

/-! ### The files of a run -/

def controlPath? (uri : String) : Option String :=
  match ControlLocation.parse uri with
  | .ok (.file path) => some path
  | _ => none

def namedOutput? (files : Tree) (uri : String) : Option String := do
  let (_, source) ← (files.openForReading (← controlPath? uri)).toOption
  let header ← (Header.read (.ofSource Buffered.standardCapacity source)).1.toOption
  (defaultOutput header.filename).toOption

/-- The files that a run may read or replace, as far as `files` tells. -/
def paths (words : List String) (settingsDirectory : String) (files : Tree) : List String :=
  match Arguments.parse words with
  | .error _ => []
  | .ok a =>
    let output := if a.output.isSome then a.output else namedOutput? files a.uri
    Settings.pathBelow settingsDirectory :: (controlPath? a.uri).toList ++ a.inputs ++
      output.toList ++ output.toList.map Path.part

end Program

end SeedSync
