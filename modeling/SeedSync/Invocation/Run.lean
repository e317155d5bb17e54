import SeedSync.Assembly.Store
import SeedSync.Invocation.Location
import SeedSync.Matching.Scan
import SeedSync.Settings.Basic

/-!
An invocation from start to end: the control file is read, the seeds are scanned for blocks of the
target, what is missing is fetched, and the result is verified and moved into place.
-/

namespace SeedSync

structure Options where
  /-- The seeds, in the order in which they are scanned. -/
  inputs : List String
  output : Option String
  url : Option Url
  credentials : CredentialMap
  http : HttpSettings
  deriving DecidableEq, Repr

/-- What an invocation leaves behind: its result, what happened, and the world as it is then. -/
structure Outcome where
  result : Except Error String
  events : Array Event
  files : Tree
  client : Client

namespace Invocation

variable (options : Options)

/-! ### The control file -/

/-- Reads a control file, and reports each read of its source by `report`. -/
def readWith (report : Nat → List Event) (source : Source) :
    Except Error ControlFile × List Event :=
  let (r, b) := ControlFile.read (.ofSource Buffered.standardCapacity source)
  (r, b.fills.toList.flatMap report)

def finishRead (r : Except Error ControlFile) : List Event :=
  match r with
  | .ok _ => [.controlReadComplete]
  | .error _ => []

def readControl (location : ControlLocation) (files : Tree) (client : Client) :
    Except Error ControlFile × List Event × Client :=
  match location with
  | .remote url =>
    match client.get url options.credentials .controlFile with
    | (.error e, events, client) => (.error e, events, client)
    | (.ok response, events, client) =>
      let (r, reads) := readWith (fun n => [.bytesDownloaded n, .bytesRead n]) response.body
      (r, events ++ [.controlReadStarted location.text none] ++ reads ++
        [Download.controlFile.closed] ++ finishRead r, client)
  | .file path =>
    match files.openForReading path with
    | .error e => (.error (.io .controlFileRead e), [], client)
    | .ok (length, source) =>
      let (r, reads) := readWith (fun n => [.bytesRead n]) source
      (r, [.controlReadStarted location.text (some length)] ++ reads ++ finishRead r, client)

/-! ### Seeds -/

/-- The seeds to scan: those given, and last the file that the output would replace. -/
def seeds (files : Tree) (output : String) : List String :=
  if files.isFile output && !options.inputs.any (Path.same output) then options.inputs ++ [output]
  else options.inputs

/-- Scans seeds until nothing is missing any more. -/
def scanSeeds (c : ControlFile) (files : Tree) (a : Assembly) :
    List String → Except Error Unit × Assembly
  | [] => (.ok (), a)
  | path :: rest =>
    if a.isComplete then scanSeeds c files a rest
    else
      match (a.save files).openForReading path with
      | .error e => (.error (.io .inputFileRead e), a)
      | .ok (length, source) =>
        match Scan.seed c (a.emit (.inputStarted path (some length))) source with
        | (.error e, a, _) => (.error e, a)
        | (.ok (), a, _) => scanSeeds c files (a.emit (.inputComplete path)) rest

/-! ### What is missing -/

/-- Fetches what the seeds did not have. -/
def fetch (url : Url) (a : Assembly) (client : Client) : Except Error Unit × Assembly × Client :=
  if a.isComplete then (.ok (), a, client)
  else
    let ranges := a.missingRanges
    match client.partialGet url ranges options.credentials a (.remoteFile ranges) with
    | (.error e, a, client) => (.error e, a, client)
    | (.ok (), a, client) =>
      if a.isComplete then (.ok (), a, client)
      else (.error (.incomplete a.remaining a.missingBytes), a, client)

/-! ### The whole -/

def destination (header : Header) (location : ControlLocation) :
    Except ConfigFault (Url × String) := do
  let url ← targetUrl options.url header.url location
  let output ← match options.output with
    | some path => pure path
    | none => defaultOutput header.filename
  return (url, output)

def assemble (c : ControlFile) (url : Url) (output : String) (journal : Array Event)
    (files : Tree) (client : Client) : Outcome :=
  let inputs := seeds options files output
  match Assembly.openAt files output c journal with
  | (.error e, files) => ⟨.error e, journal, files, client⟩
  | (.ok a, files) =>
    match scanSeeds c files a inputs with
    | (.error e, a) => ⟨.error e, a.journal, a.save files, client⟩
    | (.ok (), a) =>
      match fetch options url a client with
      | (.error e, a, client) => ⟨.error e, a.journal, a.save files, client⟩
      | (.ok (), a, client) =>
        match a.close (a.save files) with
        | (.error e, files) => ⟨.error e, a.journal, files, client⟩
        | (.ok a, files) => ⟨.ok a.path, a.journal, files, client⟩

def perform (uri : String) (journal : Array Event) (files : Tree) (client : Client) : Outcome :=
  match ControlLocation.parse uri with
  | .error f => ⟨.error (.config f), journal, files, client⟩
  | .ok location =>
    match readControl options location files client with
    | (.error e, events, client) => ⟨.error e, journal ++ events, files, client⟩
    | (.ok c, events, client) =>
      let journal := journal ++ events
      match destination options c.header location with
      | .error f => ⟨.error (.config f), journal, files, client⟩
      | .ok (url, output) => assemble options c url output journal files client

/-- The last event says how the invocation went. -/
def lastEvent? : Except Error String → Option Event
  | .ok path => some (.completed path)
  | .error .panic => none
  | .error e => some (.failed e.message)

def run (uri : String) (files : Tree) (client : Client) : Outcome :=
  let o := perform options uri #[.started uri] files client
  { o with events := o.events ++ (lastEvent? o.result).toList }

end Invocation

end SeedSync
