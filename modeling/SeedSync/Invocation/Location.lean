import SeedSync.Error
import SeedSync.Files.Path
import SeedSync.Url.Parser

/-!
Where the control file comes from, where the target lies on the net, and where the output goes.
-/

namespace SeedSync

inductive ControlLocation
  | remote (url : Url)
  | file (path : String)
  deriving DecidableEq, Repr

namespace ControlLocation

/-- An `http`, `https` or `file` URL, or a path. A scheme of one letter is a drive's name. -/
def parse (uri : String) : Except ConfigFault ControlLocation :=
  match Url.parse uri with
  | .error _ => .ok (.file uri)
  | .ok url =>
    if url.isHttp then .ok (.remote url)
    else if url.scheme = "file" then
      match url.toFilePath? with
      | some path => .ok (.file path)
      | none => .error (.badFileUrl uri)
    else if url.scheme.length > 1 then .error (.unsupportedScheme url.scheme uri)
    else .ok (.file uri)

def text : ControlLocation → String
  | .remote url => url.text
  | .file path => path

end ControlLocation

/-- The URL that a control file names; one that is relative goes by the control file's own. -/
def namedUrl (headerUrl : String) (location : ControlLocation) : Except ConfigFault Url :=
  match Url.parse headerUrl with
  | .ok url => .ok url
  | .error .malformed => .error (.badUrl headerUrl)
  | .error .relativeWithoutBase =>
    match location with
    | .file _ => .error (.relativeUrl headerUrl)
    | .remote base =>
      match base.join headerUrl with
      | .ok url => .ok url
      | .error _ => .error (.badUrl headerUrl)

/-- The URL of the target: the one given, or else the one that the control file names. -/
def targetUrl (given : Option Url) (headerUrl : String) (location : ControlLocation) :
    Except ConfigFault Url := do
  let url ← match given with
    | some url => pure url
    | none => namedUrl headerUrl location
  if url.isHttp then .ok url else .error (.notHttp url.text)

/-- The output that a control file names: a file in the working directory. -/
def defaultOutput (filename : String) : Except ConfigFault String :=
  match Path.fileName? filename with
  | some name => .ok name
  | none => .error (.unusableFilename filename)

end SeedSync
