import SeedSync.Text.ByteSize
import SeedSync.Text.Hex
import SeedSync.Transfer.Multipart
import SeedSync.Transfer.Status

/-!
Why an invocation fails: the causes, and the wording of each.
-/

namespace SeedSync

/-- What was under way when bytes could not be read or written. -/
inductive Phase
  | controlFileDownload
  | controlFileRead
  | inputFileRead
  | remoteFileDownload
  | outputFileWrite
  deriving DecidableEq, Repr

def Phase.text : Phase → String
  | .controlFileDownload => "downloading control file"
  | .controlFileRead => "reading control file"
  | .inputFileRead => "reading input file"
  | .remoteFileDownload => "downloading remote file"
  | .outputFileWrite => "writing output file"

inductive ControlFault
  | endOfHeader
  | notUtf8
  | malformedLine (line : String)
  | badNumber (key value : String)
  | zeroBlockSize
  | badHashLengths (value : String)
  | sequentialMatches (n : Nat)
  | rollingWidth (n : Nat)
  | strongWidth (n : Nat)
  | badSha1 (fault : Hex.Fault)
  | sha1Length (value : String)
  | badDate (value : String)
  | missing (key : String)
  | noFilename
  | truncatedTable (index count : Nat)
  | sumCount (expected length got : Nat)
  deriving DecidableEq, Repr

def ControlFault.message : ControlFault → String
  | .endOfHeader => "unexpected end of header"
  | .notUtf8 => "header is not valid UTF-8"
  | .malformedLine l => "malformed header line '" ++ l ++ "'"
  | .badNumber k v => "invalid " ++ k ++ " '" ++ v ++ "'"
  | .zeroBlockSize => "Blocksize must be positive"
  | .badHashLengths v => "invalid Hash-Lengths '" ++ v ++ "'"
  | .sequentialMatches n => s!"seq-matches out of range: {n}"
  | .rollingWidth n => s!"rsum-bytes out of range: {n}"
  | .strongWidth n => s!"checksum-bytes out of range: {n}"
  | .badSha1 f => "invalid SHA-1: " ++ f.message
  | .sha1Length v => "SHA-1 must be 40 hex digits, got '" ++ v ++ "'"
  | .badDate v => "invalid MTime '" ++ v ++ "'"
  | .missing k => "missing required header '" ++ k ++ "'"
  | .noFilename => "no Filename and none derivable from URL"
  | .truncatedTable i n => s!"block table truncated at block {i} of {n}"
  | .sumCount e l g => s!"expected {e} block sums for {l} bytes, got {g}"

inductive HttpFault
  /-- Its status, under the status's standard phrase. -/
  | status
  | credentialsRejected
  | noCredentials (host : String)
  | noContentRange
  | badContentRange (value : String) (fault : ByteRange.Fault)
  | overlap (range : ByteRange)
  | multipart (fault : Multipart.Fault)
  deriving DecidableEq, Repr

def HttpFault.message (status : Nat) : HttpFault → String
  | .status => Status.phrase status
  | .credentialsRejected => "credentials rejected"
  | .noCredentials h => "no credentials for host " ++ h
  | .noContentRange => "missing Content-Range header"
  | .badContentRange v f => f.message v
  | .overlap r => "overlapping range " ++ r.text
  | .multipart f => f.message

inductive ConfigFault
  | unreadable (path : String) (cause : IoError)
  | malformed (path reason : String)
  | badFileUrl (uri : String)
  | unsupportedScheme (scheme uri : String)
  | relativeUrl (url : String)
  | badUrl (url : String)
  | notHttp (url : String)
  | unusableFilename (name : String)
  | badUserAgent
  /-- A refusal by a sink or receiver, in its own words. -/
  | refused (text : String)
  deriving DecidableEq, Repr

def ConfigFault.message : ConfigFault → String
  | .unreadable p e => "cannot read " ++ p ++ ": " ++ e.message
  | .malformed p r => p ++ ": " ++ r
  | .badFileUrl u => "invalid file URL '" ++ u ++ "'"
  | .unsupportedScheme s u => "unsupported URL scheme '" ++ s ++ "' in '" ++ u ++ "'"
  | .relativeUrl u =>
    "relative URL '" ++ u ++ "' in a local control file needs an explicit remote URL"
  | .badUrl u => "invalid URL '" ++ u ++ "'"
  | .notHttp u => "remote URL must be http or https: " ++ u
  | .unusableFilename n => "unusable Filename '" ++ n ++ "'"
  | .badUserAgent => "failed to build HTTP client: builder error"
  | .refused t => t

inductive Error
  | control (fault : ControlFault)
  | http (status : Nat) (fault : HttpFault)
  | misaligned (range : ByteRange) (blockSize length : Nat)
  | checksum (expected actual : Vector UInt8 20) (part : String)
  | io (phase : Phase) (cause : IoError)
  | incomplete (missingBlocks missingBytes : Nat)
  | config (fault : ConfigFault)
  /-- A division by zero or an access out of range. It ends the program on the spot, so that nothing
  tells of it. -/
  | panic
  deriving DecidableEq, Repr

namespace Error

def message : Error → String
  | .control f => "Invalid control file: " ++ f.message
  | .http s f => s!"HTTP error {s}: " ++ f.message s
  | .misaligned r b l =>
    let first := r.first
    let last := r.last
    s!"Received range {first}-{last} is not aligned to the {b} byte block size (file length {l})"
  | .checksum e a p =>
    "Checksum mismatch: expected SHA-1 " ++ Hex.encode e.toList ++
      ", got " ++ Hex.encode a.toList ++ "\nThe partial download was kept at " ++ p ++ "."
  | .io p e => "I/O error while " ++ p.text ++ ": " ++ e.message
  | .incomplete n b =>
    s!"Transfer incomplete: {n} blocks still missing after download (" ++ ByteSize.text b ++ ")"
  | .config f => "Configuration error: " ++ f.message
  | .panic => "panic"

end Error

def inPhase {α : Type} (phase : Phase) : Except IoError α → Except Error α
  | .error e => .error (.io phase e)
  | .ok a => .ok a

end SeedSync
