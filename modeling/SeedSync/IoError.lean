import SeedSync.Transfer.ByteRange

/-!
What can go wrong when bytes are read or written, each failure with its kind and its wording.
-/

namespace SeedSync

inductive IoKind
  | notFound
  | notADirectory
  | isADirectory
  | alreadyExists
  | directoryNotEmpty
  | busy
  | invalidFilename
  | invalidInput
  | invalidData
  | interrupted
  | writeZero
  | unexpectedEnd
  | other
  deriving DecidableEq, Repr

inductive IoError
  | notFound
  | notADirectory
  | isADirectory
  | alreadyExists
  | directoryNotEmpty
  | busy
  | nameTooLong
  | invalidArgument
  | nulInPath
  /-- A call that may be repeated at once. -/
  | interrupted
  | notUtf8
  /-- A file length that does not fit a signed 64-bit number. -/
  | lengthTooLarge
  | emptyWindow
  | smallBuffer (buffer window : Nat)
  | shortSource (held window : Nat)
  | badAdvance (n window : Nat)
  | outsideWindow (offset length window : Nat)
  | noBytesAccepted
  /-- The bytes ended inside of something of a fixed length. -/
  | endedEarly
  | rangeEndedEarly (range : ByteRange)
  | partEndedEarly (missing : Nat)
  | endedBefore (range : ByteRange)
  /-- A failure of the network, in the words of whoever reports it. -/
  | network (text : String)
  /-- A failure of a source or sink itself. -/
  | other (text : String)
  deriving DecidableEq, Repr

namespace IoError

def kind : IoError → IoKind
  | .notFound => .notFound
  | .notADirectory => .notADirectory
  | .isADirectory => .isADirectory
  | .alreadyExists => .alreadyExists
  | .directoryNotEmpty => .directoryNotEmpty
  | .busy => .busy
  | .nameTooLong => .invalidFilename
  | .nulInPath => .invalidInput
  | .invalidArgument => .invalidInput
  | .interrupted => .interrupted
  | .notUtf8 => .invalidData
  | .lengthTooLarge => .invalidInput
  | .emptyWindow => .invalidInput
  | .smallBuffer .. => .invalidInput
  | .shortSource .. => .unexpectedEnd
  | .badAdvance .. => .invalidInput
  | .outsideWindow .. => .invalidInput
  | .noBytesAccepted => .writeZero
  | .endedEarly => .unexpectedEnd
  | .rangeEndedEarly _ => .unexpectedEnd
  | .partEndedEarly _ => .unexpectedEnd
  | .endedBefore _ => .unexpectedEnd
  | .network _ => .other
  | .other _ => .other

def message : IoError → String
  | .notFound => "No such file or directory (os error 2)"
  | .notADirectory => "Not a directory (os error 20)"
  | .isADirectory => "Is a directory (os error 21)"
  | .alreadyExists => "File exists (os error 17)"
  | .directoryNotEmpty => "Directory not empty (os error 39)"
  | .busy => "Device or resource busy (os error 16)"
  | .nameTooLong => "File name too long (os error 36)"
  | .nulInPath => "file name contained an unexpected NUL byte"
  | .invalidArgument => "Invalid argument (os error 22)"
  | .interrupted => "interrupted"
  | .notUtf8 => "stream did not contain valid UTF-8"
  | .lengthTooLarge => "number too large to fit in target type"
  | .emptyWindow => "window size must be positive"
  | .smallBuffer b w => s!"buffer size {b} must be at least twice the window size {w}"
  | .shortSource h w => s!"source has {h} bytes, fewer than the {w} byte window"
  | .badAdvance n w => s!"cannot advance by {n} (window is {w})"
  | .outsideWindow o l w =>
    let last := min (o + l) (UInt64.size - 1)
    s!"range {o}..{last} outside of {w} byte window"
  | .noBytesAccepted => "sink accepted no bytes"
  | .endedEarly => "failed to fill whole buffer"
  | .rangeEndedEarly r => "body of " ++ r.text ++ " ended early"
  | .partEndedEarly m => s!"multipart body ended {m} bytes early"
  | .endedBefore r => "response ended before " ++ r.text
  | .network t => t
  | .other t => t

end IoError

end SeedSync
