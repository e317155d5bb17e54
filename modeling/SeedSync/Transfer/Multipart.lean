import SeedSync.Stream.Buffered
import SeedSync.Text.Blank
import SeedSync.Text.Utf8

/-!
Bodies of the type `multipart/byteranges`: the boundary that their type names, and their parts one
after the other. A part's body has exactly the length that its Content-Range says; what a reader
leaves of it is skipped before the next part.
-/

namespace SeedSync

namespace Multipart

def maxLine : Nat := 8192

inductive Fault
  | ended
  | endedInHeader
  | lineTooLong
  | notBoundary (line : String)
  | badHeader (line : String)
  | badRange (value : String) (fault : ByteRange.Fault)
  | noRange
  | notByteRanges (contentType : String)
  | noBoundary (contentType : String)
  deriving DecidableEq, Repr

def Fault.message : Fault → String
  | .ended => "unexpected end of multipart body"
  | .endedInHeader => "unexpected end of part headers"
  | .lineTooLong => "multipart line too long"
  | .notBoundary l => "expected boundary, found '" ++ l ++ "'"
  | .badHeader l => "malformed part header '" ++ l ++ "'"
  | .badRange v f => f.message v
  | .noRange => "part without Content-Range"
  | .notByteRanges t => "unsupported multipart subtype in '" ++ t ++ "'"
  | .noBoundary t => "missing boundary in '" ++ t ++ "'"

inductive Error
  | malformed (fault : Fault)
  | io (cause : IoError)
  deriving DecidableEq, Repr

/-! ### The type of a body -/

/-- The value of a Content-Type before its parameters, and the parameters. -/
def mediaType (value : List Char) : List Char × List (List Char) :=
  match Cut.pieces (· == ';') value with
  | [] => ([], [])
  | media :: params => (Blank.trim media, params)

def isMultipart (contentType : String) : Bool :=
  let media := (mediaType contentType.toList).1
  Cut.sameFolded (Blank.trim (media.takeWhile (· != '/'))) "multipart".toList

def parameter? (name : String) (params : List (List Char)) : Option (List Char) :=
  ((params.filterMap (Cut.cut? '=')).find? fun p =>
    Cut.sameFolded (Blank.trim p.1) name.toList).map Prod.snd

def unquote (cs : List Char) : List Char :=
  Blank.dropTrailing (· == '"') (cs.dropWhile (· == '"'))

def boundary (contentType : String) : Except Fault String :=
  let (media, params) := mediaType contentType.toList
  let subtype := ((Cut.cut? '/' media).map fun p => Blank.trim p.2).getD []
  if !Cut.sameFolded subtype "byteranges".toList then .error (.notByteRanges contentType)
  else
    match ((parameter? "boundary" params).map fun v => unquote (Blank.trim v)).getD [] with
    | [] => .error (.noBoundary contentType)
    | b => .ok (String.ofList b)

/-! ### Lines -/

/-- The next line without its end, or nothing where the bytes end. -/
def readLine (b : Buffered) : Except Error (Option (List Char)) × Buffered :=
  match b.readUntil 10 maxLine #[] with
  | (.error e, b) => (.error (.io e), b)
  | (.ok raw, b) =>
    if raw.isEmpty then (.ok none, b)
    else if raw.length = maxLine ∧ raw.getLast? ≠ some 10 then (.error (.malformed .lineTooLong), b)
    else
      (.ok (some (Blank.dropTrailing (fun c => c == '\r' || c == '\n') (Utf8.decodeLossy raw))), b)

theorem rest_of_readLine {b c : Buffered} {line : List Char}
    (h : readLine b = (.ok (some line), c)) : c.rest.length < b.rest.length := by
  unfold readLine at h
  split at h
  · simp at h
  rename_i raw d hd
  split at h
  · simp at h
  rename_i hr
  split at h
  · simp at h
  obtain rfl := (Prod.mk.inj h).2
  have := congrArg List.length (Buffered.rest_of_readUntil hd)
  have hr' : raw.length ≠ 0 := by simpa using hr
  simp at this
  omega

/-- Reads through the next delimiter line and says whether a part follows it. Before the first
part any other line is skipped, after it only empty ones. -/
def seekPart (delimiter : List Char) (started : Bool) (b : Buffered) :
    Except Error Bool × Buffered :=
  match _h : readLine b with
  | (.error e, b) => (.error e, b)
  | (.ok none, b) => (.error (.malformed .ended), b)
  | (.ok (some line), b) =>
    if line.isEmpty then seekPart delimiter started b
    else
      let tail? := if delimiter.isPrefixOf line then some (line.drop delimiter.length) else none
      if tail?.any ("--".toList.isPrefixOf ·) then (.ok false, b)
      else if tail?.any fun t => (Blank.trim t).isEmpty then (.ok true, b)
      else if started then (.error (.malformed (.notBoundary (String.ofList line))), b)
      else seekPart delimiter started b
termination_by b.rest.length
decreasing_by all_goals exact rest_of_readLine _h

def readHeader (range : Option ByteRange) (b : Buffered) : Except Error ByteRange × Buffered :=
  match _h : readLine b with
  | (.error e, b) => (.error e, b)
  | (.ok none, b) => (.error (.malformed .endedInHeader), b)
  | (.ok (some line), b) =>
    if line.isEmpty then
      match range with
      | some r => (.ok r, b)
      | none => (.error (.malformed .noRange), b)
    else
      match Cut.cut? ':' line with
      | none => (.error (.malformed (.badHeader (String.ofList line))), b)
      | some (name, value) =>
        if Cut.sameFolded (Blank.trim name) "content-range".toList then
          let value := Blank.trim value
          match ByteRange.parseChars value with
          | .error f => (.error (.malformed (.badRange (String.ofList value) f)), b)
          | .ok r => readHeader (some r) b
        else readHeader range b
termination_by b.rest.length
decreasing_by all_goals exact rest_of_readLine _h

end Multipart

/-! ### Parts -/

structure Multipart where
  reader : Buffered
  delimiter : List Char
  /-- What is left of the body of the current part. -/
  remaining : Nat
  started : Bool
  finished : Bool

namespace Multipart

def ofReader (reader : Buffered) (boundary : String) : Multipart :=
  ⟨reader, "--".toList ++ boundary.toList, 0, false, false⟩

/-- The range of the next part, or nothing after the closing delimiter. -/
def next (m : Multipart) : Except Error (Option ByteRange) × Multipart :=
  if m.finished then (.ok none, m)
  else
    match m.reader.readUpTo m.remaining with
    | (⟨_, _, some e⟩, reader) => (.error (.io e), { m with reader })
    | (⟨_, _, none⟩, reader) =>
      match seekPart m.delimiter m.started reader with
      | (.error e, reader) => (.error e, { m with reader, remaining := 0 })
      | (.ok false, reader) => (.ok none, { m with reader, remaining := 0, finished := true })
      | (.ok true, reader) =>
        match readHeader none reader with
        | (.error e, reader) => (.error e, { m with reader, remaining := 0, started := true })
        | (.ok r, reader) =>
          (.ok (some r), { m with reader, remaining := r.length, started := true })

end Multipart

end SeedSync
