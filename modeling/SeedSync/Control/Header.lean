import SeedSync.Error
import SeedSync.Time.MailDate

/-!
The header of a control file: lines `Key: Value` up to a blank line. Keys are read in any case,
unknown ones are passed over, and the last of several lines with one key counts.
-/

namespace SeedSync

structure HashLengths where
  /-- How many target blocks in a row have to match. -/
  sequence : Nat
  rolling : Nat
  strong : Nat
  deriving DecidableEq, Repr

/-- What holds of a control file that does not say. -/
def HashLengths.standard : HashLengths := ⟨1, 4, 16⟩

structure Header where
  version : String
  /-- The length of the target. -/
  length : Nat
  blockSize : Nat
  hashLengths : HashLengths
  sha1 : Vector UInt8 20
  url : String
  filename : String
  mtime : Option Instant
  length_lt : length < UInt64.size
  blockSize_lt : blockSize < UInt64.size
  deriving DecidableEq, Repr

namespace Header

def numBlocks (h : Header) : Nat := (h.length + h.blockSize - 1) / h.blockSize

/-- The length of the last block, zero for an empty target. -/
def lastBlockSize (h : Header) : Nat :=
  if h.length = 0 then 0 else (h.length - 1) % h.blockSize + 1

def entrySize (h : Header) : Nat := h.hashLengths.rolling + h.hashLengths.strong

/-! ### Values -/

def number (key : String) (limit : Nat) (value : List Char) : Except ControlFault (Fin limit) :=
  match Decimal.below? limit value with
  | some n => .ok n
  | none => .error (.badNumber key (String.ofList value))

def blockSize? (value : List Char) : Except ControlFault (Fin UInt64.size) := do
  let n ← number "Blocksize" UInt64.size value
  if n.val = 0 then .error .zeroBlockSize else .ok n

/-- Three numbers between commas, each in its range. -/
def hashLengths? (value : List Char) : Except ControlFault HashLengths := do
  let [sequence, rolling, strong] := (Cut.pieces (· == ',') value).map Blank.trim
    | .error (.badHashLengths (String.ofList value))
  let sequence ← number "Hash-Lengths" 256 sequence
  let rolling ← number "Hash-Lengths" 256 rolling
  let strong ← number "Hash-Lengths" 256 strong
  if sequence.val < 1 ∨ 2 < sequence.val then .error (.sequentialMatches sequence)
  else if rolling.val < 2 ∨ 4 < rolling.val then .error (.rollingWidth rolling)
  else if strong.val < 3 ∨ 16 < strong.val then .error (.strongWidth strong)
  else .ok ⟨sequence, rolling, strong⟩

def sha1? (value : List Char) : Except ControlFault (Vector UInt8 20) :=
  match Hex.decode (Utf8.encode (String.ofList value)) with
  | .error f => .error (.badSha1 f)
  | .ok bytes =>
    if h : bytes.toArray.size = 20 then .ok ⟨bytes.toArray, h⟩
    else .error (.sha1Length (String.ofList value))

def mtime? (value : List Char) : Except ControlFault Instant :=
  match MailDate.parse? value with
  | some t => .ok t
  | none => .error (.badDate (String.ofList value))

/-- What follows the last slash of a URL without its query and fragment, unless it is empty. -/
def filenameOfUrl (url : List Char) : Option (List Char) :=
  match Cut.lastPiece (· == '/') (url.takeWhile fun c => c != '?' && c != '#') with
  | [] => none
  | name => some name

/-! ### Lines -/

structure Fields where
  version : Option (List Char)
  length : Option (Fin UInt64.size)
  blockSize : Option (Fin UInt64.size)
  hashLengths : HashLengths
  sha1 : Option (Vector UInt8 20)
  url : Option (List Char)
  filename : Option (List Char)
  mtime : Option Instant

def Fields.empty : Fields := ⟨none, none, none, .standard, none, none, none, none⟩

def Fields.set (f : Fields) (key value : List Char) : Except ControlFault Fields :=
  let named (name : String) := key.map Char.toLower == name.toList
  if named "zsync" then .ok { f with version := some value }
  else if named "length" then
    (number "Length" UInt64.size value).map fun n => { f with length := some n }
  else if named "blocksize" then (blockSize? value).map fun n => { f with blockSize := some n }
  else if named "hash-lengths" then
    (hashLengths? value).map fun h => { f with hashLengths := h }
  else if named "sha-1" then (sha1? value).map fun s => { f with sha1 := some s }
  else if named "url" then .ok { f with url := some value }
  else if named "filename" then .ok { f with filename := some value }
  else if named "mtime" then (mtime? value).map fun t => { f with mtime := some t }
  else .ok f

def Fields.setLine (f : Fields) (line : List Char) : Except ControlFault Fields :=
  match Cut.cut? ':' line with
  | none => .error (.malformedLine (String.ofList line))
  | some (key, value) => f.set (Blank.trim key) (Blank.trim value)

/-- Checks that nothing is missing, in a fixed order. -/
def Fields.finish (f : Fields) : Except ControlFault Header := do
  let some url := f.url | .error (.missing "URL")
  let some filename := (f.filename.filter (· ≠ [])).or (filenameOfUrl url) | .error .noFilename
  let some length := f.length | .error (.missing "Length")
  let some blockSize := f.blockSize | .error (.missing "Blocksize")
  let some version := f.version | .error (.missing "zsync")
  let some sha1 := f.sha1 | .error (.missing "SHA-1")
  .ok ⟨String.ofList version, length, blockSize, f.hashLengths, sha1, String.ofList url,
    String.ofList filename, f.mtime, length.isLt, blockSize.isLt⟩

def isLineEnd (c : Char) : Bool := c == '\r' || c == '\n'

def readFields (f : Fields) (b : Buffered) : Except Error Fields × Buffered :=
  match _h : b.readLine with
  | (.error e, b) => (.error (.io .controlFileRead e), b)
  | (.ok [], b) => (.error (.control .endOfHeader), b)
  | (.ok (x :: xs), b) =>
    match Utf8.decode? (x :: xs) with
    | none => (.error (.control .notUtf8), b)
    | some text =>
      match Blank.dropTrailing isLineEnd text.toList with
      | [] => (.ok f, b)
      | line =>
        match f.setLine line with
        | .error fault => (.error (.control fault), b)
        | .ok f => readFields f b
termination_by b.rest.length
decreasing_by
  have := congrArg List.length (Buffered.rest_of_readUntil _h)
  simp at this
  omega

def read (b : Buffered) : Except Error Header × Buffered :=
  match readFields .empty b with
  | (.error e, b) => (.error e, b)
  | (.ok f, b) =>
    match f.finish with
    | .error fault => (.error (.control fault), b)
    | .ok h => (.ok h, b)

end Header

end SeedSync
