import SeedSync.Assembly.Index
import SeedSync.Digest.Sha1
import SeedSync.Event.Basic
import SeedSync.Files.Content
import SeedSync.Files.Path
import SeedSync.Matching.Sink
import SeedSync.Transfer.Receiver

/-!
The output under assembly. Each block is written once, from a seed or from a range of the remote
file, and from then on keeps its bytes; what is still missing reads as zeros.
-/

namespace SeedSync

structure Assembly where
  path : String
  header : Header
  sums : Array BlockSum
  index : BlockIndex
  file : Content
  /-- Which blocks are complete. -/
  completed : Array Bool
  remaining : Nat
  /-- The events so far. -/
  journal : Array Event

namespace Assembly

/-- Nothing is complete yet; the journal takes up the opening. -/
def start (path : String) (c : ControlFile) (journal : Array Event) : Assembly where
  path := path
  header := c.header
  sums := c.sums
  index := .ofSums c.sums
  file := .zeros c.header.length
  completed := Array.replicate c.numBlocks false
  remaining := c.numBlocks
  journal := journal.push (.outputStarted path c.header.length)

def emit (a : Assembly) (e : Event) : Assembly := { a with journal := a.journal.push e }

def numBlocks (a : Assembly) : Nat := a.sums.size

def blockOffset (a : Assembly) (i : Nat) : Nat := i * a.header.blockSize

def blockLength (a : Assembly) (i : Nat) : Nat :=
  if i + 1 = a.numBlocks then a.header.lastBlockSize else a.header.blockSize

def isComplete (a : Assembly) : Bool := a.remaining == 0

def isBlockComplete (a : Assembly) (i : Nat) : Bool := a.completed.getD i false

def content (a : Assembly) : List UInt8 := a.file.toList

def positions (a : Assembly) (s : BlockSum) : List Nat := a.index.positions a.sums s

def complete (a : Assembly) (i : Nat) (bytes : List UInt8) : Assembly :=
  { a with
    file := a.file.writeAt (a.blockOffset i) bytes
    completed := a.completed.setIfInBounds i true
    remaining := a.remaining - 1 }

/-! ### Blocks from seeds -/

/-- Writes a block from an offset of a view, and says whether it was still missing. -/
def writeBlock (a : Assembly) (i : Nat) (w : View) (offset : Nat) :
    Except Error Bool × Assembly :=
  match a.completed[i]? with
  | some false =>
    let length := a.blockLength i
    match w.slice offset length with
    | .error e => (.error (.io .outputFileWrite e), a)
    | .ok bytes => (.ok true, (a.complete i bytes).emit (.bytesWritten length))
  | _ => (.ok false, a)

instance : BlockSink Assembly where
  positions := positions
  writeBlock := writeBlock
  isComplete := isComplete
  noteRead a n := a.emit (.bytesRead n)

/-! ### What is missing -/

/-- The runs of missing blocks from block `i` on, each from its first block to behind its last;
`first` is where a run under way began. -/
def missingRuns (i : Nat) (first : Option Nat) : List Bool → List (Nat × Nat)
  | [] => (first.map fun f => (f, i)).toList
  | false :: rest => missingRuns (i + 1) (some (first.getD i)) rest
  | true :: rest => (first.map fun f => (f, i)).toList ++ missingRuns (i + 1) none rest

/-- The ranges of the missing bytes, those of adjacent blocks in one. -/
def missingRanges (a : Assembly) : List ByteRange :=
  (missingRuns 0 none a.completed.toList).map fun (first, stop) =>
    ⟨a.blockOffset first, min (a.blockOffset stop) a.header.length - 1⟩

def missingBytes (a : Assembly) : Nat := (a.missingRanges.map ByteRange.length).foldr (· + ·) 0

/-! ### Ranges of the remote file -/

/-- Whether a range starts and ends with blocks of the file. -/
def isAligned (a : Assembly) (r : ByteRange) : Bool :=
  decide (r.first % a.header.blockSize = 0) &&
    (decide ((r.last + 1) % a.header.blockSize = 0) || decide (r.last + 1 = a.header.length)) &&
    decide (r.last < a.header.length)

/-- A body that ended inside of a range. -/
def shortBody (r : ByteRange) (e : IoError) : Error :=
  .io .remoteFileDownload (if e.kind = .unexpectedEnd then .rangeEndedEarly r else e)

/-- Reads the blocks in turn and writes those that are missing; `written` counts their bytes. -/
def receiveBlocks (r : ByteRange) (a : Assembly) (body : Body) (written : Nat) :
    List Nat → Except Error Nat × Assembly × Body
  | [] => (.ok written, a, body)
  | i :: rest =>
    let length := a.blockLength i
    let (p, body) := body.readUpTo length
    let a := (body.events p).foldl emit a
    match p.failure with
    | some e => (.error (shortBody r e), a, body)
    | none =>
      if p.bytes.length < length then (.error (shortBody r .endedEarly), a, body)
      else if a.isBlockComplete i then receiveBlocks r a body written rest
      else receiveBlocks r (a.complete i p.bytes) body (written + length) rest

/-- Takes a range of whole blocks. Those that are complete are read past. -/
def receive (a : Assembly) (r : ByteRange) (body : Body) : Except Error Unit × Assembly × Body :=
  if !a.isAligned r then
    (.error (.misaligned r a.header.blockSize a.header.length), a, body)
  else
    let first := r.first / a.header.blockSize
    let stop := r.last / a.header.blockSize + 1
    match receiveBlocks r (a.emit (.rangeReceived r)) body 0 (List.range' first (stop - first)) with
    | (.error e, a, body) => (.error e, a, body)
    | (.ok written, a, body) =>
      (.ok (), if written = 0 then a else a.emit (.bytesWritten written), body)

instance : RangeReceiver Assembly where
  receive := receive
  note := emit

/-! ### The end -/

/-- Fails unless every block is there and the file has the digest that the header gives. -/
def verify (a : Assembly) : Except Error Unit :=
  if !a.isComplete then .error (.incomplete a.remaining a.missingBytes)
  else
    let actual := Sha1.hash a.content
    if actual = a.header.sha1 then .ok ()
    else .error (.checksum a.header.sha1 actual (Path.part a.path))

end Assembly

end SeedSync
