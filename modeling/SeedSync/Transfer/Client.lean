import SeedSync.Event.Download
import SeedSync.Transfer.Network
import SeedSync.Transfer.Receiver

/-!
Fetching whole resources and ranges of them. A host that asks for Basic authentication gets its
credentials in a second request; over TLS, one that has accepted them gets them at once.
-/

namespace SeedSync

abbrev CredentialMap := List (String × Credentials)

structure Client where
  userAgent : String
  /-- The hosts that have accepted credentials. -/
  trusted : List String
  network : Network

namespace Client

def isHeaderValue (s : String) : Bool :=
  s.toList.all fun c => c == '\t' || (0x20 ≤ c.toNat && c.toNat != 0x7F)

def create (userAgent : String) (network : Network) : Except Error Client :=
  if isHeaderValue userAgent then .ok ⟨userAgent, [], network⟩
  else .error (.config .badUserAgent)

def maxRedirects : Nat := 10

def request (c : Client) (url : Url) (range : Option String) (credentials : Option Credentials) :
    Request where
  url := url
  range := range
  authorization := (credentials.map Credentials.basic).toList
  userAgent := c.userAgent

def execute (c : Client) (url : Url) (range : Option String) (credentials : Option Credentials)
    (phase : Phase) : Except Error Response × Client :=
  let (r, network) := c.network.send maxRedirects (c.request url range credentials)
  (inPhase phase r, { c with network })

/-- Sends a request, and once more with credentials if it is answered by a Basic challenge. -/
def send (c : Client) (url : Url) (range : Option String) (credentials : CredentialMap)
    (phase : Phase) : Except Error Response × Client :=
  let host := url.host.getD ""
  let own := credentials.lookup host
  let early := if url.scheme = "https" ∧ c.trusted.contains host then own else none
  match c.execute url range early phase with
  | (.error e, c) => (.error e, c)
  | (.ok r, c) =>
    if r.status ≠ 401 then (.ok r, c)
    else if early.isSome then (.error (.http 401 .credentialsRejected), c)
    else if !r.isBasicChallenge then (.error (.http 401 .status), c)
    else
      match own with
      | none => (.error (.http 401 (.noCredentials host)), c)
      | some own =>
        match c.execute url range (some own) phase with
        | (.error e, c) => (.error e, c)
        | (.ok r, c) =>
          if r.status = 401 then (.error (.http 401 .credentialsRejected), c)
          else (.ok r, { c with trusted := host :: c.trusted })

/-- Fetches a whole resource, and reports how the download goes. -/
def get (c : Client) (url : Url) (credentials : CredentialMap) (download : Download) :
    Except Error Response × List Event × Client :=
  let (first, download) := download.initiating url.text
  match c.send url none credentials .controlFileDownload with
  | (.error e, c) => (.error e, [first], c)
  | (.ok r, c) =>
    if Status.isSuccess r.status then (.ok r, [first, download.started url.text r.length], c)
    else (.error (.http r.status .status), [first], c)

/-! ### Ranges -/

section

variable {ρ : Type} [RangeReceiver ρ]

def multipartError : Multipart.Error → Error
  | .malformed f => .http 206 (.multipart f)
  | .io e => .io .remoteFileDownload e

/-- Hands over the parts of a multipart body; each takes bytes of it, so `fuel` bounds them. -/
def receiveParts (fuel : Nat) (m : Multipart) (receiver : ρ) : Except Error Unit × ρ :=
  match fuel with
  | 0 => (.ok (), receiver)
  | fuel + 1 =>
    match m.next with
    | (.error e, _) => (.error (multipartError e), receiver)
    | (.ok none, _) => (.ok (), receiver)
    | (.ok (some r), m) =>
      match RangeReceiver.receive receiver r (m.body true) with
      | (.error e, receiver, _) => (.error e, receiver)
      | (.ok (), receiver, body) => receiveParts fuel (m.resume body) receiver

/-- Hands over what a partial response holds: the parts of a multipart body, or one range. -/
def receivePartial (r : Response) (receiver : ρ) : Except Error Unit × ρ :=
  match (r.header? "content-type").filter Multipart.isMultipart with
  | some contentType =>
    match Multipart.boundary contentType with
    | .error f => (.error (.http 206 (.multipart f)), receiver)
    | .ok boundary =>
      let reader := Buffered.ofSource Buffered.standardCapacity r.body
      receiveParts (r.body.rest.length + 1) (.ofReader reader boundary) receiver
  | none =>
    match r.header? "content-range" with
    | none => (.error (.http 206 .noContentRange), receiver)
    | some value =>
      match ByteRange.parse value with
      | .error f => (.error (.http 206 (.badContentRange value f)), receiver)
      | .ok range =>
        let (result, receiver, _) := RangeReceiver.receive receiver range (.ofSource r.body true)
        (result, receiver)

/-- Cuts ranges in increasing order out of a whole body, of which `position` bytes are read. -/
def cutRanges (reader : Buffered) (position : Nat) (receiver : ρ) :
    List ByteRange → Except Error Unit × ρ
  | [] => (.ok (), receiver)
  | r :: rest =>
    if r.first < position then (.error (.http 200 (.overlap r)), receiver)
    else
      match reader.readUpTo (r.first - position) with
      | (⟨_, _, some e⟩, _) => (.error (.io .remoteFileDownload e), receiver)
      | (⟨skipped, _, none⟩, reader) =>
        if skipped.length < r.first - position then
          (.error (.io .remoteFileDownload (.endedBefore r)), receiver)
        else
          match RangeReceiver.receive receiver r ⟨reader, .upTo r.length, true⟩ with
          | (.error e, receiver, _) => (.error e, receiver)
          | (.ok (), receiver, body) => cutRanges body.reader r.stop receiver rest

def receiveFull (r : Response) (ranges : List ByteRange) (receiver : ρ) : Except Error Unit × ρ :=
  cutRanges (.ofSource Buffered.standardCapacity r.body) 0 receiver
    (ranges.mergeSort fun x y => x.first ≤ y.first)

/-- Fetches ranges in one request and hands each to the receiver as it comes. The end of the
download is reported however it goes. -/
def partialGet (c : Client) (url : Url) (ranges : List ByteRange) (credentials : CredentialMap)
    (receiver : ρ) (download : Download) : Except Error Unit × ρ × Client :=
  if ranges.isEmpty then (.ok (), receiver, c)
  else
    let (first, download) := download.initiating url.text
    let receiver := RangeReceiver.note receiver first
    let close (receiver : ρ) : ρ := RangeReceiver.note receiver download.closed
    match c.send url (some (ByteRange.header ranges)) credentials .remoteFileDownload with
    | (.error e, c) => (.error e, close receiver, c)
    | (.ok r, c) =>
      let opened := RangeReceiver.note receiver (download.started url.text r.length)
      if r.status = 206 then
        let (result, receiver) := receivePartial r opened
        (result, close receiver, c)
      else if r.status = 200 then
        let (result, receiver) := receiveFull r ranges opened
        (result, close receiver, c)
      else (.error (.http r.status .status), close receiver, c)

end

end Client

end SeedSync
