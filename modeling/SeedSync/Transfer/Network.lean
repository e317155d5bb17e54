import SeedSync.Stream.Source
import SeedSync.Transfer.Credentials
import SeedSync.Url.Parser

/-!
The network as a client sees it: servers that answer requests one after the other, whatever they
ask for, unless a request cannot be sent at all.
-/

namespace SeedSync

inductive NetworkFault
  | unsent (url : Url)
  | tooManyRedirects (url : Url)
  deriving DecidableEq, Repr

def NetworkFault.message : NetworkFault → String
  | .unsent u => "error sending request for url (" ++ bare u ++ ")"
  | .tooManyRedirects u => "error following redirect for url (" ++ bare u ++ ")"
where
  bare (u : Url) : String := { u with username := "", password := "" : Url }.text

/-- A response. Its body may arrive in any way, and may end or break off anywhere, whatever length
is announced. -/
structure Response where
  status : Nat
  headers : List (String × String)
  /-- The announced length of the body. -/
  length : Option Nat
  body : Source
  deriving DecidableEq, Repr

namespace Response

def isVisible (c : Char) : Bool := c == '\t' || (0x20 ≤ c.toNat && c.toNat ≤ 0x7E)

def headerValues (r : Response) (name : String) : List String :=
  ((r.headers.filter fun h => Cut.sameFolded h.1.toList name.toList).map Prod.snd).filter
    fun v => v.toList.all isVisible

/-- The first value of a field, if it is plain text. -/
def header? (r : Response) (name : String) : Option String :=
  ((r.headers.find? fun h => Cut.sameFolded h.1.toList name.toList).map Prod.snd).filter
    fun v => v.toList.all isVisible

/-- Whether some value of the field starts with the word Basic. -/
def isBasicChallenge (r : Response) : Bool :=
  (r.headerValues "www-authenticate").any fun v =>
    Cut.sameFolded (Blank.firstWord v.toList) "basic".toList

end Response

/-- A request for a URL; its method is always GET. -/
structure Request where
  url : Url
  range : Option String
  authorization : List String
  userAgent : String
  deriving DecidableEq, Repr

inductive Reply
  | answer (response : Response)
  /-- The connection closes without an answer. -/
  | hangUp
  deriving DecidableEq, Repr

structure Network where
  /-- Whether requests for a URL arrive. -/
  reaches : Url → Bool
  wording : NetworkFault → String
  replies : List Reply
  /-- The requests that arrived, oldest first. -/
  requests : List Request

namespace Network

def fail (n : Network) (f : NetworkFault) : IoError := .network (n.wording f)

/-- Sends one request. A server with nothing more to say does not find what is asked for. -/
def sendOnce (n : Network) (q : Request) : Except IoError Response × Network :=
  if !n.reaches q.url then (.error (n.fail (.unsent q.url)), n)
  else
    let requests := n.requests ++ [q]
    match n.replies with
    | [] => (.ok ⟨404, [], some 0, .ofBytes []⟩, { n with requests })
    | .hangUp :: replies => (.error (n.fail (.unsent q.url)), { n with replies, requests })
    | .answer r :: replies => (.ok r, { n with replies, requests })

def isRedirect (status : Nat) : Bool := [301, 302, 303, 307, 308].contains status

def redirect? (url : Url) (r : Response) : Option Url :=
  if isRedirect r.status then (r.header? "location").bind fun v => (url.join v).toOption else none

/-- Sends a request and follows up to `hops` redirects, with the same fields as long as they stay
on one host. -/
def send (hops : Nat) (n : Network) (q : Request) : Except IoError Response × Network :=
  match n.sendOnce q with
  | (.error e, n) => (.error e, n)
  | (.ok r, n) =>
    match redirect? q.url r with
    | none => (.ok r, n)
    | some url =>
      match hops with
      | 0 => (.error (n.fail (.tooManyRedirects url)), n)
      | hops + 1 =>
        let sameHost := url.host == q.url.host && url.port == q.url.port
        send hops n { q with url, authorization := if sameHost then q.authorization else [] }

end Network

end SeedSync
