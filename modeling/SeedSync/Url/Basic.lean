import SeedSync.Text.Decimal
import SeedSync.Url.Percent

/-!
URLs in their parts, and the text that they make.
-/

namespace SeedSync

inductive UrlPath
  | segments (names : List String)
  /-- The path of a URL such as `mailto:x@y`, which has no hierarchy. -/
  | rootless (text : String)
  deriving DecidableEq, Repr

structure Url where
  scheme : String
  username : String
  password : String
  host : Option String
  /-- Given only if it is not the scheme's own. -/
  port : Option Nat
  path : UrlPath
  query : Option String
  fragment : Option String
  deriving DecidableEq, Repr

namespace Url

def pathText : UrlPath → String
  | .segments names => String.join (names.map ("/" ++ ·))
  | .rootless t => t

def userinfo (u : Url) : String :=
  if u.username = "" ∧ u.password = "" then ""
  else u.username ++ (if u.password = "" then "" else ":" ++ u.password) ++ "@"

def authority (u : Url) : String :=
  match u.host with
  | none =>
    match u.path with
    | .segments ("" :: _ :: _) => "/."
    | _ => ""
  | some h => "//" ++ u.userinfo ++ h ++ (u.port.elim "" fun p => ":" ++ Decimal.text p)

def text (u : Url) : String :=
  u.scheme ++ ":" ++ u.authority ++ pathText u.path ++
    u.query.elim "" ("?" ++ ·) ++ u.fragment.elim "" ("#" ++ ·)

def isHttp (u : Url) : Bool := u.scheme == "http" || u.scheme == "https"

def toFilePath? (u : Url) : Option String :=
  match u.host.getD "", u.path with
  | "", .segments names =>
    let path := String.join (names.map fun n =>
      "/" ++ String.ofList (Percent.decodeText n.toList))
    match path.toList.reverse with
    | c :: d :: _ :: _ =>
      some (if (c = ':' ∨ c = '|') ∧ d.isAlpha then path ++ "/" else path)
    | _ => some path
  | _, _ => none

end Url

end SeedSync
