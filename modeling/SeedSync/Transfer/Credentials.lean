import SeedSync.Text.Base64
import SeedSync.Text.Blank
import SeedSync.Text.Cut
import SeedSync.Text.Quoted
import SeedSync.Text.Utf8

/-!
Credentials for Basic authentication: their written forms, for all hosts and for one, and the
token that they make.
-/

namespace SeedSync

structure Credentials where
  username : String
  password : String
  deriving DecidableEq, Repr

namespace Credentials

def basic (c : Credentials) : String :=
  String.ofList ("Basic ".toList ++ Base64.encode (Utf8.encode (c.username ++ ":" ++ c.password)))

/-- The form for logs, which keeps the password out. -/
def masked (c : Credentials) : String :=
  "Credentials \x7b username: " ++ Quoted.string c.username ++ ", password: \"***\" \x7d"

inductive Fault
  | noColon (value : String)
  | noUsername
  deriving DecidableEq, Repr

def Fault.message : Fault → String
  | .noColon v => "expected USER:PASS, got '" ++ v ++ "'"
  | .noUsername => "username must not be empty"

/-- Reads `USER:PASS`; the password may hold colons. -/
def parse (value : String) : Except Fault Credentials :=
  match Cut.cut? ':' value.toList with
  | none => .error (.noColon value)
  | some ([], _) => .error .noUsername
  | some (user, pass) => .ok ⟨String.ofList user, String.ofList pass⟩

inductive HostFault
  | noHost (value : String)
  | emptyHost (value : String)
  | credentials (host : String) (fault : Fault)
  deriving DecidableEq, Repr

def HostFault.message : HostFault → String
  | .noHost v => "Invalid auth '" ++ v ++ "': expected HOST=USER:PASS"
  | .emptyHost v => "Invalid auth '" ++ v ++ "': empty host"
  | .credentials h f => "Invalid auth for '" ++ h ++ "': " ++ f.message

def parseForHost (value : String) : Except HostFault (String × Credentials) :=
  match Cut.cut? '=' value.toList with
  | none => .error (.noHost value)
  | some (host, rest) =>
    match Blank.trim host with
    | [] => .error (.emptyHost value)
    | host =>
      match parse (String.ofList rest) with
      | .error f => .error (.credentials (String.ofList host) f)
      | .ok c => .ok (String.ofList host, c)

end Credentials

end SeedSync
